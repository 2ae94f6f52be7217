import Mathlib.Data.List.Forall2
import StaticAccess.Edge.Attributes

/-!
# Edges that fields describe

Each form of edge declares its fields: three, and for an edge with a kind a fourth one, whose name
depends on the kind. Some values by name describe an edge if each declared field is given as a
string, and then they describe the edge that has these strings. If not, the report has one line for
each declared field that is missing or no string, in the order of declaration. What is given under
other names has no part in this.

## Main definitions

- `AnyEdge.declared`: the names of the declared fields.
- `AnyEdge.given`: the fields of an edge as values by name.
- `Fields.Lines`: the lines that a field adds to a report.

## Main results

- `AnyEdge.ofFields_eq_ok_iff`: the edge that is described.
- `AnyEdge.exists_ofFields_iff`: whether an edge is described.
- `AnyEdge.ofFields_congr`: no other fields than the declared ones count.
- `AnyEdge.ofFields_given`: an edge is described by its own fields.
- `AnyEdge.exists_lines_of_ofFields`: what is reported if no edge is described.
-/

namespace StaticAccess

namespace Fields

variable {fields : Fields} {name : String}

/-- The lines that a field adds to the report about some values, each with the break before it. -/
inductive Lines (fields : Fields) (name : String) : List String → Prop
  /-- A field that is given as a string adds none. -/
  | string {s : String} (h : fields.get? name = some (.string s)) : Lines fields name []
  /-- A field that is not given adds a line. -/
  | missing (h : fields.get? name = none) :
    Lines fields name ["\n" ++ name ++ ": Field required [missing]"]
  /-- A field that is given as something else adds another one. -/
  | notString {v : Value} (h : fields.get? name = some v) (hv : v.string? = none) :
    Lines fields name ["\n" ++ name ++ ": Input should be a valid string [string_type]"]

/-- A field is read as a string if it is given as one. -/
theorem string_eq_ok_iff {s : String} :
    fields.string name = .ok s ↔ fields.get? name = some (.string s) := by
  rw [string]
  cases fields.get? name with
  | none => simp
  | some v => cases v <;> simp

/-- What is read of a field depends on what is given under its name. -/
theorem string_congr {others : Fields} (h : others.get? name = fields.get? name) :
    others.string name = fields.string name := by
  rw [string, h, string]

/-- The line of a fault in a report. -/
def line (p : String × Fault) : String := "\n" ++ p.1 ++ ": " ++ p.2.message

theorem exists_lines (fields : Fields) (name : String) : ∃ lines, fields.Lines name lines := by
  cases h : fields.get? name with
  | none => exact ⟨_, .missing h⟩
  | some v =>
    cases v with
    | string s => exact ⟨_, .string h⟩
    | _ => exact ⟨_, .notString h rfl⟩

/-- The lines that a field adds are those of its faults, of which there is at most one. -/
theorem map_line_faults {lines : List String} (h : fields.Lines name lines) :
    (faults [fields.string name]).map line = lines := by
  cases h with
  | string h =>
    rw [string_eq_ok_iff.2 h]
    rfl
  | missing h =>
    have hread : fields.string name = .error (name, .missing) := by rw [string, h]
    have hline : line (name, .missing) = "\n" ++ name ++ ": Field required [missing]" :=
      String.append_assoc
    rw [hread]
    exact congrArg (fun l => [l]) hline
  | @notString v h hv =>
    have hread : fields.string name = .error (name, .notString) := by
      rw [string, h]
      cases v with
      | string s => cases hv
      | _ => rfl
    have hline : line (name, .notString) =
        "\n" ++ name ++ ": Input should be a valid string [string_type]" := String.append_assoc
    rw [hread]
    exact congrArg (fun l => [l]) hline

/-- What is reported of some fields is what each of them adds, in their order. -/
theorem exists_lines_faults (fields : Fields) (names : List String) :
    ∃ lines, List.Forall₂ fields.Lines names lines ∧
      (faults (names.map fields.string)).map line = lines.flatten := by
  induction names with
  | nil => exact ⟨[], .nil, rfl⟩
  | cons name names ih =>
    obtain ⟨first, hfirst⟩ := fields.exists_lines name
    obtain ⟨lines, hlines, hfaults⟩ := ih
    refine ⟨first :: lines, .cons hfirst hlines, ?_⟩
    have happend : faults ((name :: names).map fields.string) =
        faults [fields.string name] ++ faults (names.map fields.string) := by
      exact List.filterMap_append (l := [fields.string name])
    rw [happend, List.map_append, map_line_faults hfirst, hfaults, List.flatten_cons]

end Fields

/-! ## What is described -/

theorem Edge.ofFields_eq_ok_iff {kind : Kind} {fields : Fields} {e : Edge} :
    Edge.ofFields kind fields = .ok e ↔
      e.kind = kind ∧ ∀ p ∈ e.fields, fields.string p.1 = .ok p.2 := by
  constructor
  · intro h
    rw [ofFields] at h
    split at h
    · next hsourceClass hsourceMethod htargetClass htargetMember =>
      cases h
      simp [Edge.fields, *]
    · cases h
  · rintro ⟨rfl, h⟩
    simp only [Edge.fields, List.forall_mem_cons] at h
    obtain ⟨hsourceClass, hsourceMethod, htargetClass, htargetMember, -⟩ := h
    rw [ofFields, hsourceClass, hsourceMethod, htargetClass, htargetMember]

theorem BareEdge.ofFields_eq_ok_iff {fields : Fields} {e : BareEdge} :
    BareEdge.ofFields fields = .ok e ↔
      ∀ p ∈ (AnyEdge.bare e).fields, fields.string p.1 = .ok p.2 := by
  constructor
  · intro h
    rw [ofFields] at h
    split at h
    · next hsourceClass hsourceMethod htargetClass =>
      cases h
      simp [AnyEdge.fields, *]
    · cases h
  · intro h
    simp only [AnyEdge.fields, List.forall_mem_cons] at h
    obtain ⟨hsourceClass, hsourceMethod, htargetClass, -⟩ := h
    rw [ofFields, hsourceClass, hsourceMethod, htargetClass]

namespace AnyEdge

/-- The names of the fields that a form of edge declares, in the order of declaration. -/
def declared (kind : Option Kind) : List String :=
  ["source_class", "source_method", "target_class"] ++ (kind.map Kind.memberField).toList

/-- The fields of an edge as values by name. -/
def given (e : AnyEdge) : Fields := e.fields.map fun p => (p.1, .string p.2)

variable {kind : Option Kind} {fields others : Fields} {e : AnyEdge} {error : Error}

theorem map_fst_fields (e : AnyEdge) : e.fields.map Prod.fst = declared e.kind? := by
  cases e <;> rfl

/-- The edge that is described is the one whose fields are given. -/
theorem ofFields_eq_ok_iff :
    ofFields kind fields = .ok e ↔
      e.kind? = kind ∧ ∀ p ∈ e.fields, fields.string p.1 = .ok p.2 := by
  cases kind with
  | none =>
    cases e with
    | bare b =>
      have hkind : (bare b).kind? = none := rfl
      rw [ofFields, and_iff_right hkind, ← BareEdge.ofFields_eq_ok_iff]
      cases BareEdge.ofFields fields <;> simp [Except.map]
    | full f =>
      rw [ofFields]
      cases BareEdge.ofFields fields <;> simp [Except.map, kind?]
  | some k =>
    cases e with
    | bare b =>
      rw [ofFields]
      cases Edge.ofFields k fields <;> simp [Except.map, kind?]
    | full f =>
      rw [ofFields, kind?, Option.some_inj]
      show _ ↔ f.kind = k ∧ ∀ p ∈ f.fields, _
      rw [← Edge.ofFields_eq_ok_iff]
      cases Edge.ofFields k fields <;> simp [Except.map]

/-- An edge is described if each declared field is given as a string. -/
theorem exists_ofFields_iff :
    (∃ e, ofFields kind fields = .ok e) ↔
      ∀ name ∈ declared kind, ∃ s, fields.get? name = some (.string s) := by
  constructor
  · rintro ⟨e, he⟩ name hname
    obtain ⟨rfl, hfields⟩ := ofFields_eq_ok_iff.1 he
    rw [← map_fst_fields] at hname
    obtain ⟨p, hp, rfl⟩ := List.mem_map.1 hname
    exact ⟨p.2, Fields.string_eq_ok_iff.1 (hfields p hp)⟩
  · intro h
    simp only [← Fields.string_eq_ok_iff] at h
    obtain ⟨sourceClass, hsourceClass⟩ := h "source_class" (by simp [declared])
    obtain ⟨sourceMethod, hsourceMethod⟩ := h "source_method" (by simp [declared])
    obtain ⟨targetClass, htargetClass⟩ := h "target_class" (by simp [declared])
    cases kind with
    | none =>
      refine ⟨.bare ⟨sourceClass, sourceMethod, targetClass⟩, ofFields_eq_ok_iff.2 ⟨rfl, ?_⟩⟩
      simp [AnyEdge.fields, *]
    | some k =>
      obtain ⟨targetMember, htargetMember⟩ := h k.memberField (by simp [declared])
      refine ⟨.full ⟨k, sourceClass, sourceMethod, targetClass, targetMember⟩,
        ofFields_eq_ok_iff.2 ⟨rfl, ?_⟩⟩
      simp [AnyEdge.fields, Edge.fields, *]

/-- No other fields than the declared ones count, whether an edge is described or not. -/
theorem ofFields_congr (h : ∀ name ∈ declared kind, others.get? name = fields.get? name) :
    ofFields kind others = ofFields kind fields := by
  have hread : ∀ name ∈ declared kind, others.string name = fields.string name :=
    fun name hname => Fields.string_congr (h name hname)
  cases kind with
  | none =>
    simp only [declared, Option.map_none, Option.toList_none, List.append_nil,
      List.forall_mem_cons] at hread
    obtain ⟨hsourceClass, hsourceMethod, htargetClass, -⟩ := hread
    rw [ofFields, BareEdge.ofFields, hsourceClass, hsourceMethod, htargetClass]
    rfl
  | some k =>
    simp only [declared, Option.map_some, Option.toList_some, List.cons_append, List.nil_append,
      List.forall_mem_cons] at hread
    obtain ⟨hsourceClass, hsourceMethod, htargetClass, htargetMember, -⟩ := hread
    rw [ofFields, Edge.ofFields, hsourceClass, hsourceMethod, htargetClass, htargetMember]
    rfl

theorem map_fst_given (e : AnyEdge) : e.given.map Prod.fst = declared e.kind? := by
  rw [given, List.map_map, ← map_fst_fields]
  rfl

/-- An edge is described by its own fields. -/
theorem ofFields_given (e : AnyEdge) : ofFields e.kind? e.given = .ok e := by
  cases e with
  | bare b => rfl
  | full f =>
    obtain ⟨kind, _, _, _, _⟩ := f
    cases kind <;> rfl

/-- An edge that was just built lists its own fields, all of them. -/
theorem answer_dump (e : AnyEdge) :
    (Attributes.ofEdge e).answer "dump" = .ok (.object e.given) := by
  cases e with
  | bare b => rfl
  | full f =>
    obtain ⟨kind, _, _, _, _⟩ := f
    cases kind <;> rfl

/-! ## What is reported -/

/-- If no edge is described, the faults of the declared fields are reported. -/
theorem eq_invalid_of_ofFields (h : ofFields kind fields = .error error) :
    error = .invalid (.ofKind kind) (Fields.faults ((declared kind).map fields.string)) := by
  cases kind with
  | none =>
    rw [ofFields, map_eq_error_iff, BareEdge.ofFields] at h
    split at h
    · cases h
    · cases h
      rfl
  | some k =>
    rw [ofFields, map_eq_error_iff, Edge.ofFields] at h
    split at h
    · cases h
    · cases h
      rfl

/-- If no edge is described, what is reported are the lines of the declared fields. -/
theorem exists_lines_of_ofFields (h : ofFields kind fields = .error error) :
    ∃ lines, List.Forall₂ fields.Lines (declared kind) lines ∧
      error.message = (Schema.ofKind kind).name ++ String.join lines.flatten := by
  obtain ⟨lines, hlines, hfaults⟩ := fields.exists_lines_faults (declared kind)
  refine ⟨lines, hlines, ?_⟩
  rw [eq_invalid_of_ofFields h, ← hfaults]
  rfl

end AnyEdge

end StaticAccess
