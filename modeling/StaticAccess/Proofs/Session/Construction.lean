import StaticAccess.Proofs.Edge.Construction
import StaticAccess.Proofs.Session.Contents

/-!
# Construction of edges in a session

An edge is made of values by name, or of four values that are handed to a graph: to have the edge
recorded, or to ask for it. All of these check the values alike. Either the edge is made, and a
graph in which it has been recorded says so, or each of them fails with one and the same report.

## Main results

- `Draft.edge_eq_ok_iff`: four values describe the edge whose names they are.
- `Session.construction_agrees`: what is made of some values, and what is reported of them.
-/

namespace StaticAccess

namespace Draft

variable {d : Draft} {e : Edge}

/-- Four values describe the edge whose names they are, each in its place. -/
theorem edge_eq_ok_iff : d.edge = .ok e ↔ d = .ofEdge e := by
  constructor
  · intro h
    obtain ⟨kind, sourceClass, sourceMethod, targetClass, targetMember⟩ := d
    obtain ⟨hkind, hfields⟩ := Edge.ofFields_eq_ok_iff.1 h
    obtain rfl : e.kind = kind := hkind
    simp only [Edge.fields, List.forall_mem_cons, Fields.string_eq_ok_iff] at hfields
    obtain ⟨hsourceClass, hsourceMethod, htargetClass, htargetMember, -⟩ := hfields
    obtain rfl : sourceClass = .string e.sourceClass := Option.some.inj hsourceClass
    obtain rfl : sourceMethod = .string e.sourceMethod := Option.some.inj hsourceMethod
    obtain rfl : targetClass = .string e.targetClass := Option.some.inj htargetClass
    -- The name of the fourth field is known once the kind is.
    obtain rfl : targetMember = .string e.targetMember := by
      rw [fields] at htargetMember
      cases hk : e.kind <;> rw [hk] at htargetMember <;> exact Option.some.inj htargetMember
    rfl
  · rintro rfl
    exact edge_ofEdge e

/-- Four values make an edge as they do by the names of its fields. -/
theorem ofFields_fields (d : Draft) :
    AnyEdge.ofFields (some d.kind) d.fields = d.edge.map .full := rfl

end Draft

namespace Session

variable (s : Session) (name : String) {d : Draft} {e : Edge} {error : Error}

/-- Values that describe no edge fail to be recorded and to be asked for. -/
theorem result_of_edge_error (h : d.edge = .error error) :
    (s.perform name (.record d)).result = .error error ∧
      (s.perform name (.recorded d)).result = .error error := by
  constructor
  · rw [perform, h]
    rfl
  · exact map_eq_error_iff.2 h

/-- An edge that is described by its names is recorded, and is found once it is. -/
theorem result_record_ofEdge (e : Edge) :
    (s.perform name (.record (.ofEdge e))).result = .ok .none ∧
      ((s.step ⟨name, .record (.ofEdge e)⟩).1.perform name (.recorded (.ofEdge e))).result =
        .ok (.flag true) := by
  constructor
  · rw [perform, Draft.edge_ofEdge]
    rfl
  · rw [result_recorded, graph_step_record, Graph.contains_insert, decide_eq_true rfl, Bool.true_or]

/-- Let values be given by name, for any form of edge. They make an edge if and only if each field
that the form declares is given as a string. No other names count. The edge has the declared fields
with these strings and lists them, and it is made again of what it lists. If no edge is made, the
error reports the declared fields, in their order, by a line for each one that is missing or is no
string. Four values that are handed to a graph make an edge under the names of the fields. If they
make none, the graph fails with the same error to record it and to answer whether it is recorded;
otherwise it does both, and after it has recorded the edge it answers that it is recorded. -/
theorem construction_agrees (kind : Option Kind) (fields : Fields) (d : Draft) :
    ((∃ e, AnyEdge.ofFields kind fields = .ok e) ↔
        ∀ field ∈ AnyEdge.declared kind, ∃ text, fields.get? field = some (.string text)) ∧
      (∀ others : Fields,
        (∀ field ∈ AnyEdge.declared kind, others.get? field = fields.get? field) →
          AnyEdge.ofFields kind others = AnyEdge.ofFields kind fields) ∧
      (∀ e, AnyEdge.ofFields kind fields = .ok e →
        e.given.map Prod.fst = AnyEdge.declared kind ∧
          (∀ p ∈ e.given, fields.get? p.1 = some p.2) ∧
          (Attributes.ofEdge e).answer "dump" = .ok (.object e.given) ∧
          AnyEdge.ofFields kind e.given = .ok e) ∧
      (∀ error, AnyEdge.ofFields kind fields = .error error →
        ∃ faults lines, error = .invalid (.ofKind kind) faults ∧
          List.Forall₂ fields.Lines (AnyEdge.declared kind) lines ∧
          error.message = (Schema.ofKind kind).name ++ String.join lines.flatten) ∧
      (∀ error, AnyEdge.ofFields (some d.kind) d.fields = .error error →
        (s.perform name (.record d)).result = .error error ∧
          (s.perform name (.recorded d)).result = .error error) ∧
      ∀ e, AnyEdge.ofFields (some d.kind) d.fields = .ok e →
        ∃ f, e = .full f ∧ d = .ofEdge f ∧
          (s.perform name (.record d)).result = .ok .none ∧
          (s.perform name (.recorded d)).result = .ok (.flag ((s.graph name).contains f)) ∧
          ((s.step ⟨name, .record d⟩).1.perform name (.recorded d)).result = .ok (.flag true) := by
  refine ⟨AnyEdge.exists_ofFields_iff, fun others h => AnyEdge.ofFields_congr h, ?_, ?_, ?_, ?_⟩
  · intro e he
    obtain ⟨rfl, hfields⟩ := AnyEdge.ofFields_eq_ok_iff.1 he
    refine ⟨e.map_fst_given, ?_, e.answer_dump, e.ofFields_given⟩
    intro p hp
    obtain ⟨q, hq, rfl⟩ := List.mem_map.1 hp
    exact Fields.string_eq_ok_iff.1 (hfields q hq)
  · intro error h
    obtain ⟨lines, hlines, hmessage⟩ := AnyEdge.exists_lines_of_ofFields h
    exact ⟨_, lines, AnyEdge.eq_invalid_of_ofFields h, hlines, hmessage⟩
  · intro error h
    exact s.result_of_edge_error name (map_eq_error_iff.1 h)
  · intro e h
    cases hd : d.edge with
    | error error =>
      rw [d.ofFields_fields, hd] at h
      cases h
    | ok f =>
      rw [d.ofFields_fields, hd] at h
      obtain rfl : AnyEdge.full f = e := Except.ok.inj h
      obtain rfl := Draft.edge_eq_ok_iff.1 hd
      obtain ⟨hrecord, hrecorded⟩ := s.result_record_ofEdge name f
      exact ⟨f, rfl, rfl, hrecord, s.result_recorded name f, hrecorded⟩

/-- Three faults are reported of one call, and none of the field that only a read declares nor of
the name that nothing declares. -/
theorem construction_agrees_faulty :
    let read : Edge := ⟨.fieldRead, "", "run", "lib/Store", "value"⟩
    let call : Draft := ⟨.methodCall, .string "app/Main", .null, .string "lib/Store", .int 3⟩
    let known : Fields := [("target_class", .string "lib/Store"),
      ("target_field", .string "value"), ("source_class", .int 3)]
    let fields : Fields := ("owner", .null) :: known
    (∃ error, AnyEdge.ofFields (some .methodCall) fields = .error error ∧ error.message =
        "MethodCallEdge\nsource_class: Input should be a valid string [string_type]" ++
          "\nsource_method: Field required [missing]\ntarget_method: Field required [missing]") ∧
      AnyEdge.ofFields (some .methodCall) known = AnyEdge.ofFields (some .methodCall) fields ∧
      (start.perform "g" (.record call)).result = (start.perform "g" (.recorded call)).result ∧
      AnyEdge.ofFields (some .fieldRead) (AnyEdge.full read).given = .ok (.full read) ∧
      ((start.step ⟨"g", .record (.ofEdge read)⟩).1.perform "g" (.recorded (.ofEdge read))).result =
        .ok (.flag true) := by
  intro read call known fields
  obtain ⟨-, hothers, -, hreport, herror, -⟩ :=
    construction_agrees start "g" (some .methodCall) fields call
  obtain ⟨-, -, hbuilt, -, -, hrecorded⟩ :=
    construction_agrees start "g" (some .fieldRead) (AnyEdge.full read).given (.ofEdge read)
  have hunknown : ∀ field ∈ AnyEdge.declared (some .methodCall),
      known.get? field = fields.get? field := by
    intro field hfield
    have hne : field ≠ "owner" := by
      rintro rfl
      exact absurd hfield (by decide)
    have hskip : fields.get? field = known.get? field := by
      rw [Fields.get?, List.find?_cons_of_neg (by simpa using hne.symm), Fields.get?]
    exact hskip.symm
  refine ⟨⟨_, rfl, ?_⟩, hothers _ hunknown, ?_, (hbuilt (.full read) rfl).2.2.2, ?_⟩
  · obtain ⟨faults, lines, -, hlines, hmessage⟩ := hreport _ rfl
    -- Each of the four fields adds the lines of its own fault.
    rcases hlines with _ | ⟨h₁, _ | ⟨h₂, _ | ⟨h₃, _ | ⟨h₄, _ | _⟩⟩⟩⟩
    rw [hmessage, ← Fields.map_line_faults h₁, ← Fields.map_line_faults h₂,
      ← Fields.map_line_faults h₃, ← Fields.map_line_faults h₄]
    decide +kernel
  · obtain ⟨hrecord, hasked⟩ := herror _ rfl
    rw [hrecord, hasked]
  · obtain ⟨f, hf, -, -, -, hfound⟩ := hrecorded (.full read) rfl
    exact hfound

end Session

end StaticAccess
