import StaticAccess.Proofs.Graph.Views

/-!
# Accesses between classes

Every view of a graph that names classes is a projection of one relation: a class accesses another
one if an edge leads from the one to the other, all names being taken in dotted form. The views are
computed apart from each other, each with its own filter and with the conversion of names in its own
place. Each of them is described here by the relation, and from this it follows how they fit
together.

## Main definitions

- `Graph.Accesses`: a class has an access of a kind to another class.
- `SortedSet.union`, `SortedSet.unions`: unions of sets.
- `MemberTable.classes`: the classes that a table of members lists.

## Main results

- `Graph.mem_sourceClasses`, `Graph.mem_targetClasses`, `Graph.mem_accessors`,
  `Graph.mem_dependencies`, `Graph.mem_classes_staticMembers`: the views by the relation.
- `Graph.views_agree`: how the views fit together.
-/

namespace StaticAccess

/-- What holds of some kind holds of field reads or of method calls. -/
theorem Kind.exists_iff {p : Kind → Prop} : (∃ kind, p kind) ↔ p .fieldRead ∨ p .methodCall := by
  constructor
  · rintro ⟨kind, h⟩
    cases kind with
    | fieldRead => exact .inl h
    | methodCall => exact .inr h
  · rintro (h | h)
    · exact ⟨_, h⟩
    · exact ⟨_, h⟩

namespace SortedSet

variable {α β : Type} [Ranked α] [Ranked β]

/-- The elements of either set. -/
def union (s t : SortedSet α) : SortedSet α := .ofList (s.toList ++ t.toList)

/-- The elements of the sets that a function gives to the elements of a set. -/
def unions (s : SortedSet α) (f : α → SortedSet β) : SortedSet β :=
  .ofList (s.toList.flatMap fun a => (f a).toList)

@[simp]
theorem mem_union {s t : SortedSet α} {a : α} : a ∈ s.union t ↔ a ∈ s ∨ a ∈ t := by
  simp [union]

@[simp]
theorem mem_unions {s : SortedSet α} {f : α → SortedSet β} {b : β} :
    b ∈ s.unions f ↔ ∃ a ∈ s, b ∈ f a := by
  simp [unions]

/-- A set is not empty if it has an element. -/
theorem ne_empty_iff {s : SortedSet α} : s ≠ empty ↔ ∃ a, a ∈ s := by
  constructor
  · intro h
    by_contra hnone
    exact h (ext_mem fun a => ⟨fun ha => absurd ⟨a, ha⟩ hnone, fun ha => absurd ha mem_empty⟩)
  · rintro ⟨a, ha⟩ rfl
    exact mem_empty ha

end SortedSet

namespace MemberTable

/-- The classes of which a table lists members. -/
def classes (t : MemberTable) : SortedSet String := .ofList (t.entries.map Prod.fst)

theorem mem_classes {t : MemberTable} {c : String} : c ∈ t.classes ↔ (t.get? c).isSome = true := by
  rw [classes, SortedSet.mem_ofList, SortedTable.get?, OrderedMap.isSome_lookup_iff]

/-- A table lists the classes of the targets of the edges that it is made of. -/
theorem mem_classes_ofEdges {es : List Edge} {c : String} :
    c ∈ (ofEdges es).classes ↔ ∃ e ∈ es, dotted e.targetClass = c := by
  rw [mem_classes, get?_ofEdges]
  split
  · next h => simp [h]
  · next h => simp [h]

end MemberTable

namespace Graph

variable {g : Graph} {kind : Kind} {c d : String}

/-- A class has an access of a kind to another class. Both are given by their dotted names. -/
def Accesses (g : Graph) (kind : Kind) (c d : String) : Prop :=
  ∃ e ∈ g.toList, e.kind = kind ∧ dotted e.sourceClass = c ∧ dotted e.targetClass = d

namespace Accesses

/-- Only classes in dotted form have accesses. -/
theorem dotted_source (h : g.Accesses kind c d) : dotted c = c := by
  obtain ⟨e, -, -, rfl, -⟩ := h
  exact dotted_dotted e.sourceClass

/-- Only classes in dotted form are accessed. -/
theorem dotted_target (h : g.Accesses kind c d) : dotted d = d := by
  obtain ⟨e, -, -, -, rfl⟩ := h
  exact dotted_dotted e.targetClass

end Accesses

/-! ## The views -/

theorem mem_sourceClasses : c ∈ g.sourceClasses ↔ ∃ kind d, g.Accesses kind c d := by
  simp only [sourceClasses, SortedSet.mem_ofList, List.mem_map]
  constructor
  · rintro ⟨e, he, hc⟩
    exact ⟨e.kind, _, e, he, rfl, hc, rfl⟩
  · rintro ⟨kind, d, e, he, -, hc, -⟩
    exact ⟨e, he, hc⟩

theorem mem_targetClasses : d ∈ g.targetClasses ↔ ∃ kind c, g.Accesses kind c d := by
  simp only [targetClasses, SortedSet.mem_ofList, List.mem_map]
  constructor
  · rintro ⟨e, he, hd⟩
    exact ⟨e.kind, _, e, he, rfl, rfl, hd⟩
  · rintro ⟨kind, c, e, he, -, -, hd⟩
    exact ⟨e, he, hd⟩

/-- The class may be asked for in any form. -/
theorem mem_accessors {className : String} :
    c ∈ g.accessors kind className ↔ g.Accesses kind c (dotted className) := by
  simp only [accessors, SortedSet.mem_ofList, List.mem_map, List.mem_filter, decide_eq_true_eq]
  constructor
  · rintro ⟨e, ⟨he, hkind, hd⟩, hc⟩
    exact ⟨e, he, hkind, hc, hd⟩
  · rintro ⟨e, he, hkind, hc, hd⟩
    exact ⟨e, ⟨he, hkind, hd⟩, hc⟩

/-- The class may be asked for in any form. -/
theorem mem_dependencies {className : String} :
    d ∈ g.dependencies className ↔ ∃ kind, g.Accesses kind (dotted className) d := by
  simp only [dependencies, SortedSet.mem_ofList, List.mem_map, List.mem_filter, decide_eq_true_eq]
  constructor
  · rintro ⟨e, ⟨he, hc⟩, hd⟩
    exact ⟨e.kind, e, he, rfl, hc, hd⟩
  · rintro ⟨kind, e, he, -, hc, hd⟩
    exact ⟨e, ⟨he, hc⟩, hd⟩

theorem mem_classes_staticMembers (hg : Reachable g) (kind : Kind) :
    d ∈ (g.staticMembers kind).classes ↔ ∃ c, g.Accesses kind c d := by
  -- The table is made from the arcs under the key of a kind, not from a filter of all edges.
  rw [staticMembers_eq, MemberTable.mem_classes_ofEdges]
  simp only [mem_edgesOf_iff hg, ← mem_toList_iff hg]
  constructor
  · rintro ⟨e, ⟨he, hkind⟩, hd⟩
    exact ⟨_, e, he, hkind, rfl, hd⟩
  · rintro ⟨c, e, he, hkind, -, hd⟩
    exact ⟨e, ⟨he, hkind⟩, hd⟩

/-! ## How the views fit together -/

/-- The views of a graph agree with each other, for classes that are given in any form. A class
depends on another one if it is among the readers of its fields or the callers of its methods; the
accessed classes are the dependencies of the accessing ones, and the accessing classes are the
readers and the callers of the accessed ones; a class has readers, or callers, if its fields, or its
methods, are listed; and the classes of which fields or methods are listed are the accessed ones. -/
theorem views_agree (hg : Reachable g) :
    (∀ s t, dotted t ∈ g.dependencies s ↔
      dotted s ∈ g.accessors .fieldRead t ∨ dotted s ∈ g.accessors .methodCall t) ∧
      g.targetClasses = g.sourceClasses.unions g.dependencies ∧
      g.sourceClasses = g.targetClasses.unions (fun t =>
        (g.accessors .fieldRead t).union (g.accessors .methodCall t)) ∧
      (∀ t, g.accessors .fieldRead t ≠ .empty ↔ dotted t ∈ g.staticFields.classes) ∧
      (∀ t, g.accessors .methodCall t ≠ .empty ↔ dotted t ∈ g.staticMethods.classes) ∧
      g.staticFields.classes.union g.staticMethods.classes = g.targetClasses := by
  have hlisted (kind : Kind) (t : String) :
      g.accessors kind t ≠ .empty ↔ dotted t ∈ (g.staticMembers kind).classes := by
    rw [SortedSet.ne_empty_iff, mem_classes_staticMembers hg kind]
    exact exists_congr fun c => mem_accessors
  refine ⟨fun s t => ?_, ?_, ?_, hlisted .fieldRead, hlisted .methodCall, ?_⟩
  · rw [mem_dependencies, mem_accessors, mem_accessors, Kind.exists_iff]
  · apply SortedSet.ext_mem
    intro d
    rw [mem_targetClasses, SortedSet.mem_unions]
    constructor
    · -- The class that has the access is listed in dotted form, and is asked for in this form.
      rintro ⟨kind, c, h⟩
      refine ⟨c, mem_sourceClasses.2 ⟨kind, d, h⟩, mem_dependencies.2 ⟨kind, ?_⟩⟩
      rw [h.dotted_source]
      exact h
    · -- A dependency is itself an access, whatever class it is asked of.
      rintro ⟨c, -, hd⟩
      obtain ⟨kind, h⟩ := mem_dependencies.1 hd
      exact ⟨kind, _, h⟩
  · apply SortedSet.ext_mem
    intro c
    have haccessors (t : String) :
        c ∈ (g.accessors .fieldRead t).union (g.accessors .methodCall t) ↔
          ∃ kind, g.Accesses kind c (dotted t) := by
      rw [SortedSet.mem_union, mem_accessors, mem_accessors, Kind.exists_iff]
    rw [mem_sourceClasses, SortedSet.mem_unions]
    constructor
    · rintro ⟨kind, d, h⟩
      refine ⟨d, mem_targetClasses.2 ⟨kind, c, h⟩, (haccessors d).2 ⟨kind, ?_⟩⟩
      rw [h.dotted_target]
      exact h
    · rintro ⟨d, -, hc⟩
      obtain ⟨kind, h⟩ := (haccessors d).1 hc
      exact ⟨kind, _, h⟩
  · apply SortedSet.ext_mem
    intro d
    have hfields : d ∈ g.staticFields.classes ↔ ∃ c, g.Accesses .fieldRead c d :=
      mem_classes_staticMembers hg .fieldRead
    have hmethods : d ∈ g.staticMethods.classes ↔ ∃ c, g.Accesses .methodCall c d :=
      mem_classes_staticMembers hg .methodCall
    rw [SortedSet.mem_union, hfields, hmethods, mem_targetClasses, Kind.exists_iff]

/-- Two spellings of one class, which reads a field of a class and calls a method of it. -/
theorem views_agree_spellings :
    let read : Edge := ⟨.fieldRead, "app/Main", "run", "lib/Store", "value"⟩
    let call : Edge := ⟨.methodCall, "app.Main", "stop", "lib.Store", "close"⟩
    let g := (Graph.empty true).insertAll [read, call]
    Reachable g ∧ g.sourceClasses.toList = ["app.Main"] ∧
      "lib.Store" ∈ g.dependencies "app/Main" ∧
      g.targetClasses = g.sourceClasses.unions g.dependencies ∧
      g.accessors .methodCall "lib/Store" ≠ .empty := by
  intro read call g
  have hg : Reachable g := (Reachable.empty true).insertAll [read, call]
  obtain ⟨hconverse, htargets, -, -, hmethods, -⟩ := views_agree hg
  refine ⟨hg, by decide, ?_, htargets, (hmethods "lib/Store").2 (by decide)⟩
  exact (hconverse "app/Main" "lib/Store").2 (.inl (by decide))

end Graph

end StaticAccess
