import StaticAccess.Proofs.Graph.Accesses

/-!
# Accessed members by class

The fields that are read and the methods that are called are listed under the dotted name of their
class. The table is folded from the edges one by one: each of them opens the entry of its class if
it is the first one there, and puts its target into it. Spellings of a class that have the same
dotted form share one entry, while the names of the members are kept as they are.

## Main definitions

- `MemberTable.Lists`: a table lists a member of a class.

## Main results

- `MemberTable.lists_ofEdges`: which members a table lists.
- `Graph.members_by_class`: the tables of fields and of methods, from the edges of a graph.
-/

namespace StaticAccess

namespace MemberTable

variable {es : List Edge} {c m : String}

/-- A table lists a name among the members of a class. -/
def Lists (t : MemberTable) (c m : String) : Prop :=
  ∃ members, t.get? c = some members ∧ m ∈ members

/-- A table lists the members that are targets in their class. -/
theorem lists_ofEdges :
    (ofEdges es).Lists c m ↔ ∃ e ∈ es, dotted e.targetClass = c ∧ e.targetMember = m := by
  rw [Lists, get?_ofEdges]
  split
  · simp [and_assoc]
  · next hnone =>
    -- No edge has its target in the class at all.
    simp only [reduceCtorEq, false_and, exists_false, false_iff]
    rintro ⟨e, he, hc, -⟩
    exact hnone ⟨e, he, hc⟩

/-- A table lists no class without members. -/
theorem ne_empty_of_get?_ofEdges {members : SortedSet String}
    (h : (ofEdges es).get? c = some members) : members ≠ .empty := by
  have hc : c ∈ (ofEdges es).classes := by rw [mem_classes, h]; rfl
  obtain ⟨e, he, hclass⟩ := mem_classes_ofEdges.1 hc
  -- The edge that opened the entry has put its target into it.
  obtain ⟨listed, hlisted, hm⟩ := lists_ofEdges.2 ⟨e, he, hclass, rfl⟩
  rw [h, Option.some.injEq] at hlisted
  exact SortedSet.ne_empty_iff.2 ⟨_, hlisted ▸ hm⟩

end MemberTable

namespace Graph

variable {g : Graph} {kind : Kind}

/-- The members of a kind are those that the edges of the kind make up, in whatever order and
however often these are folded. -/
theorem ofEdges_eq_staticMembers (hg : Reachable g) {es : List Edge}
    (hes : ∀ e, e ∈ es ↔ g.contains e = true ∧ e.kind = kind) :
    MemberTable.ofEdges es = g.staticMembers kind := by
  rw [staticMembers_eq]
  exact MemberTable.ofEdges_congr fun e => (hes e).trans (mem_edgesOf_iff hg kind e).symm

/-- The table of the fields that are read, and likewise that of the methods that are called. A class
has an entry, under its dotted name, if and only if some edge of the kind has its target in the
class, however the class is spelled there. The entry is not empty; it holds the members, spelled as
they are, which are the targets of all edges of the kind into the class. Edges of the other kind
and known edges contribute nothing to the table. It is what a fold of the edges of the kind gives in
any order. -/
theorem members_by_class (hg : Reachable g) (kind : Kind) :
    let table := g.staticMembers kind
    (∀ c, c ∈ table.classes ↔
        ∃ e, g.contains e = true ∧ e.kind = kind ∧ dotted e.targetClass = c) ∧
      (∀ c members, table.get? c = some members → members ≠ .empty ∧
        ∀ m, m ∈ members ↔ ∃ e, g.contains e = true ∧ e.kind = kind ∧
          dotted e.targetClass = c ∧ e.targetMember = m) ∧
      (∀ es, (∀ e ∈ es, e.kind = kind → g.contains e = true) →
        (g.insertAll es).staticMembers kind = table) ∧
      ∀ es, (∀ e, e ∈ es ↔ g.contains e = true ∧ e.kind = kind) →
        MemberTable.ofEdges es = table := by
  intro table
  have htable : table = MemberTable.ofEdges (g.edgesOf kind) := g.staticMembers_eq kind
  refine ⟨fun c => ?_, fun c members hmembers => ⟨?_, fun m => ?_⟩, fun es hknown => ?_,
    fun es => ofEdges_eq_staticMembers hg⟩
  · rw [htable, MemberTable.mem_classes_ofEdges]
    simp only [mem_edgesOf_iff hg, and_assoc]
  · rw [htable] at hmembers
    exact MemberTable.ne_empty_of_get?_ofEdges hmembers
  · have hlists : table.Lists c m ↔ m ∈ members := by simp [MemberTable.Lists, hmembers]
    rw [← hlists, htable, MemberTable.lists_ofEdges]
    simp only [mem_edgesOf_iff hg, and_assoc]
  · -- The edges of the kind are those that were there.
    rw [htable]
    refine (ofEdges_eq_staticMembers (hg.insertAll es) fun e => ?_).symm
    rw [mem_edgesOf_iff hg]
    exact and_congr_left fun hkind => by rw [contains_insertAll_of_kind hknown hkind]

/-- Fields of one class, which is spelled in two ways, stand in one entry; the slash in the name of
a field stays, and a method of the class is not listed with them. -/
theorem members_by_class_spellings :
    let read : Edge := ⟨.fieldRead, "app/Main", "run", "lib/Store", "a/value"⟩
    let mixed : Edge := ⟨.fieldRead, "app/Test", "check", "lib.Store", "limit"⟩
    let call : Edge := ⟨.methodCall, "app/Main", "run", "lib/Store", "load"⟩
    let g := (Graph.empty false).insertAll [read, call, mixed]
    Reachable g ∧ "lib.Store" ∈ g.staticFields.classes ∧ "lib/Store" ∉ g.staticFields.classes ∧
      (∃ members, g.staticFields.get? "lib.Store" = some members ∧ "a/value" ∈ members ∧
        "load" ∉ members) ∧
      MemberTable.ofEdges [mixed, read, mixed] = g.staticFields := by
  intro read mixed call g
  have hg : Reachable g := (Reachable.empty false).insertAll [read, call, mixed]
  have hcontains (e : Edge) : g.contains e = true ↔ e ∈ [read, call, mixed] := by
    rw [contains_insertAll_empty, decide_eq_true_eq]
  have hread : ∀ e ∈ [mixed, read, mixed], e ∈ [read, call, mixed] ∧ e.kind = .fieldRead := by
    decide
  have hlisted : ∀ e ∈ [read, call, mixed], e.kind = .fieldRead → e ∈ [mixed, read, mixed] := by
    decide
  obtain ⟨hclasses, hmembers, -, horder⟩ := members_by_class hg .fieldRead
  have hmember : "a/value" ∈ SortedSet.ofList ["a/value", "limit"] :=
    ((hmembers "lib.Store" _ (by decide)).2 "a/value").2
      ⟨read, by decide, rfl, by decide, rfl⟩
  refine ⟨hg, (hclasses "lib.Store").2 ⟨read, by decide, rfl, by decide⟩, by decide,
    ⟨.ofList ["a/value", "limit"], by decide, hmember, by decide⟩, horder _ fun e => ?_⟩
  rw [hcontains]
  exact ⟨hread e, fun he => hlisted e he.1 he.2⟩

end Graph

end StaticAccess
