import StaticAccess.Proofs.Graph.Consistency
import StaticAccess.Proofs.Graph.Equality

/-!
# Views of graphs with the same edges

Graphs that contain the same edges list them in orders of their own, but every view of a graph is
either a set, a table or a count of what is listed, and so forgets the order.

## Main definitions

- `Graph.SameViews`: all views of two graphs agree.

## Main results

- `MemberTable.get?_ofEdges`: what a table of members holds of a class.
- `Graph.staticMembers_eq`: fields and methods are listed by class in one way.
- `Graph.toList_perm_of_contains`: graphs with the same edges list them in some orders.
- `Graph.sameViews_of_contains`: graphs with the same edges have the same views.
- `Graph.hash_eq_of_contains`: and the same hash, if the order of combination does not matter.
-/

namespace StaticAccess

namespace SortedSet

variable {α : Type} [Ranked α]

/-- Lists with the same members make up the same set. -/
theorem ofList_congr {l m : List α} (h : ∀ a, a ∈ l ↔ a ∈ m) : ofList l = ofList m := by
  apply ext_mem
  simpa using h

theorem ofList_concat (l : List α) (a : α) : ofList (l ++ [a]) = (ofList l).insert a :=
  List.foldl_append

end SortedSet

namespace MemberTable

theorem get?_add (t : MemberTable) (e : Edge) (c : String) :
    (t.add e).get? c =
      if c = dotted e.targetClass then some (((t.get? c).getD .empty).insert e.targetMember)
      else t.get? c := by
  rw [add, SortedTable.get?_upsert]
  split
  · next h => rw [h]
  · rfl

/-- A table holds a class if an edge has a target in it, and of the class the members that are
targets. -/
theorem get?_ofEdges (es : List Edge) (c : String) :
    (ofEdges es).get? c =
      if ∃ e ∈ es, dotted e.targetClass = c then
        some (.ofList ((es.filter fun e => dotted e.targetClass = c).map Edge.targetMember))
      else none := by
  induction es using List.reverseRecOn with
  | nil => simp [ofEdges]
  | append_singleton es e ih =>
    have hstep : ofEdges (es ++ [e]) = (ofEdges es).add e := List.foldl_append
    rw [hstep, get?_add, ih]
    by_cases hc : c = dotted e.targetClass
    · -- The last edge has its target in the class, whether or not an earlier one has.
      have hsome : ∃ f ∈ es ++ [e], dotted f.targetClass = c := ⟨e, by simp, hc.symm⟩
      have hlast : ((es ++ [e]).filter fun f => dotted f.targetClass = c).map Edge.targetMember =
          (es.filter fun f => dotted f.targetClass = c).map Edge.targetMember ++
            [e.targetMember] := by
        simp [hc]
      rw [if_pos hc, if_pos hsome, hlast, SortedSet.ofList_concat]
      split
      · rfl
      · next hnone =>
        have hnil : es.filter (fun f => dotted f.targetClass = c) = [] := by
          simpa using hnone
        rw [hnil]
        rfl
    · -- The last edge has no part in the class.
      have hiff : (∃ f ∈ es ++ [e], dotted f.targetClass = c) ↔
          ∃ f ∈ es, dotted f.targetClass = c := by
        simp [Ne.symm hc]
      have hlast : (es ++ [e]).filter (fun f => dotted f.targetClass = c) =
          es.filter fun f => dotted f.targetClass = c := by
        simp [Ne.symm hc]
      rw [if_neg hc, hlast]
      simp only [hiff]

/-- Lists with the same edges make up the same table. -/
theorem ofEdges_congr {es fs : List Edge} (h : ∀ e, e ∈ es ↔ e ∈ fs) : ofEdges es = ofEdges fs := by
  apply SortedTable.ext_get?
  intro c
  have hmembers : SortedSet.ofList
        ((es.filter fun e => dotted e.targetClass = c).map Edge.targetMember) =
      SortedSet.ofList ((fs.filter fun e => dotted e.targetClass = c).map Edge.targetMember) := by
    apply SortedSet.ofList_congr
    simp [h]
  rw [get?_ofEdges, get?_ofEdges, hmembers]
  simp only [h]

end MemberTable

/-- Edges in another order have their ends at the same locations. -/
theorem locationsOf_perm {es fs : List Edge} (h : es.Perm fs) :
    (locationsOf es).Perm (locationsOf fs) := by
  refine (List.perm_ext_iff_of_nodup (nodup_locationsOf es) (nodup_locationsOf fs)).2 fun u => ?_
  simp only [mem_locationsOf, h.mem_iff]

namespace Graph

variable {g k : Graph}

/-- Members are listed by class in one way, whether they are gathered from a list or from a set. -/
theorem staticMembers_eq (g : Graph) (kind : Kind) :
    g.staticMembers kind = MemberTable.ofEdges (g.edgesOf kind) := by
  cases kind with
  | fieldRead => rfl
  | methodCall => exact MemberTable.ofEdges_congr fun e => SortedSet.mem_ofList

/-- There are as many vertices as locations. -/
theorem Records.order_eq {es : List Edge} (h : g.Records es) :
    g.store.order = (locationsOf es).length := by
  rw [← h.keys_eq]
  exact (List.length_map _).symm

theorem length_toList (g : Graph) : g.toList.length = g.size := by
  rw [toList, size, List.length_map, Multigraph.length_arcs]

/-- All views of two graphs agree. -/
structure SameViews (g k : Graph) : Prop where
  edgeSet_eq : ∀ kind, g.edgeSet kind = k.edgeSet kind
  sourceClasses_eq : g.sourceClasses = k.sourceClasses
  targetClasses_eq : g.targetClasses = k.targetClasses
  staticMembers_eq : ∀ kind, g.staticMembers kind = k.staticMembers kind
  accessors_eq : ∀ kind className, g.accessors kind className = k.accessors kind className
  dependencies_eq : ∀ className, g.dependencies className = k.dependencies className
  statistics_eq : g.statistics = k.statistics
  size_eq : g.size = k.size
  describe_eq : g.describe = k.describe

section SameEdges

variable (hg : Reachable g) (hk : Reachable k) (h : ∀ e, g.contains e = k.contains e)
include hg hk h

theorem mem_toList_congr (e : Edge) : e ∈ g.toList ↔ e ∈ k.toList := by
  rw [mem_toList_iff hg, mem_toList_iff hk, h]

/-- Graphs with the same edges list each of them once, in some orders. -/
theorem toList_perm_of_contains : g.toList.Perm k.toList := by
  obtain ⟨es, hes⟩ := hg.records
  obtain ⟨fs, hfs⟩ := hk.records
  exact (List.perm_ext_iff_of_nodup hes.nodup_toList hfs.nodup_toList).2 (mem_toList_congr hg hk h)

theorem edgesOf_perm_of_contains (kind : Kind) : (g.edgesOf kind).Perm (k.edgesOf kind) := by
  obtain ⟨es, hes⟩ := hg.records
  obtain ⟨fs, hfs⟩ := hk.records
  rw [hes.edgesOf_eq, hfs.edgesOf_eq]
  exact (toList_perm_of_contains hg hk h).filter _

/-- Graphs with the same edges have as many locations. -/
theorem order_eq_of_contains : g.store.order = k.store.order := by
  obtain ⟨es, hes⟩ := hg.records
  obtain ⟨fs, hfs⟩ := hk.records
  have hperm : es.Perm fs :=
    hes.toList_perm.symm.trans ((toList_perm_of_contains hg hk h).trans hfs.toList_perm)
  rw [hes.order_eq, hfs.order_eq, (locationsOf_perm hperm).length_eq]

/-- Graphs with the same edges have the same counts. -/
theorem statistics_eq_of_contains : g.statistics = k.statistics := by
  have hperm : g.toList.Perm k.toList := toList_perm_of_contains hg hk h
  have hclasses (f : Edge → String) :
      SortedSet.ofList (g.toList.map f) = SortedSet.ofList (k.toList.map f) :=
    SortedSet.ofList_congr fun c => (hperm.map f).mem_iff
  rw [statistics, statistics, hclasses, hclasses, order_eq_of_contains hg hk h, hperm.countP_eq,
    hperm.countP_eq]

/-- Graphs with the same edges have the same views. -/
theorem sameViews_of_contains : g.SameViews k := by
  have hperm : g.toList.Perm k.toList := toList_perm_of_contains hg hk h
  have hedges (kind : Kind) : g.edgeSet kind = k.edgeSet kind :=
    SortedSet.ofList_congr fun e => (edgesOf_perm_of_contains hg hk h kind).mem_iff
  have hstatistics : g.statistics = k.statistics := statistics_eq_of_contains hg hk h
  have hmembers (kind : Kind) : g.staticMembers kind = k.staticMembers kind := by
    rw [staticMembers_eq, staticMembers_eq]
    exact MemberTable.ofEdges_congr fun e => (edgesOf_perm_of_contains hg hk h kind).mem_iff
  have hdescribe : g.describe = k.describe := by
    unfold describe
    rw [hstatistics]
  exact
    { edgeSet_eq := hedges
      sourceClasses_eq := SortedSet.ofList_congr fun c => (hperm.map _).mem_iff
      targetClasses_eq := SortedSet.ofList_congr fun c => (hperm.map _).mem_iff
      staticMembers_eq := hmembers
      accessors_eq := fun kind c =>
        SortedSet.ofList_congr fun d => ((hperm.filter _).map _).mem_iff
      dependencies_eq := fun c => SortedSet.ofList_congr fun d => ((hperm.filter _).map _).mem_iff
      statistics_eq := hstatistics
      size_eq := by rw [← g.length_toList, ← k.length_toList, hperm.length_eq]
      describe_eq := hdescribe }

/-- Graphs with the same edges have the same hash, if hashes may be combined in any order. -/
theorem hash_eq_of_contains {hash : SetHash}
    (hcomm : ∀ n e f, hash.combine (hash.combine n (hash.ofEdge e)) (hash.ofEdge f) =
      hash.combine (hash.combine n (hash.ofEdge f)) (hash.ofEdge e)) :
    g.hash hash = k.hash hash := by
  have hset (kind : Kind) : hash.ofEdges (g.edgesOf kind) = hash.ofEdges (k.edgesOf kind) :=
    (edgesOf_perm_of_contains hg hk h kind).foldl_eq' (fun e _ f _ n => hcomm n e f) _
  rw [Graph.hash, Graph.hash, hset, hset]

end SameEdges

end Graph

end StaticAccess
