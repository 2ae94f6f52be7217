import StaticAccess.Edge.Fields
import StaticAccess.Proofs.Graph.Counts
import StaticAccess.Proofs.Graph.Spelling
import StaticAccess.Proofs.Workers.Interleaving

/-!
# Distinct edges

There are two ways to tell edges apart. A comparison takes edges for the same if they have the same
kind and the same four names. A graph takes them for the same if their arcs have the same ends and
the same key. The two agree on any two edges, and so on the number of distinct ones among any edges.

## Main results

- `Graph.size_insertAll_empty`: a graph holds each of the edges that were added to it once.
- `Workers.distinct_edges`: the two ways agree.
-/

namespace StaticAccess

/-- A graph that was empty holds each of the edges that were added to it once. -/
theorem Graph.size_insertAll_empty (announce : Bool) (es : List Edge) :
    ((Graph.empty announce).insertAll es).size = es.toFinset.card := by
  have hg : ((Graph.empty announce).insertAll es).Reachable :=
    (Reachable.empty announce).insertAll es
  have hset : ((Graph.empty announce).insertAll es).toList.toFinset = es.toFinset := by
    ext e
    simp only [List.mem_toFinset, mem_toList_iff hg, contains_insertAll_empty, decide_eq_true_eq]
  rw [← card_toList hg, hset]

namespace Workers

/-- Let some edges be compared, and let them be added to an empty graph in any order. The number of
distinct edges in the comparison is that of the different edges, and the graph is as large; as many
calls answer that their edge is new. Two edges are the same in the comparison if and only if the
second is recorded in a graph to which only the first was added, and then it is not new there. -/
theorem distinct_edges (announce : Bool) {es fs : List Edge} (h : fs.Perm es) :
    let c := Comparison.ofEdges es
    let added := addEach (.empty announce)
    c.distinct = es.toFinset.card ∧
      (added fs).1.size = c.distinct ∧
      (added fs).2.countP Call.isNew = c.distinct ∧
      c.equal = (es.map fun e => es.map fun f => (added [e]).1.has (.edge f)) ∧
      (∀ e f, (added [e]).1.has (.edge f) = true ↔ e = f) ∧
      ∀ e f, (added [e, f]).2 = [⟨e, .ok true⟩, ⟨f, .ok (decide (e ≠ f))⟩] := by
  intro c added
  have hdistinct : c.distinct = es.toFinset.card := SortedSet.size_ofList es
  have hsize : (added fs).1.size = c.distinct := by
    rw [graph_addEach, Graph.size_insertAll_empty, hdistinct, List.toFinset_eq_of_perm _ _ h]
  have hhas (e f : Edge) : (added [e]).1.has (.edge f) = decide (e = f) := by
    show (addEach (.empty announce) [e]).1.contains f = _
    rw [graph_addEach, Graph.contains_insertAll_empty]
    simp [eq_comm]
  refine ⟨hdistinct, hsize, ?_, ?_, ?_, ?_⟩
  · -- The graph has grown by one edge with each call that answers so.
    have hempty : (Graph.empty announce).size = 0 := rfl
    rw [← hsize, size_addEach (.empty announce) fs, hempty, Nat.zero_add]
  · simp only [hhas]
    rfl
  · intro e f
    rw [hhas, decide_eq_true_eq]
  · intro e f
    have hsecond : ((Graph.empty announce).insert e).contains f = decide (f = e) := by
      rw [Graph.contains_insert]
      exact Bool.or_false _
    show [Call.mk e (.ok true), ⟨f, .ok (!((Graph.empty announce).insert e).contains f)⟩] = _
    rw [hsecond, ← decide_not]
    simp [ne_comm]

/-- Three edges of which two are the same, and the third differs from them in its kind only. -/
theorem distinct_edges_repeated :
    let read : Edge := ⟨.fieldRead, "app/Main", "run", "app/Main", "run"⟩
    let es := [read, read.swap, read]
    let fs := [read.swap, read, read]
    fs.Perm es ∧ (Comparison.ofEdges es).distinct = 2 ∧
      (addEach (.empty false) fs).1.size = 2 ∧
      (addEach (.empty false) fs).2.countP Call.isNew = 2 ∧
      (addEach (.empty false) [read]).1.has (.edge read.swap) = false := by
  intro read es fs
  have hperm : fs.Perm es := .swap read read.swap [read]
  obtain ⟨hcard, hsize, hnew, -, hhas, -⟩ := distinct_edges false hperm
  have hdistinct : (Comparison.ofEdges es).distinct = 2 := by
    rw [hcard]
    decide
  refine ⟨hperm, hdistinct, hsize.trans hdistinct, hnew.trans hdistinct, ?_⟩
  rw [← Bool.not_eq_true, hhas]
  decide

end Workers

end StaticAccess
