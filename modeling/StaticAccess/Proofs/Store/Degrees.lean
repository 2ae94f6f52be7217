import Mathlib.Algebra.BigOperators.Group.List.Basic
import Mathlib.Algebra.Ring.Nat
import StaticAccess.Proofs.Store.Layout

/-!
# Degrees in a multigraph

The degree of a vertex is the number of arcs that leave it and of those that enter it, whatever
their keys; an arc from a vertex to itself counts twice. If every arc joins two vertices of the
multigraph, then the degrees of all vertices together count every arc twice.

## Main results

- `Multigraph.sum_outDegree`, `Multigraph.Laid.sum_inDegree`: each arc leaves one vertex, and enters
  one.
- `Multigraph.Laid.degreeSum_eq`: the sum of the degrees is twice the number of arcs.
-/

namespace StaticAccess

/-- The sizes of the groups under distinct keys that cover a list add up to its length. -/
theorem sum_length_filter_key {α β : Type} [DecidableEq β] (key : α → β) {keys : List β}
    (hkeys : keys.Nodup) {l : List α} (hl : ∀ a ∈ l, key a ∈ keys) :
    (keys.map fun b => (l.filter fun a => key a = b).length).sum = l.length := by
  rw [← List.length_flatMap]
  exact (perm_flatMap_filter key hkeys hl).length_eq

theorem foldr_add_eq_sum {α : Type} (f : α → Nat) (l : List α) :
    l.foldr (fun a n => f a + n) 0 = (l.map f).sum := by
  rw [List.sum, List.foldr_map]

namespace Multigraph

variable {ν α κ ε : Type} [DecidableEq ν] {g : Multigraph ν α κ ε} {as : List (Arc ν κ ε)}

theorem multiplicity_eq (g : Multigraph ν α κ ε) (u v : ν) :
    g.multiplicity u v = (g.bundle u v).length := by
  rw [multiplicity, bundle]
  cases (g.vertices.get? u).bind fun w => w.out.get? v <;> rfl

/-- Every arc leaves one vertex. -/
theorem sum_outDegree (g : Multigraph ν α κ ε) :
    (g.vertices.keys.map g.outDegree).sum = g.size := by
  -- The degrees are asked for by name, while the size is read off the entries.
  have hdegree : ∀ p ∈ g.vertices.entries, g.outDegree p.1 = p.2.degree := by
    rintro ⟨u, w⟩ hp
    rw [outDegree, OrderedMap.mem_entries_iff.1 hp]
  rw [OrderedMap.keys, List.map_map, size, foldr_add_eq_sum]
  exact congrArg List.sum (List.map_congr_left hdegree)

namespace Laid

/-- The arcs that enter a vertex are those with the vertex as their target. -/
theorem inDegree_eq (h : g.Laid as) (v : ν) :
    g.inDegree v = (as.filter fun a => a.target = v).length := by
  have hsource : ∀ a ∈ as.filter fun a => a.target = v, a.source ∈ g.vertices.keys := fun a ha =>
    h.source_mem a (List.mem_filter.1 ha).1
  -- The arcs into `v`, taken source by source, are the bundles that the in-degree adds up.
  rw [inDegree, foldr_add_eq_sum, ← sum_length_filter_key Arc.source g.vertices.nodup_keys hsource]
  refine congrArg List.sum (List.map_congr_left fun u _ => ?_)
  rw [multiplicity_eq, h.bundle_eq, List.length_map, List.filter_comm]

/-- Every arc enters one vertex, if its target is a vertex. -/
theorem sum_inDegree (h : g.Laid as) (htarget : ∀ a ∈ as, a.target ∈ g.vertices.keys) :
    (g.vertices.keys.map g.inDegree).sum = g.size := by
  rw [funext h.inDegree_eq, sum_length_filter_key Arc.target g.vertices.nodup_keys htarget,
    ← length_arcs, h.arcs_perm.length_eq]

/-- The sum of the degrees counts every arc twice, where it starts and where it ends. -/
theorem degreeSum_eq (h : g.Laid as) (htarget : ∀ a ∈ as, a.target ∈ g.vertices.keys) :
    g.degreeSum = 2 * g.size := by
  rw [degreeSum, foldr_add_eq_sum, List.sum_map_add, g.sum_outDegree, h.sum_inDegree htarget,
    Nat.two_mul]

end Laid

end Multigraph

end StaticAccess
