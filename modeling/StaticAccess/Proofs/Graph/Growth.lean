import Mathlib.Data.List.Infix
import StaticAccess.Proofs.Graph.Views

/-!
# Growth of a graph

An edge that is added takes its place among the edges that the graph lists already, often in their
midst: under a source that is listed early, or beside the edge of the other kind between the same
locations. The edges around it keep their order. Locations are added at the end only. The edges from
one location are listed together, and other edges have no part in their order.

## Main definitions

- `Graph.edgesFrom`: the edges that start at a location.

## Main results

- `arranged_sublist_append`: edges keep their order when more edges are arranged with them.
- `Graph.edgesFrom_insertAll`: the order of the edges that are added from a new source.
- `Graph.toList_sublist_insertAll`: the edges of a graph keep their order when it grows.
- `Graph.nodes_prefix_insertAll`: the locations of a graph come first when it has grown.
- `Graph.insertAll_eq_self_of_size`: a graph that has not become larger has not changed.
-/

namespace StaticAccess

theorem locationsOf_prefix_append (es fs : List Edge) :
    locationsOf es <+: locationsOf (es ++ fs) := by
  rw [locationsOf, locationsOf, List.flatMap_append]
  exact eraseDups_prefix_append _ _

/-- Edges keep their order when more edges are arranged with them. -/
theorem arranged_sublist_append (es fs : List Edge) :
    List.Sublist (arranged es) (arranged (es ++ fs)) := by
  -- Sources keep their order, and so do the edges of each source.
  refine flatMap_sublist_flatMap (locationsOf_prefix_append es fs).sublist fun u => ?_
  rw [List.filter_append]
  exact grouped_sublist_append Edge.target _ _

namespace Graph

variable {g : Graph} {es : List Edge}

/-- The edges that start at a location, in the order in which a graph lists them. -/
def edgesFrom (g : Graph) (u : Location) : List Edge := g.toList.filter fun e => e.source = u

/-- The edges that start at a location are listed as if the graph held no other ones. -/
theorem Records.edgesFrom_eq (h : g.Records es) (u : Location) :
    g.edgesFrom u = grouped Edge.target (es.filter fun e => e.source = u) := by
  rw [edgesFrom, h.toList_eq, filter_arranged]

/-- If no edge starts at a location, then the order of those that are added alone decides how they
are listed, whatever other edges come between them. -/
theorem edgesFrom_insertAll (hg : Reachable g) {u : Location}
    (hnone : ∀ e, g.contains e = true → e.source ≠ u) (fs : List Edge) :
    (g.insertAll fs).edgesFrom u =
      grouped Edge.target (fs.filter fun e => e.source = u).eraseDups := by
  obtain ⟨es, hes⟩ := hg.records
  have hnil : (es.filter fun e => e.source = u) = [] := by
    refine List.filter_eq_nil_iff.2 fun e he => ?_
    simpa using hnone e ((hes.contains_iff e).2 he)
  rw [(hes.insertAll fs).edgesFrom_eq, filter_eraseDups, List.filter_append, hnil, List.nil_append]

/-- Known edges leave a graph as it is, order included. -/
theorem insertAll_eq_self_of_contains (h : ∀ e ∈ es, g.contains e = true) : g.insertAll es = g := by
  induction es with
  | nil => rfl
  | cons e es ih =>
    obtain ⟨he, hes⟩ := List.forall_mem_cons.1 h
    rw [insertAll_cons, insert_eq_self_of_contains he]
    exact ih hes

/-- What a graph records after additions begins with what it recorded before. -/
theorem Records.exists_append (h : g.Records es) (fs : List Edge) :
    ∃ new, (g.insertAll fs).Records (es ++ new) := by
  -- Of all edges in a row, the first occurrences are recorded.
  have hrecords := h.insertAll fs
  rw [List.eraseDups_append, eraseDups_of_nodup h.nodup] at hrecords
  exact ⟨_, hrecords⟩

/-- The edges of a graph keep their order when it grows. -/
theorem toList_sublist_insertAll (hg : Reachable g) (es : List Edge) :
    List.Sublist g.toList (g.insertAll es).toList := by
  obtain ⟨old, hold⟩ := hg.records
  obtain ⟨new, hnew⟩ := hold.exists_append es
  rw [hold.toList_eq, hnew.toList_eq]
  exact arranged_sublist_append old new

/-- The locations of a graph come first when it has grown. -/
theorem nodes_prefix_insertAll (hg : Reachable g) (es : List Edge) :
    g.store.nodes <+: (g.insertAll es).store.nodes := by
  obtain ⟨old, hold⟩ := hg.records
  obtain ⟨new, hnew⟩ := hold.exists_append es
  rw [hold.nodes_eq, hnew.nodes_eq]
  exact (locationsOf_prefix_append old new).map _

/-- A graph that has not become larger has not changed, order included. -/
theorem insertAll_eq_self_of_size (hg : Reachable g) (h : (g.insertAll es).size = g.size) :
    g.insertAll es = g := by
  have hlist : g.toList = (g.insertAll es).toList := by
    refine (toList_sublist_insertAll hg es).eq_of_length ?_
    rw [length_toList, length_toList, h]
  -- All that was added is listed now, and so it was listed before.
  refine insertAll_eq_self_of_contains fun e he => ?_
  rw [← mem_toList_iff hg, hlist, mem_toList_iff (hg.insertAll es), contains_insertAll,
    decide_eq_true he, Bool.true_or]

end Graph

end StaticAccess
