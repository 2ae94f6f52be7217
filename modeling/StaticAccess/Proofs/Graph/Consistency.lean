import StaticAccess.Proofs.Graph.Arrangement

/-!
# Consistency of stored edges

The store of a graph says everything about an edge more than once: an edge is the value of an
arc, its ends are the ends of the arc and also vertices of their own with labels, and its kind is
the key of the arc. `Multigraph.Consistent` says that all of these agree. Nothing in it refers to
how the store came about, so that it applies to the store of a graph and to a snapshot alike.

## Main definitions

- `Multigraph.Consistent`: vertices, labels, arcs and edges agree.

## Main results

- `Graph.Records.consistent`: the store of a graph is consistent.
-/

namespace StaticAccess

/-- The vertices, their labels, the arcs and the edges that the arcs carry agree. -/
structure Multigraph.Consistent (m : Multigraph Location Location Kind Edge) : Prop where
  /-- No vertex is listed twice. -/
  nodup_nodes : (m.nodes.map Prod.fst).Nodup
  /-- The vertices are the sources and the targets of the edges. -/
  mem_nodes_iff : ∀ u, u ∈ m.nodes.map Prod.fst ↔
    ∃ a ∈ m.arcs, u = a.value.source ∨ u = a.value.target
  /-- The label of a vertex names its class and its member. -/
  label_eq : ∀ p ∈ m.nodes, p.2.className = p.1.className ∧ p.2.member = p.1.member
  /-- An arc joins the source and the target of its edge, under the kind of the edge. -/
  arc_eq : ∀ a ∈ m.arcs,
    a.source = a.value.source ∧ a.target = a.value.target ∧ a.key = a.value.kind
  /-- No two arcs have the same ends and the same key. -/
  nodup_places : (m.arcs.map fun a => (a.source, a.target, a.key)).Nodup

theorem Multigraph.consistent_empty : (Multigraph.empty).Consistent where
  nodup_nodes := List.nodup_nil
  mem_nodes_iff := by simp [nodes, arcs, empty]
  label_eq := by simp [nodes, empty]
  arc_eq := by simp [arcs, empty]
  nodup_places := List.nodup_nil

namespace Graph

variable {g : Graph} {es : List Edge}

theorem Records.mem_arcs_iff (h : g.Records es) (a : Arc Location Kind Edge) :
    a ∈ g.store.arcs ↔ ∃ e ∈ es, e.arc = a := by
  rw [h.laid.mem_arcs, List.mem_map]

/-- The store of a graph is consistent. -/
theorem Records.consistent (h : g.Records es) : g.store.Consistent where
  nodup_nodes := g.store.map_fst_nodes ▸ g.store.vertices.nodup_keys
  mem_nodes_iff u := by
    rw [Multigraph.map_fst_nodes, h.keys_eq, mem_locationsOf]
    constructor
    · rintro ⟨e, he, hu⟩
      exact ⟨e.arc, (h.mem_arcs_iff _).2 ⟨e, he, rfl⟩, hu⟩
    · rintro ⟨a, ha, hu⟩
      obtain ⟨e, he, rfl⟩ := (h.mem_arcs_iff a).1 ha
      exact ⟨e, he, hu⟩
  label_eq p hp := by
    rw [h.nodes_eq, List.mem_map] at hp
    obtain ⟨u, -, rfl⟩ := hp
    exact ⟨rfl, rfl⟩
  arc_eq a ha := by
    obtain ⟨e, -, rfl⟩ := (h.mem_arcs_iff a).1 ha
    exact ⟨rfl, rfl, rfl⟩
  nodup_places := (h.laid.arcs_perm.map _).nodup_iff.2 h.laid.nodup_places

theorem Records.nodup_toList (h : g.Records es) : g.toList.Nodup :=
  h.toList_perm.nodup_iff.2 h.nodup

end Graph

end StaticAccess
