import StaticAccess.Proofs.Store.Layout

/-!
# Copies of a multigraph

A copy is built by adding the vertices and drawing the arcs in the order in which they are
listed. The arcs are listed grouped by their ends, not in the order in which they were drawn,
but grouping them once more changes nothing, so a copy is the multigraph itself.

## Main results

- `Multigraph.Laid.copy_eq`: a multigraph whose arcs are laid out is equal to its copy.
-/

namespace StaticAccess

/-- A change of the values changes what is found under each key. -/
theorem OrderedMap.lookup_map {α β γ : Type} [DecidableEq α] (f : β → γ) (k : α)
    (l : List (α × β)) : lookup k (l.map fun p => (p.1, f p.2)) = (lookup k l).map f := by
  induction l with
  | nil => rfl
  | cons p l ih =>
    obtain ⟨a, b⟩ := p
    rw [List.map_cons, lookup, lookup, ih]
    split <;> rfl

namespace Multigraph

variable {ν α κ ε : Type} [DecidableEq ν] {g : Multigraph ν α κ ε}

omit [DecidableEq ν] in
theorem map_fst_nodes (g : Multigraph ν α κ ε) : g.nodes.map Prod.fst = g.vertices.keys := by
  rw [nodes, List.map_map]
  rfl

theorem lookup_nodes (g : Multigraph ν α κ ε) (u : ν) :
    OrderedMap.lookup u g.nodes = g.label? u :=
  OrderedMap.lookup_map Vertex.label u g.vertices.entries

/-- The multigraph with some more vertices. -/
def addNodes (g : Multigraph ν α κ ε) (ps : List (ν × α)) : Multigraph ν α κ ε :=
  ps.foldl (fun g p => g.addNode p.1 p.2) g

/-- The multigraph with some more arcs. -/
def connectAll [DecidableEq κ] (g : Multigraph ν α κ ε) (as : List (Arc ν κ ε)) :
    Multigraph ν α κ ε :=
  as.foldl (fun g a => g.connect a.source a.target a.key a.value) g

/-- New vertices come last, in their order. -/
theorem keys_addNodes {ps : List (ν × α)} (hnew : (g.vertices.keys ++ ps.map Prod.fst).Nodup) :
    (g.addNodes ps).vertices.keys = g.vertices.keys ++ ps.map Prod.fst := by
  induction ps generalizing g with
  | nil => simp [addNodes]
  | cons p ps ih =>
    have hp : p.1 ∉ g.vertices.keys := fun hmem =>
      (List.nodup_append.1 hnew).2.2 _ hmem _ List.mem_cons_self rfl
    have hkeys : (g.addNode p.1 p.2).vertices.keys = g.vertices.keys ++ [p.1] := by
      rw [keys_addNode, if_neg hp]
    rw [List.map_cons, List.append_cons, ← hkeys] at hnew ⊢
    exact ih hnew

/-- Each of some new vertices has its own label. -/
theorem label?_addNodes {ps : List (ν × α)} (hnew : (ps.map Prod.fst).Nodup) (u : ν) :
    (g.addNodes ps).label? u = (OrderedMap.lookup u ps).or (g.label? u) := by
  induction ps generalizing g with
  | nil => rfl
  | cons p ps ih =>
    obtain ⟨v, a⟩ := p
    obtain ⟨hv, hps⟩ := List.nodup_cons.1 hnew
    show ((g.addNode v a).addNodes ps).label? u = _
    rw [ih hps, label?_addNode, OrderedMap.lookup]
    by_cases huv : u = v
    · -- No later vertex gives `u` another label.
      have hnone : OrderedMap.lookup u ps = none := by
        rw [← Option.not_isSome_iff_eq_none, OrderedMap.isSome_lookup_iff, huv]
        exact hv
      rw [if_pos huv, if_pos huv.symm, hnone]
      rfl
    · rw [if_neg huv, if_neg (Ne.symm huv)]

/-- The vertices of a multigraph with their labels, and no arcs. -/
def withoutArcs (g : Multigraph ν α κ ε) : Multigraph ν α κ ε := empty.addNodes g.nodes

theorem keys_withoutArcs (g : Multigraph ν α κ ε) :
    g.withoutArcs.vertices.keys = g.vertices.keys := by
  have hnew : ((empty : Multigraph ν α κ ε).vertices.keys ++ g.nodes.map Prod.fst).Nodup := by
    rw [map_fst_nodes]
    exact g.vertices.nodup_keys
  rw [withoutArcs, keys_addNodes hnew, map_fst_nodes]
  rfl

theorem label?_withoutArcs (g : Multigraph ν α κ ε) (u : ν) :
    g.withoutArcs.label? u = g.label? u := by
  have hnew : (g.nodes.map Prod.fst).Nodup := g.map_fst_nodes ▸ g.vertices.nodup_keys
  rw [withoutArcs, label?_addNodes hnew, lookup_nodes]
  exact Option.or_none

theorem Laid.addNodes {as : List (Arc ν κ ε)} (h : g.Laid as) (ps : List (ν × α)) :
    (g.addNodes ps).Laid as := by
  induction ps generalizing g with
  | nil => exact h
  | cons p ps ih => exact ih (h.addNode p.1 p.2)

variable [DecidableEq κ]

/-- Arcs change no vertex and no label. -/
theorem vertices_connectAll (g : Multigraph ν α κ ε) (as : List (Arc ν κ ε)) :
    (g.connectAll as).vertices.keys = g.vertices.keys ∧
      ∀ u, (g.connectAll as).label? u = g.label? u := by
  induction as generalizing g with
  | nil => exact ⟨rfl, fun _ => rfl⟩
  | cons a as ih =>
    obtain ⟨hkeys, hlabel⟩ := ih (g.connect a.source a.target a.key a.value)
    refine ⟨hkeys.trans (keys_connect _ _ _ _ _), fun u => ?_⟩
    exact (hlabel u).trans (label?_connect _ _ _ _ _ _)

/-- A multigraph whose arcs are laid out is equal to its copy. -/
theorem Laid.copy_eq {as : List (Arc ν κ ε)} (h : g.Laid as) : g.copy = g := by
  -- The arcs are drawn between the vertices alone, in the order of the listing.
  have hcopy : g.copy.Laid g.arcs := by
    refine (Laid.empty.addNodes g.nodes).foldl_connect (fun a ha => ?_) ?_
    · exact g.keys_withoutArcs.symm ▸ h.source_mem a (h.mem_arcs.1 ha)
    · exact (h.arcs_perm.map Arc.place).nodup_iff.2 h.nodup_places
  -- From every source the copy therefore draws the arcs grouped by target.
  have hfilter (u : ν) : (g.arcs.filter fun a => a.source = u) =
      grouped Arc.target (as.filter fun a => a.source = u) := by
    rw [h.arcs_eq, filter_gathered g.vertices.nodup_keys h.source_mem]
  obtain ⟨hkeys, hlabel⟩ := vertices_connectAll g.withoutArcs g.arcs
  refine eq_of_views (hkeys.trans g.keys_withoutArcs)
    (fun u => (hlabel u).trans (g.label?_withoutArcs u)) (fun u => ?_) (fun u v => ?_)
  -- Grouping keeps the order of the targets and the order of the arcs to each of them.
  · rw [hcopy.targets_eq, hfilter, eraseDups_map_grouped, h.targets_eq]
  · rw [hcopy.bundle_eq, hfilter, filter_grouped, h.bundle_eq]

end Multigraph

end StaticAccess
