import StaticAccess.Graph.Snapshot
import StaticAccess.Proofs.Store.Copy

/-!
# Arrangement of the edges of a graph

A graph lists its edges neither in the order of their additions nor in any order of their names.
`arranged es` is the listing said without graphs, for edges `es` that were added in this order:
the locations in the order in which they are first seen, at each location the edges that start
there grouped by target, and between two locations the edges in the order of `es`.

`Graph.Records g es` says that `g` holds the distinct edges `es`, added in this order. An
addition appends its edge to `es` unless `es` has it.

## Main definitions

- `locationsOf`, `arranged`: the listings of locations and of edges.
- `Graph.Records`: the edges of a graph in the order of their first additions.

## Main results

- `perm_arranged`, `filter_arranged`: the arranged edges, all of them and those from one source.
- `Graph.Records.insertAll`: additions append the edges that are new.
- `Graph.Records.toList_eq`, `Graph.Records.nodes_eq`: the listings are the arranged ones.
- `Graph.Records.contains_iff`, `Graph.Records.size_eq`: what is recorded, and how much.
- `Graph.Records.snapshot_eq`: a snapshot holds what the graph holds.
-/

namespace StaticAccess

/-- The locations of some edges in the order in which they are first seen, the source of an edge
before its target. -/
def locationsOf (es : List Edge) : List Location :=
  (es.flatMap fun e => [e.source, e.target]).eraseDups

/-- Some edges grouped by source in the order of the locations, under one source by target in the
order in which the source first reaches it, and between two locations in their own order. -/
def arranged (es : List Edge) : List Edge :=
  (locationsOf es).flatMap fun u => grouped Edge.target (es.filter fun e => e.source = u)

/-- The arc that carries an edge. -/
def Edge.arc (e : Edge) : Arc Location Kind Edge := ⟨e.source, e.target, e.kind, e⟩

theorem mem_locationsOf {es : List Edge} {u : Location} :
    u ∈ locationsOf es ↔ ∃ e ∈ es, u = e.source ∨ u = e.target := by
  rw [locationsOf, List.mem_eraseDups, List.mem_flatMap]
  simp only [List.mem_cons, List.not_mem_nil, or_false]

theorem source_mem_locationsOf {es : List Edge} {e : Edge} (he : e ∈ es) :
    e.source ∈ locationsOf es :=
  mem_locationsOf.2 ⟨e, he, .inl rfl⟩

theorem target_mem_locationsOf {es : List Edge} {e : Edge} (he : e ∈ es) :
    e.target ∈ locationsOf es :=
  mem_locationsOf.2 ⟨e, he, .inr rfl⟩

theorem nodup_locationsOf (es : List Edge) : (locationsOf es).Nodup := nodup_eraseDups _

/-- One more edge brings its source and then its target, as far as they are new. -/
theorem locationsOf_concat (es : List Edge) (e : Edge) :
    locationsOf (es ++ [e]) =
      ((es.flatMap fun e => [e.source, e.target]) ++ [e.source] ++ [e.target]).eraseDups := by
  rw [locationsOf, List.flatMap_append, List.flatMap_singleton, List.append_assoc]
  rfl

theorem perm_arranged (es : List Edge) : (arranged es).Perm es :=
  perm_flatMap_grouped Edge.source Edge.target (nodup_locationsOf es)
    fun _ => source_mem_locationsOf

/-- Of arranged edges, those from one source are grouped by target. -/
theorem filter_arranged (es : List Edge) (u : Location) :
    ((arranged es).filter fun e => e.source = u) =
      grouped Edge.target (es.filter fun e => e.source = u) :=
  filter_flatMap_grouped Edge.source Edge.target (nodup_locationsOf es)
    (fun _ => source_mem_locationsOf) u

/-- The arcs of some edges are gathered as the edges are arranged. -/
theorem map_value_gathered (es : List Edge) :
    (gathered (locationsOf es) (es.map Edge.arc)).map Arc.value = arranged es := by
  rw [gathered, List.map_flatMap]
  apply List.flatMap_congr
  intro u _
  rw [List.filter_map, grouped_map, List.map_map]
  exact List.map_id _

/-- The place of its arc singles out an edge. -/
theorem place_mem_iff {es : List Edge} {e : Edge} :
    (e.source, e.target, e.kind) ∈ (es.map Edge.arc).map Arc.place ↔ e ∈ es := by
  rw [List.map_map, List.mem_map]
  constructor
  · rintro ⟨f, hf, hplace⟩
    simp only [Function.comp_apply, Arc.place, Edge.arc, Prod.mk.injEq] at hplace
    exact Edge.eq_of_ends hplace.1 hplace.2.1 hplace.2.2 ▸ hf
  · intro he
    exact ⟨e, he, rfl⟩

namespace Graph

/-- What a graph holds: the distinct edges that were added, in the order of their first
additions. -/
structure Records (g : Graph) (es : List Edge) : Prop where
  /-- Every edge is carried by its own arc, drawn when the edge was first added. -/
  laid : g.store.Laid (es.map Edge.arc)
  /-- The vertices are the locations, in the order in which they were first seen. -/
  keys_eq : g.store.vertices.keys = locationsOf es
  /-- Every vertex is labelled by itself. -/
  label_eq : ∀ u ∈ locationsOf es, g.store.label? u = some u

namespace Records

variable {g : Graph} {es : List Edge}

theorem nodup (h : g.Records es) : es.Nodup :=
  List.Nodup.of_map _ (List.Nodup.of_map _ h.laid.nodup_places)

theorem empty (announce : Bool) : (Graph.empty announce).Records [] where
  laid := Multigraph.Laid.empty
  keys_eq := rfl
  label_eq := by simp [locationsOf]

/-- The recorded edges are those that the graph contains. -/
theorem contains_iff (h : g.Records es) (e : Edge) : g.contains e = true ↔ e ∈ es := by
  rw [contains, h.laid.hasArc_iff, place_mem_iff]

/-- An edge that is added comes last, unless it is recorded. -/
theorem insert (h : g.Records es) (e : Edge) :
    (g.insert e).Records (if e ∈ es then es else es ++ [e]) := by
  by_cases he : e ∈ es
  · rw [if_pos he, insert_eq_self_of_contains ((h.contains_iff e).2 he)]
    exact h
  · have hcontains : ¬ g.contains e = true := fun hc => he ((h.contains_iff e).1 hc)
    rw [if_neg he, Graph.insert, if_neg hcontains]
    have hkeys : ((g.store.addNode e.source ⟨e.sourceClass, e.sourceMethod⟩).addNode e.target
        ⟨e.targetClass, e.targetMember⟩).vertices.keys = locationsOf (es ++ [e]) := by
      rw [locationsOf_concat]
      exact Multigraph.keys_addNode_concat (Multigraph.keys_addNode_concat h.keys_eq _ _) _ _
    constructor
    · -- The arc leaves its source, which is a vertex by now, and its place is new.
      rw [List.map_append]
      refine ((h.laid.addNode _ _).addNode _ _).connect (a := e.arc) ?_ ?_
      · rw [hkeys]
        exact source_mem_locationsOf (List.mem_append_right es (List.mem_singleton_self e))
      · exact fun hplace => he (place_mem_iff.1 hplace)
    · rw [Multigraph.keys_connect, hkeys]
    · -- The ends of `e` are labelled now, and all other locations were labelled before.
      intro u hu
      rw [Multigraph.label?_connect, Multigraph.label?_addNode, Multigraph.label?_addNode]
      split
      · next htarget => exact congrArg some htarget.symm
      · next htarget =>
        split
        · next hsource => exact congrArg some hsource.symm
        · next hsource =>
          obtain ⟨f, hf, hu⟩ := mem_locationsOf.1 hu
          refine h.label_eq u (mem_locationsOf.2 ⟨f, ?_, hu⟩)
          refine (List.mem_append.1 hf).resolve_right fun hfe => ?_
          rw [List.mem_singleton.1 hfe] at hu
          exact hu.elim hsource htarget

/-- Edges that are added one after another come last in their order, each once and only if it
is not recorded. -/
theorem insertAll (h : g.Records es) (fs : List Edge) :
    (g.insertAll fs).Records (es ++ fs).eraseDups := by
  induction fs using List.reverseRecOn with
  | nil =>
    rw [List.append_nil, eraseDups_of_nodup h.nodup]
    exact h
  | append_singleton fs f ih =>
    have hstep := ih.insert f
    simp only [List.mem_eraseDups] at hstep
    rw [insertAll_append, ← List.append_assoc, eraseDups_concat]
    exact hstep

/-- The edges are listed as they are arranged. -/
theorem toList_eq (h : g.Records es) : g.toList = arranged es := by
  rw [toList, h.laid.arcs_eq, h.keys_eq, map_value_gathered]

theorem toList_perm (h : g.Records es) : g.toList.Perm es := by
  rw [h.toList_eq]
  exact perm_arranged es

/-- The size is the number of recorded edges. -/
theorem size_eq (h : g.Records es) : g.size = es.length := by
  rw [size, ← Multigraph.length_arcs, h.laid.arcs_perm.length_eq, List.length_map]

/-- The locations are listed as they are first seen, each labelled by itself. -/
theorem nodes_eq (h : g.Records es) : g.store.nodes = (locationsOf es).map fun u => (u, u) := by
  rw [Multigraph.nodes_eq_flatMap, h.keys_eq, ← List.flatMap_pure_eq_map]
  apply List.flatMap_congr
  intro u hu
  rw [h.label_eq u hu]
  rfl

/-- A snapshot holds what the graph holds. -/
theorem snapshot_eq (h : g.Records es) : g.snapshot.store = g.store := h.laid.copy_eq

/-- A snapshot lists the edges as the graph does. -/
theorem arcs_snapshot (h : g.Records es) : g.snapshot.arcs.map Arc.value = g.toList := by
  rw [Snapshot.arcs, h.snapshot_eq]
  rfl

end Records

/-- Every reachable graph records some edges. -/
theorem Reachable.records {g : Graph} (h : Reachable g) : ∃ es, g.Records es := by
  induction h with
  | empty announce => exact ⟨[], .empty announce⟩
  | insert e _ ih =>
    obtain ⟨es, hes⟩ := ih
    exact ⟨_, hes.insert e⟩

end Graph

end StaticAccess
