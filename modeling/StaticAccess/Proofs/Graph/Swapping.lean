import StaticAccess.Proofs.Graph.Views

/-!
# Graphs with the kinds exchanged

If every edge of a graph is replaced by the edge of the other kind with the same names, then the new
graph lists the new edges in the order of the old ones. In the views of the two graphs, field reads
and method calls exchange their parts, and what does not tell the kinds apart is the same.

## Main definitions

- `Graph.SwappedViews`: the views of two graphs agree once the kinds are exchanged.

## Main results

- `Edge.swap_involutive`: the exchange of the kinds undoes itself.
- `arranged_map_swap`: exchanged edges are arranged as the edges are.
- `Graph.Records.swappedViews`: the views of graphs with exchanged edges.
-/

namespace StaticAccess

theorem Kind.swap_involutive : Function.Involutive Kind.swap := by
  intro k
  cases k <;> rfl

/-- The exchange of the kinds undoes itself. -/
theorem Edge.swap_involutive : Function.Involutive Edge.swap := by
  intro e
  rw [swap, swap, Kind.swap_involutive]

theorem Edge.swap_injective : Function.Injective Edge.swap := swap_involutive.injective

/-- Exchanged edges pass a test that follows the exchange if the edges pass. -/
theorem filter_map_swap {p q : Edge → Bool} (h : ∀ e : Edge, p e.swap = q e) (es : List Edge) :
    (es.map Edge.swap).filter p = (es.filter q).map Edge.swap := by
  rw [List.filter_map]
  exact congrArg (List.map Edge.swap) (List.filter_congr fun e _ => h e)

/-- Exchanged edges are where the edges are. -/
theorem locationsOf_map_swap (es : List Edge) :
    locationsOf (es.map Edge.swap) = locationsOf es := by
  rw [locationsOf, List.flatMap_map]
  rfl

/-- Exchanged edges are arranged as the edges are. -/
theorem arranged_map_swap (es : List Edge) :
    arranged (es.map Edge.swap) = (arranged es).map Edge.swap := by
  rw [arranged, locationsOf_map_swap, arranged, List.map_flatMap]
  -- The locations are the same; at each of them the edges are grouped by their targets.
  apply List.flatMap_congr
  intro u _
  rw [filter_map_swap (fun _ => rfl), grouped_map]
  rfl

/-- The counts with the two kinds exchanged. -/
def Statistics.swap (s : Statistics) : Statistics :=
  { s with fieldReads := s.methodCalls, methodCalls := s.fieldReads }

/-- A table of members does not tell the kinds apart. -/
theorem MemberTable.ofEdges_map_swap (es : List Edge) :
    ofEdges (es.map Edge.swap) = ofEdges es := by
  rw [ofEdges, List.foldl_map]
  rfl

namespace Graph

variable {g h : Graph}

/-- The views of two graphs agree once the two kinds are exchanged. -/
structure SwappedViews (g h : Graph) : Prop where
  toList_eq : h.toList = g.toList.map Edge.swap
  nodes_eq : h.store.nodes = g.store.nodes
  contains_eq : ∀ e : Edge, h.contains e.swap = g.contains e
  edgeSet_eq : ∀ kind : Kind, h.edgeSet kind.swap = .ofList ((g.edgeSet kind).toList.map Edge.swap)
  staticMembers_eq : ∀ kind : Kind, h.staticMembers kind.swap = g.staticMembers kind
  accessors_eq : ∀ (kind : Kind) className,
    h.accessors kind.swap className = g.accessors kind className
  sourceClasses_eq : h.sourceClasses = g.sourceClasses
  targetClasses_eq : h.targetClasses = g.targetClasses
  dependencies_eq : ∀ className, h.dependencies className = g.dependencies className
  statistics_eq : h.statistics = g.statistics.swap
  size_eq : h.size = g.size

section Swapped

variable {es : List Edge} (hg : g.Records es) (hh : h.Records (es.map Edge.swap))
include hg hh

theorem Records.toList_swap : h.toList = g.toList.map Edge.swap := by
  rw [hh.toList_eq, hg.toList_eq, arranged_map_swap]

/-- One graph lists the edges of a kind as the other one lists those of the other kind. -/
theorem Records.edgesOf_swap (kind : Kind) :
    h.edgesOf kind.swap = (g.edgesOf kind).map Edge.swap := by
  rw [hh.edgesOf_eq, hg.edgesOf_eq, hg.toList_swap hh]
  exact filter_map_swap (fun e => decide_eq_decide.2 Kind.swap_involutive.injective.eq_iff) g.toList

/-- What is read off the edges without their kinds is listed alike. -/
theorem Records.map_toList_swap {f : Edge → String} (hf : ∀ e : Edge, f e.swap = f e) :
    h.toList.map f = g.toList.map f := by
  rw [hg.toList_swap hh, List.map_map]
  exact List.map_congr_left fun e _ => hf e

theorem Records.accessors_swap (kind : Kind) (className : String) :
    h.accessors kind.swap className = g.accessors kind className := by
  -- An access is looked for by its kind and its target, and only the kind is exchanged.
  have hlookedFor (e : Edge) :
      decide (e.swap.kind = kind.swap ∧ dotted e.swap.targetClass = dotted className) =
        decide (e.kind = kind ∧ dotted e.targetClass = dotted className) :=
    decide_eq_decide.2 (and_congr_left' Kind.swap_involutive.injective.eq_iff)
  rw [accessors, accessors, hg.toList_swap hh, filter_map_swap hlookedFor, List.map_map]
  rfl

theorem Records.dependencies_swap (className : String) :
    h.dependencies className = g.dependencies className := by
  rw [dependencies, dependencies, hg.toList_swap hh, filter_map_swap fun _ => rfl, List.map_map]
  rfl

theorem Records.statistics_swap : h.statistics = g.statistics.swap := by
  have hcount (kind : Kind) :
      (h.toList.countP fun e => e.kind = kind.swap) = g.toList.countP fun e => e.kind = kind := by
    rw [hg.toList_swap hh, List.countP_map]
    refine List.countP_congr fun e _ => ?_
    simp only [Function.comp_apply, decide_eq_true_eq]
    exact Kind.swap_involutive.injective.eq_iff
  have hreads : (h.toList.countP fun e => e.kind = .fieldRead) =
      g.toList.countP fun e => e.kind = .methodCall := hcount .methodCall
  have hcalls : (h.toList.countP fun e => e.kind = .methodCall) =
      g.toList.countP fun e => e.kind = .fieldRead := hcount .fieldRead
  have horder : h.store.order = g.store.order := by
    rw [hh.order_eq, hg.order_eq, locationsOf_map_swap]
  rw [statistics, hreads, hcalls, horder, hg.map_toList_swap hh fun _ => rfl,
    hg.map_toList_swap hh fun _ => rfl]
  rfl

/-- If the edges of one graph are those of another one with the kinds exchanged, added in the same
order, then the views are those of the other one with the kinds exchanged. -/
theorem Records.swappedViews : g.SwappedViews h where
  toList_eq := hg.toList_swap hh
  nodes_eq := by rw [hh.nodes_eq, hg.nodes_eq, locationsOf_map_swap]
  contains_eq e := by
    rw [Bool.eq_iff_iff, hh.contains_iff, hg.contains_iff,
      List.mem_map_of_injective Edge.swap_injective]
  edgeSet_eq kind := by
    rw [edgeSet, hg.edgesOf_swap hh]
    exact SortedSet.ofList_congr fun e => by simp [edgeSet]
  staticMembers_eq kind := by
    rw [Graph.staticMembers_eq, Graph.staticMembers_eq, hg.edgesOf_swap hh,
      MemberTable.ofEdges_map_swap]
  accessors_eq := hg.accessors_swap hh
  sourceClasses_eq := congrArg SortedSet.ofList (hg.map_toList_swap hh fun _ => rfl)
  targetClasses_eq := congrArg SortedSet.ofList (hg.map_toList_swap hh fun _ => rfl)
  dependencies_eq := hg.dependencies_swap hh
  statistics_eq := hg.statistics_swap hh
  size_eq := by rw [← length_toList, ← length_toList, hg.toList_swap hh, List.length_map]

end Swapped

end Graph

end StaticAccess
