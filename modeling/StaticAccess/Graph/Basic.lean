import StaticAccess.Edge.Basic
import StaticAccess.Log.Record
import StaticAccess.Store.Multigraph

/-!
# Graphs of static accesses

A `Graph` records edges, each once. Its vertices are the locations at which the edges start and
end; the arcs between two locations are keyed by kind, so that a field read and a method call
between them are kept apart. A graph only grows.

Every addition is announced by one log record. An announcing graph announces each addition as a
new edge; a graph that does not announce duplicates does so for new edges only, and notes the
others for debugging.

This models the store of `UsageGraph`, `__init__`, `add_edge` for an edge, `__contains__`,
`__iter__` and `__len__`. The lock is left out here, see `Workers`.

## Main definitions

- `Graph`, `Graph.empty`.
- `Graph.contains`, `Graph.insert`, `Graph.report`: one addition.
- `Graph.insertAll`, `Graph.reports`, `Graph.news`: additions in a row.
- `Graph.toList`, `Graph.edgesOf`, `Graph.size`: what is recorded.
- `Graph.Reachable`: the graphs that additions build.

## Main results

- `Graph.contains_insert`: after an addition the added edge is recorded, and besides it what was
  recorded before.
-/

namespace StaticAccess

/-- A growing record of static accesses without duplicates. -/
structure Graph where
  /-- The locations with the edges between them, keyed by kind. -/
  store : Multigraph Location Location Kind Edge
  /-- Whether the addition of a known edge is announced like that of a new one. -/
  announce : Bool
  deriving DecidableEq

namespace Graph

/-- A graph without edges. -/
def empty (announce : Bool) : Graph := ⟨.empty, announce⟩

/-- Whether an edge is recorded. -/
def contains (g : Graph) (e : Edge) : Bool := g.store.hasArc e.source e.target e.kind

/-- Record an edge unless it is recorded: its source and its target become vertices, labelled by
themselves, and an arc with its kind as the key carries it. -/
def insert (g : Graph) (e : Edge) : Graph :=
  if g.contains e then g
  else
    { g with
      store := ((g.store.addNode e.source ⟨e.sourceClass, e.sourceMethod⟩).addNode
        e.target ⟨e.targetClass, e.targetMember⟩).connect e.source e.target e.kind e }

/-- The record that announces an addition. -/
def announcement (e : Edge) : Record :=
  ⟨.graphs, .info, "Adding new static " ++ e.kind.phrase ++ ": " ++ e.text⟩

/-- The record that notes the addition of a known edge. -/
def duplicateNote (e : Edge) : Record :=
  ⟨.graphs, .debug, "Ignoring duplicate static " ++ e.kind.phrase ++ ": " ++ e.text⟩

/-- The record of the addition of an edge to a graph. -/
def report (g : Graph) (e : Edge) : Record :=
  if g.announce then announcement e
  else if g.contains e then duplicateNote e
  else announcement e

/-- Record some edges, one after another. -/
def insertAll (g : Graph) (es : List Edge) : Graph := es.foldl insert g

/-- The records of the additions of some edges, one after another. -/
def reports (g : Graph) : List Edge → List Record
  | [] => []
  | e :: es => g.report e :: (g.insert e).reports es

/-- Which of some edges, added one after another, are new when they are added. -/
def news (g : Graph) : List Edge → List Bool
  | [] => []
  | e :: es => (!g.contains e) :: (g.insert e).news es

/-- The recorded edges, grouped by source, then by target, then by kind. -/
def toList (g : Graph) : List Edge := g.store.arcs.map Arc.value

/-- The recorded edges of a kind, in the same order. -/
def edgesOf (g : Graph) (kind : Kind) : List Edge :=
  (g.store.arcs.filter fun a => a.key = kind).map Arc.value

/-- The number of recorded edges. -/
def size (g : Graph) : Nat := g.store.size

/-- The graphs that additions build from an empty one. -/
inductive Reachable : Graph → Prop
  | empty (announce : Bool) : Reachable (.empty announce)
  | insert {g : Graph} (e : Edge) : Reachable g → Reachable (g.insert e)

/-- The addition of a known edge leaves the graph as it is. -/
theorem insert_eq_self_of_contains {g : Graph} {e : Edge} (h : g.contains e = true) :
    g.insert e = g := by
  rw [insert, if_pos h]

/-- After an addition the added edge is recorded, and besides it what was recorded before. -/
theorem contains_insert (g : Graph) (e f : Edge) :
    (g.insert e).contains f = (decide (f = e) || g.contains f) := by
  rw [insert]
  split
  · next he =>
    by_cases hfe : f = e
    · simp [hfe, he]
    · simp [hfe]
  · have hsource : e.source ∈ ((g.store.addNode e.source ⟨e.sourceClass, e.sourceMethod⟩).addNode
        e.target ⟨e.targetClass, e.targetMember⟩).vertices.keys := by
      have : e.source ∈
          (g.store.addNode e.source ⟨e.sourceClass, e.sourceMethod⟩).vertices.keys := by
        rw [Multigraph.keys_addNode]
        split <;> simp_all
      rw [Multigraph.keys_addNode]
      split <;> simp_all
    -- The ends and the kind single out the edge.
    have hends : (f.source = e.source ∧ f.target = e.target ∧ f.kind = e.kind) ↔ f = e :=
      ⟨fun h => Edge.eq_of_ends h.1 h.2.1 h.2.2, fun h => h ▸ ⟨rfl, rfl, rfl⟩⟩
    simp only [contains, Multigraph.hasArc, Multigraph.value?_connect hsource,
      Multigraph.value?_addNode, hends]
    by_cases hfe : f = e <;> simp [hfe]

/-- An addition leaves the way of announcing as it is. -/
@[simp]
theorem announce_insert (g : Graph) (e : Edge) : (g.insert e).announce = g.announce := by
  rw [insert]
  split <;> rfl

@[simp]
theorem insertAll_nil (g : Graph) : g.insertAll [] = g := rfl

@[simp]
theorem insertAll_cons (g : Graph) (e : Edge) (es : List Edge) :
    g.insertAll (e :: es) = (g.insert e).insertAll es := rfl

theorem insertAll_append (g : Graph) (es fs : List Edge) :
    g.insertAll (es ++ fs) = (g.insertAll es).insertAll fs :=
  List.foldl_append

/-- Additions in a row build reachable graphs from reachable ones. -/
theorem Reachable.insertAll {g : Graph} (h : Reachable g) (es : List Edge) :
    Reachable (g.insertAll es) := by
  induction es generalizing g with
  | nil => exact h
  | cons e es ih => exact ih (h.insert e)

end Graph

end StaticAccess
