import StaticAccess.Error
import StaticAccess.Graph.Basic

/-!
# Snapshots

A snapshot is a copy of what a graph holds at one time. It can be listed but not changed, and
later additions to the graph do not show in it.

This models the property `graph` of `UsageGraph`. It leaves out that the attributes of vertices and
arcs, unlike these themselves, can be written to.

## Main definitions

- `Snapshot`, `Graph.snapshot`.
- `Snapshot.nodes`, `Snapshot.arcs`: the listings.
- `Snapshot.change`: the failure of every attempt to change a snapshot.
-/

namespace StaticAccess

/-- A copy of what a graph holds at one time. -/
structure Snapshot where
  /-- The locations and the arcs between them. -/
  store : Multigraph Location Location Kind Edge
  deriving DecidableEq

namespace Snapshot

/-- The snapshot of an empty graph. -/
def empty : Snapshot := ⟨.empty⟩

/-- The locations with their labels, in order. -/
def nodes (s : Snapshot) : List (Location × Location) := s.store.nodes

/-- The arcs, in order. -/
def arcs (s : Snapshot) : List (Arc Location Kind Edge) := s.store.arcs

end Snapshot

/-- The ways in which one may try to change a snapshot. -/
inductive Change where
  | addNode
  | addEdge
  | removeNode
  | removeEdge
  | clear
  deriving DecidableEq, Repr

/-- A snapshot after an attempt to change it, and the outcome of the attempt: it fails and leaves
the snapshot as it was. -/
def Snapshot.change (s : Snapshot) (_ : Change) : Snapshot × Except Error Unit :=
  (s, .error .frozenGraph)

/-- A copy of what a graph holds now. -/
def Graph.snapshot (g : Graph) : Snapshot := ⟨g.store.copy⟩

end StaticAccess
