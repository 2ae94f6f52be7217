import StaticAccess.Edge.Fields
import StaticAccess.Graph.Views

/-!
# Workers

Several workers add edges to one graph, each its own list in order. An addition is one atomic
step, so a run of the workers is some interleaving of their lists. A worker that comes to a faulty
edge stops there, and the others go on. What is reported of a run is sorted, and does not depend on
the interleaving.

A comparison of the graph is no atomic step. It reads the field reads of the graph first and its
method calls afterwards, and workers may add edges before, between and after the two reads.

This models `add_edge` and `==` where threads share a graph. The lock makes each addition, and each
of the two reads, one step. What the other graph of a comparison holds is taken as fixed. The lock
itself, and the times at which threads run, are left out.

## Main definitions

- `Interleaving`: the sequences in which workers may take their turns.
- `Workers.soundEdges`: the edges that a worker adds.
- `Report`, `Workers.run`: what is reported of a run.
- `Comparing`: a graph with a comparison under way, with `Comparing.step` and `Comparing.run`.
-/

namespace StaticAccess

/-- The sequences that take the elements of some lists, each list in its order. -/
inductive Interleaving {α : Type} : List (List α) → List α → Prop
  | done {lists : List (List α)} : (∀ l ∈ lists, l = []) → Interleaving lists []
  | turn {before after : List (List α)} {a : α} {l rest : List α} :
      Interleaving (before ++ l :: after) rest →
      Interleaving (before ++ (a :: l) :: after) (a :: rest)

/-- What is reported of a run of workers. -/
structure Report where
  /-- The recorded edges, sorted. -/
  edges : SortedSet Edge
  /-- The emitted records, sorted. -/
  log : List Record
  /-- The counts of the graph. -/
  statistics : Statistics
  deriving DecidableEq

namespace Workers

/-- The report of a run in which edges are added in a given sequence to an empty graph. -/
def reportOf (announce : Bool) (es : List Edge) : Report :=
  let g := (Graph.empty announce).insertAll es
  ⟨.ofList g.toList, Record.sorted ((Graph.empty announce).reports es), g.statistics⟩

/-- The edges of a worker up to the first faulty one. -/
def soundEdges : List Draft → List Edge
  | [] => []
  | d :: drafts =>
    match d.edge with
    | .ok e => e :: soundEdges drafts
    | .error _ => []

/-- The report of a run of workers, one after another. -/
def run (announce : Bool) (workers : List (List Draft)) : Report :=
  reportOf announce (workers.flatMap soundEdges)

end Workers

/-- How far the comparison of a graph with another one has come. -/
inductive Progress where
  /-- Nothing has been read. -/
  | begun
  /-- The field reads are the same. -/
  | sameReads
  /-- The comparison has answered. -/
  | answered (b : Bool)
  deriving DecidableEq, Repr

/-- A graph with a comparison of it that is under way. -/
structure Comparing where
  /-- The graph. -/
  graph : Graph
  /-- How far the comparison has come. -/
  progress : Progress
  deriving DecidableEq

/-- What happens while a graph is compared. -/
inductive Turn where
  /-- A worker adds an edge to the graph. -/
  | add (e : Edge)
  /-- The comparison reads the graph. -/
  | read
  deriving DecidableEq, Repr

namespace Comparing

/-- The progress that a comparison of `g` with `h` makes by one read: the field reads are read
first, and the method calls only if the field reads are the same. -/
def advance (g h : Graph) : Progress → Progress
  | .begun => if g.edgeSet .fieldRead = h.edgeSet .fieldRead then .sameReads else .answered false
  | .sameReads => .answered (g.edgeSet .methodCall = h.edgeSet .methodCall)
  | .answered b => .answered b

/-- One turn while a graph is compared with `h`. -/
def step (h : Graph) (c : Comparing) : Turn → Comparing
  | .add e => { c with graph := c.graph.insert e }
  | .read => { c with progress := advance c.graph h c.progress }

/-- Some turns in a row while a graph is compared with `h`. -/
def run (h : Graph) (c : Comparing) (turns : List Turn) : Comparing := turns.foldl (step h) c

end Comparing

end StaticAccess
