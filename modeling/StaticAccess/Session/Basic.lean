import StaticAccess.Graph.Operand
import StaticAccess.Graph.Snapshot
import StaticAccess.Settings.Basic

/-!
# Sessions

A session keeps graphs and snapshots under names. A step acts on one graph, which it names, and
may refer to other graphs as operands.

This models callers of the library that work on several graphs. An action stands for one call: of
the constructor of `UsageGraph` or of `create_graph`, of a method or an operator of a graph, or of a
method of a snapshot. Calls with the wrong number of arguments are left out.

## Main definitions

- `Session`, `Session.start`, `Session.graph`, `Session.snapshot`.
- `Argument`: an operand before it is looked up and checked.
- `Action`, `Step`: what can be done in a session.
- `Action.graphs`, `Action.snapshots`: the names that an action looks up.
- `Answer`, `Outcome`: what a step returns.
-/

namespace StaticAccess

/-- Graphs and snapshots under names. -/
structure Session where
  /-- The graphs. -/
  graphs : OrderedMap String Graph
  /-- The kept snapshots. -/
  snapshots : OrderedMap String Snapshot
  deriving DecidableEq

namespace Session

/-- The name of the graph that every session starts with. -/
def mainName : String := "g"

/-- The session with one empty graph. -/
def start : Session := ⟨OrderedMap.empty.set mainName (.empty true), .empty⟩

/-- The graph under a name. A run stops at a name that is not in use (`Session.checkedRun`) and
never sees the empty graph that is given for it here. -/
def graph (s : Session) (name : String) : Graph := (s.graphs.get? name).getD (.empty true)

/-- The snapshot under a name; here too, a run stops at a name that is not in use. -/
def snapshot (s : Session) (name : String) : Snapshot := (s.snapshots.get? name).getD .empty

/-- The session with another graph under a name. -/
def setGraph (s : Session) (name : String) (g : Graph) : Session :=
  { s with graphs := s.graphs.set name g }

/-- The session with another snapshot under a name. -/
def setSnapshot (s : Session) (name : String) (x : Snapshot) : Session :=
  { s with snapshots := s.snapshots.set name x }

@[simp]
theorem graph_setGraph (s : Session) (name other : String) (g : Graph) :
    (s.setGraph name g).graph other = if other = name then g else s.graph other := by
  simp only [graph, setGraph, OrderedMap.get?_set]
  split <;> simp

@[simp]
theorem snapshot_setGraph (s : Session) (name other : String) (g : Graph) :
    (s.setGraph name g).snapshot other = s.snapshot other := rfl

@[simp]
theorem snapshot_setSnapshot (s : Session) (name other : String) (x : Snapshot) :
    (s.setSnapshot name x).snapshot other = if other = name then x else s.snapshot other := by
  simp only [snapshot, setSnapshot, OrderedMap.get?_set]
  split <;> simp

@[simp]
theorem graph_setSnapshot (s : Session) (name other : String) (x : Snapshot) :
    (s.setSnapshot name x).graph other = s.graph other := rfl

end Session

/-- An operand before graphs are looked up and edges are checked. -/
inductive Argument where
  /-- An edge. -/
  | edge (d : Draft)
  /-- The graph under a name. -/
  | graph (name : String)
  /-- A list of edges. -/
  | edges (ds : List Draft)
  /-- A bare edge. -/
  | bare
  /-- A plain value. -/
  | value (v : Value)

/-- The graphs that an argument names. -/
def Argument.graphs : Argument → List String
  | .graph name => [name]
  | _ => []

/-- The operand that an argument stands for. -/
def Session.operand (s : Session) : Argument → Except Error Operand
  | .edge d => d.edge.map .edge
  | .graph name => .ok (.graph (s.graph name))
  | .edges ds => (Draft.edges ds).map fun es => .list (es.map .edge)
  | .bare => .ok .bare
  | .value v => .ok (.value v)

/-- What can be done to or asked of a graph. -/
inductive Action where
  /-- Begin anew with an empty graph that announces as a flag says; without a flag, it announces
  duplicates. -/
  | create (announce : Option Value)
  /-- Begin anew with the graph that settings from some sources create. -/
  | configure (sources : Sources)
  /-- Add the edge with four given names. -/
  | record (d : Draft)
  /-- Ask for the edge with four given names. -/
  | recorded (d : Draft)
  /-- Add an operand as a single edge. -/
  | add (argument : Argument)
  /-- Ask whether an operand is a recorded edge. -/
  | contains (argument : Argument)
  /-- Add everything that an operand lists. -/
  | update (argument : Argument)
  /-- List the edges. -/
  | edges
  /-- List the edges of a kind. -/
  | edgesOf (kind : Kind)
  /-- Name the classes in which accesses occur. -/
  | sourceClasses
  /-- Name the classes whose members are accessed. -/
  | targetClasses
  /-- List the accessed members of a kind by class. -/
  | staticMembers (kind : Kind)
  /-- Name the classes with accesses of a kind to a class. -/
  | accessors (kind : Kind) (className : Value)
  /-- Name the classes whose members a class accesses. -/
  | dependencies (className : Value)
  /-- Count. -/
  | statistics
  /-- Compare with an operand. -/
  | equals (argument : Argument)
  /-- Compare hashes with another graph. -/
  | sameHash (other : String)
  /-- Describe the graph by its counts. -/
  | describe
  /-- Keep a snapshot under a name, and list it. -/
  | snapshot (name : String)
  /-- List a kept snapshot. -/
  | showSnapshot (name : String)
  /-- Try to change a kept snapshot. -/
  | changeSnapshot (name : String) (change : Change)
  /-- Change the sets and tables that the graph returned. -/
  | changeViews

/-- An action on a graph. -/
structure Step where
  /-- The name of the graph. -/
  target : String
  /-- What is done to it or asked of it. -/
  action : Action

/-- What a successful step returns. -/
inductive Answer where
  | none
  | flag (b : Bool)
  | text (s : String)
  | edges (es : List Edge)
  | names (names : List String)
  | members (table : List (String × List String))
  | statistics (s : Statistics)
  | snapshot (x : Snapshot)
  deriving DecidableEq

/-- The answer that lists a table of members by class. -/
def Answer.ofTable (t : MemberTable) : Answer :=
  .members (t.entries.map fun p => (p.1, p.2.toList))

/-- The graphs that an action on a graph looks up. An action that begins a graph anew needs none. -/
def Action.graphs (target : String) : Action → List String
  | .create _ => []
  | .configure sources =>
    match Settings.load sources with
    | .ok _ => []
    | .error _ => [target]
  | .add argument => target :: argument.graphs
  | .contains argument => target :: argument.graphs
  | .update argument => target :: argument.graphs
  | .equals argument => target :: argument.graphs
  | .sameHash other => [target, other]
  | .showSnapshot _ => []
  | .changeSnapshot _ _ => []
  | _ => [target]

/-- The snapshots that an action looks up. -/
def Action.snapshots : Action → List String
  | .showSnapshot name => [name]
  | .changeSnapshot name _ => [name]
  | _ => []

/-- What a step leaves and returns. -/
structure Effect where
  /-- The session after the step. -/
  session : Session
  /-- The records that the step emitted. -/
  log : List Record
  /-- The answer, or the failure. -/
  result : Except Error Answer

/-- What is shown of a step. -/
structure Outcome where
  /-- The answer, or the failure. -/
  result : Except Error Answer
  /-- The records that the step emitted. -/
  log : List Record
  /-- The number of edges in the graph that the step acted on. -/
  size : Nat

/-- The records that a step emitted on the logger of graphs. -/
def Outcome.graphLog (x : Outcome) : List Record := x.log.filter fun r => r.logger = .graphs

end StaticAccess
