import StaticAccess.Graph.Basic
import StaticAccess.Order.SortedTable

/-!
# Views of a graph

What is asked of a graph: its edges by kind, the classes that take part, the members that are
accessed, who accesses a class and what a class depends on, and counts. All names of classes in
the answers are in dotted form, and a class may be asked for in either form; the counts alone
tell classes apart by their recorded names.

This models `field_reads`, `method_calls`, `get_source_classes`, `get_target_classes`,
`get_static_fields`, `get_statistics`, `__eq__`, `__hash__` and `__repr__` of `UsageGraph`, and the
queries `get_static_methods`, `get_field_readers`, `get_method_callers` and
`get_class_dependencies`. The hash of a set of edges is not fixed by the program, so it is a
parameter, and a whole hash is not cut down to a machine word.

## Main definitions

- `Graph.edgeSet`: the set of the edges of a kind.
- `Graph.sourceClasses`, `Graph.targetClasses`, `Graph.accessors`, `Graph.dependencies`: sets of
  dotted names.
- `Graph.staticFields`, `Graph.staticMethods`: the accessed members by class.
- `Graph.statistics`, `Graph.describe`: counts and their text.
- `Graph.equal`, `Graph.hash`: comparison.
-/

namespace StaticAccess

/-- The members of each class, by dotted name. -/
abbrev MemberTable := SortedTable String (SortedSet String)

/-- Count the target of an edge among the members of its class. -/
def MemberTable.add (t : MemberTable) (e : Edge) : MemberTable :=
  t.upsert (dotted e.targetClass) fun members => (members.getD .empty).insert e.targetMember

/-- The targets of some edges by class. -/
def MemberTable.ofEdges (es : List Edge) : MemberTable := es.foldl MemberTable.add .empty

/-- Counts of edges by kind, of classes by their recorded names, and of locations. -/
structure Statistics where
  /-- The number of field reads. -/
  fieldReads : Nat
  /-- The number of method calls. -/
  methodCalls : Nat
  /-- The number of classes in which accesses occur. -/
  sourceClasses : Nat
  /-- The number of classes whose members are accessed. -/
  targetClasses : Nat
  /-- The number of locations at which edges start or end. -/
  nodes : Nat
  deriving DecidableEq, Repr

/-- A way to hash sets of edges: the hashes of the edges are combined in whatever order the edges
are listed. -/
structure SetHash where
  /-- The hash of an edge. -/
  ofEdge : Edge → Int
  /-- The combination of a hash with the hash of one more edge. -/
  combine : Int → Int → Int
  /-- The hash of the empty set. -/
  start : Int

namespace SetHash

/-- The hash of the set of some edges without duplicates. -/
def ofEdges (h : SetHash) (es : List Edge) : Int :=
  es.foldl (fun n e => h.combine n (h.ofEdge e)) h.start

/-- The hash in 64 bits after one more code point. The product spreads the bits of what was read so
far, and the shift brings the upper ones back to the lower ones. -/
def absorb (n code : Nat) : Nat :=
  let product := (n ^^^ code) * 0x9E3779B97F4A7C15 % 0x10000000000000000
  product ^^^ (product >>> 29)

/-- The hash that adds up the hashes of the edges. In the hash of an edge the code points of its
strings are mixed, so that the sum depends on which strings stand together. What leads a string is
no code point. -/
def mixing : SetHash where
  ofEdge e :=
    let codes := e.strings.flatMap fun s => 0x110000 :: s.toList.map Char.toNat
    Int.ofNat (codes.foldl absorb 7)
  combine := (· + ·)
  start := 0

end SetHash

namespace Graph

/-- The set of the recorded edges of a kind. -/
def edgeSet (g : Graph) (kind : Kind) : SortedSet Edge := .ofList (g.edgesOf kind)

/-- The classes in which accesses occur. -/
def sourceClasses (g : Graph) : SortedSet String :=
  .ofList (g.toList.map fun e => dotted e.sourceClass)

/-- The classes whose members are accessed. -/
def targetClasses (g : Graph) : SortedSet String :=
  .ofList (g.toList.map fun e => dotted e.targetClass)

/-- The static fields that are read, by class. -/
def staticFields (g : Graph) : MemberTable := .ofEdges (g.edgesOf .fieldRead)

/-- The static methods that are called, by class. -/
def staticMethods (g : Graph) : MemberTable := .ofEdges (g.edgeSet .methodCall).toList

/-- The accessed members of a kind, by class. -/
def staticMembers (g : Graph) : Kind → MemberTable
  | .fieldRead => g.staticFields
  | .methodCall => g.staticMethods

/-- The classes with accesses of a kind to a class. -/
def accessors (g : Graph) (kind : Kind) (className : String) : SortedSet String :=
  .ofList ((g.toList.filter fun e =>
    e.kind = kind ∧ dotted e.targetClass = dotted className).map fun e => dotted e.sourceClass)

/-- The classes whose members a class accesses. -/
def dependencies (g : Graph) (className : String) : SortedSet String :=
  .ofList ((g.toList.filter fun e => dotted e.sourceClass = dotted className).map
    fun e => dotted e.targetClass)

/-- The counts of a graph. -/
def statistics (g : Graph) : Statistics where
  fieldReads := g.toList.countP fun e => e.kind = .fieldRead
  methodCalls := g.toList.countP fun e => e.kind = .methodCall
  sourceClasses := (SortedSet.ofList (g.toList.map Edge.sourceClass)).size
  targetClasses := (SortedSet.ofList (g.toList.map Edge.targetClass)).size
  nodes := g.store.order

/-- Whether two graphs record the same edges. -/
def equal (g h : Graph) : Bool :=
  g.edgeSet .fieldRead = h.edgeSet .fieldRead ∧ g.edgeSet .methodCall = h.edgeSet .methodCall

/-- The hash of a graph, made of the hashes of its edges by kind. -/
def hash (h : SetHash) (g : Graph) : Int :=
  31 * (31 + h.ofEdges (g.edgesOf .fieldRead)) + h.ofEdges (g.edgesOf .methodCall)

/-- The text of a graph: the counts of its edges by kind. -/
def describe (g : Graph) : String :=
  "UsageGraph(field_reads=" ++ toString g.statistics.fieldReads ++ ", method_calls=" ++
    toString g.statistics.methodCalls ++ ")"

end Graph

end StaticAccess
