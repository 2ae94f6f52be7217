import StaticAccess.Edge.Fields
import StaticAccess.Graph.Views

/-!
# Operands

What may be handed to a graph for addition, membership or comparison: an edge, a graph, a list, a
plain value or a bare edge. A single edge is added; the edges of a graph, and the items of a list,
are added one after another. An item that is no edge ends the addition, and what was added before it
stays. The items of an edge or of a plain value are never edges.

This models `add_edge`, `update`, `in` and `==` of `UsageGraph`, with the checks of what they are
given. It leaves out graphs of other classes and values that list their items only once, and it
takes a graph that is handed over as it is at that time.

## Main definitions

- `Item`, `Operand`: what is handed to a graph.
- `Operand.items`: what an operand lists.
- `Graph.add`, `Graph.update`: additions that may fail.
- `Graph.has`, `Graph.equals`: membership and comparison of any operand.
-/

namespace StaticAccess

/-- One item of what is added to a graph. -/
inductive Item where
  /-- An edge. -/
  | edge (e : Edge)
  /-- Something else, by the name of its kind. -/
  | foreign (typeName : String)
  deriving DecidableEq, Repr

/-- What is handed to a graph. -/
inductive Operand where
  | edge (e : Edge)
  | graph (g : Graph)
  | list (items : List Item)
  | bare
  | value (v : Value)

namespace Operand

/-- An operand taken as a single item. -/
def item : Operand → Item
  | .edge e => .edge e
  | .graph _ => .foreign "UsageGraph"
  | .list _ => .foreign "list"
  | .bare => .foreign "UsageEdge"
  | .value v => .foreign v.typeName

/-- The items that an operand lists. An edge lists its fields as pairs. -/
def items : Operand → Except Error (List Item)
  | .edge e => .ok (e.fields.map fun _ => .foreign "tuple")
  | .graph g => .ok (g.toList.map .edge)
  | .list items => .ok items
  | .bare => .ok (List.replicate 3 (.foreign "tuple"))
  | .value v =>
    match v.items? with
    | some items => .ok (items.map fun item => .foreign item.typeName)
    | none => .error (.notIterable v.typeName)

end Operand

/-- What an addition does: the graph that it leaves, the records that it emits, and its answer. -/
structure Addition (α : Type) where
  /-- The graph after the addition. -/
  graph : Graph
  /-- The records in the order in which they were emitted. -/
  log : List Record
  /-- The answer, or the failure that stopped the addition. -/
  result : Except Error α

namespace Graph

/-- Add a single item; the answer tells whether it is an edge that was not recorded before. -/
def add (g : Graph) : Item → Addition Bool
  | .edge e => ⟨g.insert e, [g.report e], .ok (!g.contains e)⟩
  | .foreign typeName => ⟨g, [], .error (.notEdge typeName)⟩

/-- Add items one after another, up to the first that cannot be added. -/
def addItems (g : Graph) : List Item → Addition Unit
  | [] => ⟨g, [], .ok ()⟩
  | item :: items =>
    let first := g.add item
    match first.result with
    | .error e => ⟨first.graph, first.log, .error e⟩
    | .ok _ =>
      let rest := first.graph.addItems items
      ⟨rest.graph, first.log ++ rest.log, rest.result⟩

/-- Add everything that an operand lists. -/
def update (g : Graph) (operand : Operand) : Addition Unit :=
  match operand.items with
  | .error e => ⟨g, [], .error e⟩
  | .ok items => g.addItems items

/-- Whether an operand is a recorded edge. -/
def has (g : Graph) : Operand → Bool
  | .edge e => g.contains e
  | _ => false

/-- Whether an operand is a graph that records the same edges. -/
def equals (g : Graph) : Operand → Bool
  | .graph h => g.equal h
  | _ => false

end Graph

end StaticAccess
