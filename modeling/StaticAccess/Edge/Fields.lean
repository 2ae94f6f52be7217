import StaticAccess.Error
import StaticAccess.Value

/-!
# Edges from named fields

An edge is built from values given by field name. All declared fields have to be given, each as a
string; what is given beside them is ignored. If fields are missing or are not strings, all of
them are reported, in the order of declaration. A built edge cannot be changed.

The bare form of an edge has neither a kind nor an accessed member. It can be built and looked
at, but a graph does not take it.

This models the construction of `FieldReadEdge`, `MethodCallEdge` and `UsageEdge` from keywords or
from four arguments, the comparison of edges by their fields, and `to_dotted_name` of any value. Of
the validation it keeps which fields are faulty and why; the rest of its reports is left out.

## Main definitions

- `Fields`: values by field name.
- `Edge.ofFields`: the edge of a kind that the fields describe.
- `Draft`: a kind with the four values of an edge, and `Draft.edge`, the edge that they describe.
- `AnyEdge`: an edge or a bare edge, with `AnyEdge.fields`.
- `Comparison`: which edges of a list are equal, and how many are distinct.
- `classNameOf`, `dottedOf`: the class that a value names, and its dotted name.
-/

namespace StaticAccess

/-- Values by field name. -/
abbrev Fields := List (String × Value)

namespace Fields

/-- The value given for a field. -/
def get? (fields : Fields) (name : String) : Option Value :=
  (fields.find? fun p => p.1 = name).map Prod.snd

/-- The string given for a field, or what is wrong with it. -/
def string (fields : Fields) (name : String) : Except (String × Fault) String :=
  match fields.get? name with
  | none => .error (name, .missing)
  | some (.string s) => .ok s
  | some _ => .error (name, .notString)

/-- The faults among some checked fields, in their order. -/
def faults (checked : List (Except (String × Fault) String)) : List (String × Fault) :=
  checked.filterMap fun
    | .error fault => some fault
    | .ok _ => none

end Fields

/-- The name of the field that holds the accessed member. -/
def Kind.memberField : Kind → String
  | .fieldRead => "target_field"
  | .methodCall => "target_method"

/-- The edge of a kind that some fields describe. -/
def Edge.ofFields (kind : Kind) (fields : Fields) : Except Error Edge :=
  match fields.string "source_class", fields.string "source_method",
      fields.string "target_class", fields.string kind.memberField with
  | .ok sourceClass, .ok sourceMethod, .ok targetClass, .ok targetMember =>
    .ok { kind, sourceClass, sourceMethod, targetClass, targetMember }
  | a, b, c, d => .error (.invalid (.edge kind) (Fields.faults [a, b, c, d]))

/-- The declared fields of an edge with their values, in the order of declaration. -/
def Edge.fields (e : Edge) : List (String × String) :=
  [("source_class", e.sourceClass), ("source_method", e.sourceMethod),
    ("target_class", e.targetClass), (e.kind.memberField, e.targetMember)]

/-- An edge before its four values are checked. -/
structure Draft where
  /-- Whether a field is read or a method called. -/
  kind : Kind
  /-- The class that holds the access. -/
  sourceClass : Value
  /-- The method that holds the access. -/
  sourceMethod : Value
  /-- The class that owns the accessed member. -/
  targetClass : Value
  /-- The accessed field or method. -/
  targetMember : Value

namespace Draft

/-- The values of a draft by field name. -/
def fields (d : Draft) : Fields :=
  [("source_class", d.sourceClass), ("source_method", d.sourceMethod),
    ("target_class", d.targetClass), (d.kind.memberField, d.targetMember)]

/-- The edge that a draft describes. -/
def edge (d : Draft) : Except Error Edge := Edge.ofFields d.kind d.fields

/-- The edges that some drafts describe; the first faulty draft decides the error. -/
def edges (ds : List Draft) : Except Error (List Edge) := ds.mapM edge

end Draft

/-- An edge without a kind and an accessed member. -/
structure BareEdge where
  /-- The class that holds the access. -/
  sourceClass : String
  /-- The method that holds the access. -/
  sourceMethod : String
  /-- The class that owns the accessed member. -/
  targetClass : String
  deriving DecidableEq, Repr

/-- The bare edge that some fields describe. -/
def BareEdge.ofFields (fields : Fields) : Except Error BareEdge :=
  match fields.string "source_class", fields.string "source_method",
      fields.string "target_class" with
  | .ok sourceClass, .ok sourceMethod, .ok targetClass =>
    .ok { sourceClass, sourceMethod, targetClass }
  | a, b, c => .error (.invalid .bareEdge (Fields.faults [a, b, c]))

/-- An edge, or the bare form of one. -/
inductive AnyEdge where
  | bare (e : BareEdge)
  | full (e : Edge)
  deriving DecidableEq, Repr

namespace AnyEdge

/-- The kind of an edge; a bare edge has none. -/
def kind? : AnyEdge → Option Kind
  | .bare _ => none
  | .full e => some e.kind

/-- The edge of a form that some fields describe: of a kind, or bare if there is none. -/
def ofFields (kind : Option Kind) (fields : Fields) : Except Error AnyEdge :=
  match kind with
  | none => (BareEdge.ofFields fields).map .bare
  | some kind => (Edge.ofFields kind fields).map .full

/-- The declared fields with their values, in the order of declaration. -/
def fields : AnyEdge → List (String × String)
  | .bare e =>
    [("source_class", e.sourceClass), ("source_method", e.sourceMethod),
      ("target_class", e.targetClass)]
  | .full e => e.fields

end AnyEdge

/-- Which edges of a list are equal, and how many distinct ones there are. -/
structure Comparison where
  /-- For every edge, whether it equals each of the edges. -/
  equal : List (List Bool)
  /-- The number of distinct edges. -/
  distinct : Nat
  deriving DecidableEq, Repr

/-- The comparison of some edges with each other. -/
def Comparison.ofEdges (es : List Edge) : Comparison where
  equal := es.map fun e => es.map fun f => decide (e = f)
  distinct := (SortedSet.ofList es).size

/-- The name of a class that a value is. Only strings name classes. -/
def classNameOf : Value → Except Error String
  | .string s => .ok s
  | v => .error (.noAttribute v.typeName "replace")

/-- The dotted name of the class that a value names. -/
def dottedOf (v : Value) : Except Error String := (classNameOf v).map dotted

end StaticAccess
