import StaticAccess.Number.Shortest
import StaticAccess.Text.Quoted

/-!
# Plain values

Callers may pass any plain value where a name, a flag or a level is expected. What the library
does with a value of the wrong kind depends on its kind only; for a level also on its text.

## Main definitions

- `Value`: a plain value.
- `Value.typeName`: the name of its kind, as error messages give it.
- `Value.truthy`: how it counts as a flag.
- `Value.items?`: what it lists.
- `Value.scalarText?`: the text of a value that is not a collection.
- `Value.text`: the text of any value.
-/

namespace StaticAccess

/-- A plain value. -/
inductive Value where
  | null
  | bool (b : Bool)
  | int (n : Int)
  | float (x : Binary64)
  | string (s : String)
  | list (items : List Value)
  | object (members : List (String × Value))

namespace Value

/-- The name of the kind of a value. -/
def typeName : Value → String
  | .null => "NoneType"
  | .bool _ => "bool"
  | .int _ => "int"
  | .float _ => "float"
  | .string _ => "str"
  | .list _ => "list"
  | .object _ => "dict"

/-- How a value counts as a flag: nothing, zero and what is empty count as false. -/
def truthy : Value → Bool
  | .null => false
  | .bool b => b
  | .int n => n ≠ 0
  | .float x => !x.isZero
  | .string s => s ≠ ""
  | .list items => !items.isEmpty
  | .object members => !members.isEmpty

/-- The items that a value lists, if it lists any: a string its characters, an object its names. -/
def items? : Value → Option (List Value)
  | .string s => some (s.toList.map fun c => .string (.singleton c))
  | .list items => some items
  | .object members => some (members.map fun p => .string p.1)
  | _ => none

/-- The string that a value is, if it is one. -/
def string? : Value → Option String
  | .string s => some s
  | _ => none

/-- The integer that a value is equal to, if it is a number that is equal to one. The flags count
as zero and one. -/
def integer? : Value → Option Int
  | .bool b => some (if b then 1 else 0)
  | .int n => some n
  | .float x => x.toInt?
  | _ => none

/-- The text of a value; collections are not written as text. -/
def scalarText? : Value → Option String
  | .null => some "None"
  | .bool b => some (if b then "True" else "False")
  | .int n => some (toString n)
  | .float x => some x.text
  | .string s => some s
  | .list _ => none
  | .object _ => none

mutual

/-- The text of a value as an item of a collection: strings are quoted. -/
def literal : Value → String
  | .null => "None"
  | .bool b => if b then "True" else "False"
  | .int n => toString n
  | .float x => x.text
  | .string s => quoted s
  | .list items => "[" ++ String.intercalate ", " (literals items) ++ "]"
  | .object members => "\x7b" ++ String.intercalate ", " (bindings members) ++ "\x7d"

/-- The texts of the items of a collection. -/
def literals : List Value → List String
  | [] => []
  | v :: items => v.literal :: literals items

/-- The texts of the members of an object. -/
def bindings : List (String × Value) → List String
  | [] => []
  | (name, v) :: members => (quoted name ++ ": " ++ v.literal) :: bindings members

end

/-- The text of a value. -/
def text : Value → String
  | .string s => s
  | v => v.literal

end Value

end StaticAccess
