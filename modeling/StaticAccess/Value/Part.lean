import StaticAccess.Error
import StaticAccess.Value

/-!
# Parts of values

An object has parts that go by names. A list or a string can hold a name as well, as one of its
items or within its text, but has no part that goes by the name. All other values hold nothing.

## Main definitions

- `Value.holds`: whether a value holds a name.
- `Value.part?`: the part of a value that goes by a name.
- `Value.without?`: what is left of a value without that part.

## Main results

- `Value.occursIn_iff`: the search within a text finds exactly the runs of its characters.
- `Value.holds_object`: an object has a part for exactly the names that it holds.
-/

namespace StaticAccess.Value

/-- Whether some characters occur in a row within a text. -/
def occursIn (part : List Char) : List Char → Bool
  | [] => part.isEmpty
  | c :: text => part.isPrefixOf (c :: text) || occursIn part text

/-- The search within a text finds exactly the runs of its characters. -/
theorem occursIn_iff {part text : List Char} : occursIn part text = true ↔ part <:+: text := by
  induction text with
  | nil => rw [occursIn, List.isEmpty_iff, List.infix_nil]
  | cons c text ih =>
    rw [occursIn, Bool.or_eq_true, List.isPrefixOf_iff_prefix, ih, List.infix_cons_iff]

/-- Whether a value holds a name. -/
def holds (v : Value) (name : String) : Except Error Bool :=
  match v with
  | .string s => .ok (occursIn name.toList s.toList)
  | .list items => .ok (items.any fun item => item.string? = some name)
  | .object members => .ok (members.any fun p => p.1 = name)
  | v => .error (.noContainer v.typeName)

/-- The part of a value that goes by a name, if there is one. -/
def part? (v : Value) (name : String) : Except Error (Option Value) :=
  match v with
  | .string _ => .error .stringPart
  | .list _ => .error .listPart
  | .object members => .ok ((members.find? fun p => p.1 = name).map Prod.snd)
  | v => .error (.noParts v.typeName)

/-- What is left of a value without the part that goes by a name, if there is one. -/
def without? (v : Value) (name : String) : Except Error (Option Value) :=
  match v with
  | .list _ => .error .listPart
  | .object members =>
    .ok (if members.any fun p => p.1 = name then
      some (.object (members.filter fun p => p.1 ≠ name)) else none)
  | v => .error (.keepsParts v.typeName)

/-- An object has a part for exactly the names that it holds. -/
theorem holds_object (members : List (String × Value)) (name : String) :
    (Value.object members).holds name =
      ((Value.object members).part? name).map Option.isSome := by
  simp only [holds, part?, Except.map, Option.isSome_map, List.isSome_find?]

end StaticAccess.Value
