/-!
# Roles of names

What can be assigned to a name of an edge depends on the role of the name. Names that begin with an
underscore are for notes, but some of them are kept for other uses. All other names are frozen.

## Main definitions

- `Role`: what a name is for.
- `Role.ofName`: the role of a name.

## Main results

- `Role.ofName_eq_frozen_iff`: the frozen names are those that do not begin with an underscore.
-/

namespace StaticAccess

/-- What a name of an edge is for. -/
inductive Role where
  /-- A field, a view, or any other name to which nothing can be assigned. -/
  | frozen
  /-- A note, for any value. -/
  | note
  /-- A value that is kept beside the fields and notes. -/
  | slot
  /-- The table of all fields and notes. -/
  | table
  /-- The names of the given fields, under the name that can only be read. -/
  | givenFields
  /-- The class of the edge. -/
  | edgeClass
  /-- The references that are kept to the edge. -/
  | references
  deriving DecidableEq, Repr

/-- Whether a name begins with an underscore. -/
def isNoteName (name : String) : Bool := name.toList.head? = some '_'

namespace Role

/-- The name under which the fields and notes can be replaced all together. -/
def tableName : String := "__dict__"

/-- The name of the slot for the names of the given fields. -/
def givenFieldsSlot : String := "__pydantic_fields_set__"

/-- The name of the slot for what answers to names that nothing else answers to. -/
def extraSlot : String := "__pydantic_extra__"

/-- The name of the slot for what answers to the names that are set apart. -/
def apartSlot : String := "__pydantic_private__"

/-- The names of the slots. -/
def slotNames : List String := [givenFieldsSlot, extraSlot, apartSlot]

/-- The name of the note that sets names apart. -/
def apartName : String := "__private_attributes__"

/-- The name of what knows how assignments are carried out. -/
def settersName : String := "__pydantic_setattr_handlers__"

/-- The name of what finds out how an assignment is carried out. -/
def setterName : String := "_setattr_handler"

/-- The name of what lists the declared fields with their values. -/
def dumpName : String := "model_dump"

/-- The name of what writes the declared fields down. -/
def writerName : String := "__pydantic_serializer__"

/-- The role of a name. -/
def ofName (name : String) : Role :=
  if !isNoteName name then .frozen
  else if name = tableName then .table
  else if name = "__fields_set__" then .givenFields
  else if name = "__class__" then .edgeClass
  else if name = "__weakref__" then .references
  else if name ∈ slotNames then .slot
  else .note

/-- The frozen names are those that do not begin with an underscore. -/
theorem ofName_eq_frozen_iff {name : String} :
    ofName name = .frozen ↔ isNoteName name = false := by
  unfold ofName
  cases isNoteName name with
  | false => simp
  | true =>
    simp only [Bool.not_true, Bool.false_eq_true, ↓reduceIte, Bool.true_eq_false, iff_false]
    repeat' split
    all_goals exact Role.noConfusion

end Role

end StaticAccess
