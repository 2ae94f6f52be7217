import StaticAccess.Settings.Reference
import StaticAccess.Settings.Statement
import StaticAccess.Store.OrderedMap

/-!
# Assignment files

The text of an assignment file is a row of statements. A byte order mark may lead it. Line feed,
carriage return and the two in a row all end a line.

Every assignment gives its name a new value, but no new place. Its value may refer to the names that
were assigned before it, and beyond them to variables of the environment.

This models the reader of `.env` files for the text of a whole file. It leaves out that assignments
could be carried over into the environment, which `Settings` does not ask for.

## Main definitions

- `Assignment`: a name with the value assigned to it, if any.
- `Assignment.ofText`: the assignments of a text, one after another.
- `Assignment.malformedLines`: the lines at which a text cannot be read.
- `Assignment.table`: the values that names have after some assignments.
-/

namespace StaticAccess

/-- A name with the value that is assigned to it, if any. -/
abbrev Assignment := String × Option String

namespace Assignment

/-- A text in which all lines end with a line feed. -/
def unifyLines : List Char → List Char
  | [] => []
  | '\r' :: '\n' :: text => '\n' :: unifyLines text
  | c :: text => (if c = '\r' then '\n' else c) :: unifyLines text

/-- A text without the byte order mark that may lead it. -/
def dropMark : List Char → List Char
  | [] => []
  | c :: text => if c.toNat = 0xFEFF then text else c :: text

/-- The characters of which the statements of a text are made. -/
def characters (text : String) : List Char := unifyLines (dropMark text.toList)

/-- The assignment that a statement makes, if it makes one. -/
def ofStatement? : Statement → Option Assignment
  | .assignment name value => some (name, value)
  | _ => none

/-- The assignments of a text, one after another. -/
def ofText (text : String) : List Assignment :=
  (Statement.all (characters text)).filterMap fun p => ofStatement? p.2

/-- The line on which the rest of a text begins, counted from one. -/
def lineOf (text rest : List Char) : Nat := text.count '\n' - rest.count '\n' + 1

/-- The lines on which those statements of a text begin that cannot be read. Lines without
anything on them belong to the statement that they lead. -/
def malformedLines (text : String) : List Nat :=
  ((Statement.all (characters text)).filter fun p => p.2 = .malformed).map fun p =>
    lineOf (characters text) p.1

/-- What a reference to a name stands for where some names are assigned: the value assigned to the
name, nothing if it is assigned none, and else its value in the environment. -/
def valueOf (environment : OrderedMap String String) (assigned : OrderedMap String (Option String))
    (name : String) : Option String :=
  match assigned.get? name with
  | some value => some (value.getD "")
  | none => environment.get? name

/-- The values that names have after some assignments in an environment. -/
def table (environment : OrderedMap String String) (assignments : List Assignment) :
    OrderedMap String (Option String) :=
  assignments.foldl (fun assigned a =>
    assigned.set a.1 (a.2.map fun value =>
      .ofList (Reference.expand (valueOf environment assigned) value.toList))) .empty

end Assignment

end StaticAccess
