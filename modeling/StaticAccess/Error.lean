import StaticAccess.Edge.Basic
import StaticAccess.Log.Level
import StaticAccess.Text.CodePage
import StaticAccess.Text.Quoted

/-!
# Errors

Every way in which a call can fail, by its cause, and the message of each.

This models the exceptions that the library raises or lets through, with their messages. Of a report
of the validation it keeps the title, the fields, and for each field what is wrong and the code of
that; the given value and the address for further information are left out.

## Main definitions

- `Fault`: what is wrong with one field of a value that is validated.
- `Schema`: what the value was to be.
- `Error`: the cause of a failure, with `Error.message`.
-/

namespace StaticAccess

/-- What is wrong with one field of a value that is validated. -/
inductive Fault where
  /-- The field is not given. -/
  | missing
  /-- The field is given, but not as a string. -/
  | notString
  /-- The field belongs to a value that cannot be changed. -/
  | frozen
  /-- The given text names no level. -/
  | unknownLevel (given : String)
  /-- The given value is of a kind that may stand for a flag, but stands for none. -/
  | unclearFlag
  /-- The given value is of a kind that stands for no flag. -/
  | notFlag
  deriving DecidableEq, Repr

/-- The text of a fault. -/
def Fault.message : Fault → String
  | .missing => "Field required [missing]"
  | .notString => "Input should be a valid string [string_type]"
  | .frozen => "Instance is frozen [frozen_instance]"
  | .unknownLevel given =>
    "Value error, Unknown log level " ++ quoted given ++ ", expected one of " ++
      String.intercalate ", " (Level.all.map Level.name) ++ " [value_error]"
  | .unclearFlag =>
    "Input should be a valid boolean, unable to interpret input [bool_parsing]"
  | .notFlag => "Input should be a valid boolean [bool_type]"

/-- What a validated value was to be. -/
inductive Schema where
  /-- An edge of a kind. -/
  | edge (kind : Kind)
  /-- An edge without a kind and an accessed member. -/
  | bareEdge
  /-- The settings. -/
  | settings
  deriving DecidableEq, Repr

/-- The schema of an edge of a kind, or of a bare edge if there is none. -/
def Schema.ofKind : Option Kind → Schema
  | some kind => .edge kind
  | none => .bareEdge

/-- The name of a schema in messages. -/
def Schema.name : Schema → String
  | .edge .fieldRead => "FieldReadEdge"
  | .edge .methodCall => "MethodCallEdge"
  | .bareEdge => "UsageEdge"
  | .settings => "Settings"

/-- How messages speak of the reading of a code page. -/
def readerName : Text.CodePage → String
  | .ascii => "ascii"
  | .latin1 => "latin-1"
  | _ => "charmap"

/-- Why a byte stands for no character of a code page. -/
def unusedReason : Text.CodePage → String
  | .ascii => "ordinal not in range(128)"
  | _ => "character maps to <undefined>"

/-- The cause of a failure. -/
inductive Error where
  /-- A value has faulty fields. -/
  | invalid (schema : Schema) (faults : List (String × Fault))
  /-- A value of the wrong kind was used as if it were a string, or an edge was asked for what
  it does not have. -/
  | noAttribute (typeName asked : String)
  /-- Something other than an edge was to be added to a graph. -/
  | notEdge (typeName : String)
  /-- A value that lists nothing was to be added to a graph edge by edge. -/
  | notIterable (typeName : String)
  /-- A collection was looked up as a level. -/
  | unhashable (typeName : String)
  /-- A text names no level. -/
  | unknownLevel (text : String)
  /-- Nothing is kept under a name. -/
  | unknownName (name : String)
  /-- An edge without a kind was asked for what only its kind determines. -/
  | undetermined
  /-- A snapshot was to be changed. -/
  | frozenGraph
  /-- The class of an edge was to be replaced by what is no class. -/
  | notClass (typeName : String)
  /-- The table of an edge was to be replaced by what is no table. -/
  | notTable (typeName : String)
  /-- Something other than a string was used as the name of an attribute. -/
  | notName (typeName : String)
  /-- A name was to be given a value that follows from others. -/
  | readOnly (typeName asked : String)
  /-- A name was to be given a value that only the library sets. -/
  | notWritable (typeName asked : String)
  /-- A value that can hold no name was asked whether it holds one. -/
  | noContainer (typeName : String)
  /-- A value without parts was asked for the part of a name. -/
  | noParts (typeName : String)
  /-- A list was asked for the part of a name. -/
  | listPart
  /-- A string was asked for the part of a name. -/
  | stringPart
  /-- The part of a name was to be taken from a value that has no parts or keeps them. -/
  | keepsParts (typeName : String)
  /-- A value stands in the place of a procedure. -/
  | notCallable (typeName : String)
  /-- A value that lists nothing was to be taken apart. -/
  | notSeparable (typeName : String)
  /-- A value was to be taken apart into two, but lists fewer items. -/
  | tooFewItems (count : Nat)
  /-- A value was to be taken apart into two, but lists more items. -/
  | tooManyItems
  /-- An argument was given by the call itself. -/
  | givenTwice (argument : String)
  /-- A value that is no number was to be made smaller by one. -/
  | notNumber (typeName : String)
  /-- A value without a length was to lead the names of variables. -/
  | noLength (typeName : String)
  /-- A value that is no string was to name an assignment file. -/
  | notPath (typeName : String)
  /-- A value that is no string was to name an encoding. -/
  | notEncoding (typeName : String)
  /-- A byte of the assignment file stands for no character. -/
  | undecodable (page : Text.CodePage) (byte position : Nat)
  /-- The name under which a setting is looked up in the environment cannot be formed. -/
  | unreadable (setting : String)
  deriving DecidableEq, Repr

/-- The text of an error. -/
def Error.message : Error → String
  | .invalid schema faults =>
    schema.name ++ String.join (faults.map fun p => "\n" ++ p.1 ++ ": " ++ p.2.message)
  | .noAttribute typeName asked =>
    "'" ++ typeName ++ "' object has no attribute " ++ quoted asked
  | .notEdge typeName => "Expected FieldReadEdge or MethodCallEdge, got " ++ typeName
  | .notIterable typeName => "'" ++ typeName ++ "' object is not iterable"
  | .unhashable typeName => "unhashable type: '" ++ typeName ++ "'"
  | .unknownLevel text => "Unknown level: " ++ quoted text
  | .unknownName name => quoted name
  | .undetermined => ""
  | .frozenGraph => "Frozen graph can't be modified"
  | .notClass typeName => "__class__ must be set to a class, not '" ++ typeName ++ "' object"
  | .notTable typeName => "__dict__ must be set to a dictionary, not a '" ++ typeName ++ "'"
  | .notName typeName => "attribute name must be string, not '" ++ typeName ++ "'"
  | .readOnly typeName asked =>
    "property " ++ quoted asked ++ " of '" ++ typeName ++ "' object has no setter"
  | .notWritable typeName asked =>
    "attribute " ++ quoted asked ++ " of '" ++ typeName ++ "' objects is not writable"
  | .noContainer typeName => "argument of type '" ++ typeName ++ "' is not iterable"
  | .noParts typeName => "'" ++ typeName ++ "' object is not subscriptable"
  | .listPart => "list indices must be integers or slices, not str"
  | .stringPart => "string indices must be integers, not 'str'"
  | .keepsParts typeName => "'" ++ typeName ++ "' object does not support item deletion"
  | .notCallable typeName => "'" ++ typeName ++ "' object is not callable"
  | .notSeparable typeName => "cannot unpack non-iterable " ++ typeName ++ " object"
  | .tooFewItems count =>
    "not enough values to unpack (expected 2, got " ++ toString count ++ ")"
  | .tooManyItems => "too many values to unpack (expected 2)"
  | .givenTwice argument =>
    "BaseSettings.__init__() got multiple values for argument " ++ quoted argument
  | .notNumber typeName => "unsupported operand type(s) for -: '" ++ typeName ++ "' and 'int'"
  | .noLength typeName => "object of type '" ++ typeName ++ "' has no len()"
  | .notPath typeName => "expected str, bytes or os.PathLike object, not " ++ typeName
  | .notEncoding typeName => "open() argument 'encoding' must be str or None, not " ++ typeName
  | .undecodable page byte position =>
    "'" ++ readerName page ++ "' codec can't decode byte 0x" ++
      String.ofList (Text.Quoted.hexDigits 2 byte) ++ " in position " ++ toString position ++
      ": " ++ unusedReason page
  | .unreadable setting =>
    "error getting value for field \"" ++ setting ++ "\" from source \"EnvSettingsSource\""

/-- A change of the value neither mends a failure nor makes one. -/
theorem map_eq_error_iff {ε α β : Type} {f : α → β} {x : Except ε α} {e : ε} :
    x.map f = .error e ↔ x = .error e := by
  cases x <;> simp [Except.map]

end StaticAccess
