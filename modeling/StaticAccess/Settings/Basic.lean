import StaticAccess.Error
import StaticAccess.Graph.Basic
import StaticAccess.Settings.Sources

/-!
# Settings

The settings of the library: the level at which log records are written, and how graphs announce
additions. They are read from the winning values of their sources and validated.

This models `Settings`, with `normalize_log_level` and the validation of `announce_duplicates`, and
`create_graph`. Of the report of a validation it keeps, for each bad setting, its name and what is
wrong with it.

## Main definitions

- `Settings`.
- `Settings.readFlag`: the flag that a value stands for.
- `Settings.validate`: the settings that two values stand for.
- `Settings.load`: the settings that some sources give.
- `Settings.createGraph`: an empty graph that announces as the settings say.
-/

namespace StaticAccess

/-- Validated settings. -/
structure Settings where
  /-- The level at which log records are written. -/
  logLevel : Level
  /-- Whether the addition of a known edge is announced like that of a new one. -/
  announceDuplicates : Bool
  deriving DecidableEq, Repr

namespace Settings

/-- The level that a text names. -/
def readLevel (given : String) : Except Fault Level :=
  match Level.ofText? given with
  | some level => .ok level
  | none => .error (.unknownLevel given)

/-- The words for a flag that is not set, and those for one that is. -/
def flagWords : Bool → List String
  | false => ["0", "off", "f", "false", "n", "no"]
  | true => ["1", "on", "t", "true", "y", "yes"]

/-- The flag that a word stands for, in any case. -/
def flagOfText (s : String) : Except Fault Bool :=
  if Text.asciiLowerCase s ∈ flagWords false then .ok false
  else if Text.asciiLowerCase s ∈ flagWords true then .ok true
  else .error .unclearFlag

/-- Whether an integer is a signed number of 64 bits. -/
def IsWord (n : Int) : Prop := -9223372036854775808 ≤ n ∧ n ≤ 9223372036854775807

instance (n : Int) : Decidable (IsWord n) := inferInstanceAs (Decidable (_ ∧ _))

/-- The flag that an integer stands for: zero or one. Integers of more than 64 bits are not
considered at all. -/
def flagOfInt (n : Int) : Except Fault Bool :=
  if n = 0 then .ok false
  else if n = 1 then .ok true
  else if IsWord n then .error .unclearFlag
  else .error .notFlag

/-- The flag that a value stands for. A floating-point number counts like the integer that it is
equal to, if the absolute value of that is less than two to the power of 63. -/
def readFlag : Value → Except Fault Bool
  | .bool b => .ok b
  | .string s => flagOfText s
  | .int n => flagOfInt n
  | .float x =>
    match x.toInt? with
    | some n => if n.natAbs < 9223372036854775808 then flagOfInt n else .error .notFlag
    | none => .error .notFlag
  | _ => .error .notFlag

/-- The fault of a setting that was read, if it has one. -/
def faultOf {α : Type} (x : Setting) : Except Fault α → List (String × Fault)
  | .error fault => [(x.name, fault)]
  | .ok _ => []

/-- The settings that a level and a flag stand for. A level that is no text ends the validation;
otherwise the faults of both settings are reported. -/
def validate (level flag : Value) : Except Error Settings :=
  match level with
  | .string given =>
    match readLevel given, readFlag flag with
    | .ok logLevel, .ok announceDuplicates => .ok { logLevel, announceDuplicates }
    | l, f => .error (.invalid .settings (faultOf .logLevel l ++ faultOf .announceDuplicates f))
  | level => .error (.noAttribute level.typeName "strip")

/-- The settings that some sources give. -/
def load (s : Sources) : Except Error Settings := do
  validate (← s.winner .logLevel) (← s.winner .announceDuplicates)

/-- An empty graph that announces additions as the settings say. -/
def createGraph (s : Settings) : Graph := .empty s.announceDuplicates

end Settings

end StaticAccess
