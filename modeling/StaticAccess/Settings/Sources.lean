import StaticAccess.Log.Record
import StaticAccess.Settings.Assignment
import StaticAccess.Settings.Reading

/-!
# Sources of settings

A setting takes its value from the first of these that gives one: the arguments of the call, the
environment, an assignment file, and its default. Names of arguments are compared in lower case.
Options among the arguments may change how the other sources are read. Without any, names are
compared in lower case there too, and the name of a setting follows the text `STATIC_USAGE_`.

Assigning a name again changes its value, but not its place. Among names that are the same when they
are compared, the first one counts if they are arguments, and the last one otherwise.

This models where the constructor of `Settings` takes the values of `log_level` and
`announce_duplicates` from, before they are validated, and the warnings of the reader of `.env`. It
leaves out directories with secrets, the words of a command line, and settings within settings.

## Main definitions

- `Setting`: the settings, with their names and defaults.
- `Sources`: the arguments, the environment and the assignment file.
- `Sources.given`: the value that the first source to give one gives a setting.
- `Sources.winner`: the value that a setting takes.
- `Sources.warnings`: the records of what cannot be read in the assignment file.
-/

namespace StaticAccess

/-- A setting. -/
inductive Setting where
  /-- The level at which log records are written. -/
  | logLevel
  /-- Whether the addition of a known edge is announced like that of a new one. -/
  | announceDuplicates
  deriving DecidableEq, Repr

namespace Setting

/-- The name of a setting among the arguments. -/
def name : Setting → String
  | .logLevel => "log_level"
  | .announceDuplicates => "announce_duplicates"

/-- The value of a setting that no source gives. -/
def default : Setting → Value
  | .logLevel => .string "INFO"
  | .announceDuplicates => .bool true

end Setting

/-- Where settings take their values from. -/
structure Sources where
  /-- The arguments of the call. -/
  init : List (String × Value)
  /-- The assignments in the environment, in the order in which they were made. -/
  env : List (String × String)
  /-- The text of the assignment file, if there is one. -/
  file : Option String

namespace Sources

/-- The options among the arguments. -/
def options (s : Sources) : Options := .ofArguments s.init

/-- What is read from the assignment file. -/
def reading (s : Sources) : Reading := s.options.reading s.file Setting.logLevel.name

/-- The value of the first of some names that has the same form as `name`. -/
def firstMatch {β : Type} (form : String → String) (name : String) (entries : List (String × β)) :
    Option β :=
  (entries.find? fun p => form p.1 = form name).map Prod.snd

/-- The value of the last of some names that has the same form as `name`. -/
def lastMatch {β : Type} (form : String → String) (name : String) (entries : List (String × β)) :
    Option β :=
  ((entries.filter fun p => form p.1 = form name).getLast?).map Prod.snd

/-- The value that the arguments give a setting. -/
def fromInit (s : Sources) (x : Setting) : Option Value := firstMatch Text.lowerCase x.name s.init

/-- The variables of the environment. -/
def environment (s : Sources) : OrderedMap String String := .ofList s.env

/-- The value that the environment gives a setting. -/
def fromEnv (s : Sources) (x : Setting) : Option Value :=
  (lastMatch s.options.form (s.options.variableName x.name)
    (s.environment.entries.filter fun p => s.options.kept p.2)).map s.options.meaning

/-- The assignments of the assignment file. Reading it again changes none of them. -/
def assignments (s : Sources) : List Assignment :=
  match s.reading.texts with
  | [] => []
  | text :: _ => Assignment.ofText text

/-- The text that the assignment file gives a name. A name that is assigned nothing in the end has
none. -/
def assigned (s : Sources) (name : String) : Option String :=
  (lastMatch s.options.form name
    ((Assignment.table s.environment s.assignments).entries.filter fun p =>
      p.2.all s.options.kept)).join

/-- The text that the assignment file gives a setting behind a lead that leads no settings. It is
not empty, and the name of the setting is in the form in which names are compared. -/
def assignedBehindLead (s : Sources) (x : Setting) : Option String :=
  let name := s.options.ledName x.name
  if s.options.leadsSettings ∨ name = x.name ∨ s.options.form name ≠ name then none
  else (s.assigned name).filter fun text => text ≠ ""

/-- The value that the assignment file gives a setting. -/
def fromFile (s : Sources) (x : Setting) : Option Value :=
  match s.assignedBehindLead x with
  | some text => some (.string text)
  | none => (s.assigned (s.options.variableName x.name)).map s.options.meaning

/-- The value that the first source to give one gives a setting. -/
def given (s : Sources) (x : Setting) : Option Value :=
  if s.options.replaced then none else s.fromInit x <|> s.fromEnv x <|> s.fromFile x

/-- The value that a setting takes, if the sources can be read. -/
def winner (s : Sources) (x : Setting) : Except Error Value :=
  match s.reading.fault with
  | some e => .error e
  | none => .ok ((s.given x).getD x.default)

/-- The record of a statement that cannot be read, by the line on which it begins. -/
def warning (line : Nat) : Record where
  logger := .assignments
  level := .warning
  message := "python-dotenv could not parse statement starting at line " ++ toString line

/-- The records of the statements in the assignment file that cannot be read. -/
def warnings (s : Sources) : List Record :=
  s.reading.texts.flatMap fun text => (Assignment.malformedLines text).map warning

end Sources

end StaticAccess
