import StaticAccess.Text.Characters
import StaticAccess.Text.UpperCase

/-!
# Log levels

The five levels at which records are written, with their names and numbers, and the levels that a
text may name.

This models `LOG_LEVELS` and the test of `normalize_log_level`. It leaves out the level without a
name, of number 0, at which nothing is written.

## Main definitions

- `Level`: a level, with `Level.name` and `Level.number`.
- `Level.ofText?`: the level that a text names, in any case and with white space around it.
-/

namespace StaticAccess

/-- The level of a log record. -/
inductive Level where
  | debug
  | info
  | warning
  | error
  | critical
  deriving DecidableEq, Repr

namespace Level

/-- All levels, the least severe first. -/
def all : List Level := [.debug, .info, .warning, .error, .critical]

/-- The name of a level. -/
def name : Level → String
  | .debug => "DEBUG"
  | .info => "INFO"
  | .warning => "WARNING"
  | .error => "ERROR"
  | .critical => "CRITICAL"

/-- The severity of a level. -/
def number : Level → Nat
  | .debug => 10
  | .info => 20
  | .warning => 30
  | .error => 40
  | .critical => 50

/-- The level whose name a text is, once trimmed and in upper case. -/
def ofText? (s : String) : Option Level :=
  all.find? fun l => l.name.toList = Text.upperCase (Text.trim s.toList)

end Level

end StaticAccess
