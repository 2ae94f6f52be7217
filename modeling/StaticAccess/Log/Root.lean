import StaticAccess.Error
import StaticAccess.Log.Record
import StaticAccess.Value

/-!
# The root of logging

Records go to the handlers of one root, which holds a threshold. The root is configured once: the
first configuration installs a handler and sets the threshold, every later one does nothing.

A level to configure may be any plain value. Names of levels and values equal to the number of a
level are known. Every other value that is not a collection makes up the text of an unknown
level, which fails only when the threshold is set, after the handler has been installed.

As long as no handler is installed, a handler of last resort stands in for it. It writes the
messages of warnings and of what is more severe, without anything around them.

This models `setup_logging`, with the library's `getLevelName` and `basicConfig`, and the way of a
record to the console. It leaves out handlers that others install, loggers with levels of their own,
levels with names that others add, and the clock: the time that a line begins with is given.

## Main definitions

- `Threshold.ofValue`: the level that a value asks for.
- `Root`, `Root.start`, `Root.configure`.
- `Root.passes`, `Root.text`: whether a record is written, and what is written of it.
- `Root.output`: what is written of some records.
-/

namespace StaticAccess

/-- A level asked for by a value. -/
inductive Threshold where
  /-- The number of a known level. -/
  | known (number : Nat)
  /-- The text of a level that is not known. -/
  | unknown (text : String)
  deriving DecidableEq, Repr

namespace Threshold

/-- The names that stand for a threshold, with its number. -/
def names : List (String × Nat) :=
  [("CRITICAL", 50), ("FATAL", 50), ("ERROR", 40), ("WARNING", 30), ("WARN", 30), ("INFO", 20),
    ("DEBUG", 10), ("NOTSET", 0)]

/-- The number of a name. -/
def numberOf? (name : String) : Option Nat :=
  (names.find? fun p => p.1 = name).map Prod.snd

/-- The number of a level that a value is equal to. -/
def numberOfValue? (v : Value) : Option Nat :=
  v.integer?.bind fun n => (names.find? fun p => (p.2 : Int) = n).map Prod.snd

/-- The threshold that a value asks for. Collections cannot be looked up. -/
def ofValue (v : Value) : Except Error Threshold :=
  match v.scalarText? with
  | none => .error (.unhashable v.typeName)
  | some text =>
    match v with
    | .string name =>
      match numberOf? name with
      | some n => .ok (.known n)
      | none => .ok (.unknown ("Level " ++ text))
    | v =>
      match numberOfValue? v with
      | some n => .ok (.known n)
      | none => .ok (.unknown ("Level " ++ text))

end Threshold

/-- The root to which all records go. -/
structure Root where
  /-- The least severity that is written. -/
  level : Nat
  /-- The number of installed handlers. -/
  handlers : Nat
  deriving DecidableEq, Repr

namespace Root

/-- The root before any configuration. -/
def start : Root := ⟨Level.warning.number, 0⟩

/-- Install a handler, then set the threshold, unless there is a handler. The root that is left
has the handler even if the threshold could not be set. -/
def configure (root : Root) (level : Value) : Root × Except Error Unit :=
  match Threshold.ofValue level with
  | .error e => (root, .error e)
  | .ok threshold =>
    if root.handlers ≠ 0 then (root, .ok ())
    else
      let installed := { root with handlers := root.handlers + 1 }
      match threshold with
      | .known n => ({ installed with level := n }, .ok ())
      | .unknown text => (installed, .error (.unknownLevel text))

/-- Whether a record is written: it reaches the threshold, and without a handler it is at least a
warning. -/
def passes (root : Root) (r : Record) : Bool :=
  root.level ≤ r.level.number && (0 < root.handlers || Level.warning.number ≤ r.level.number)

/-- What is written of a record that passes: its line, or without a handler its bare message. -/
def text (root : Root) (time : String) (r : Record) : String :=
  if root.handlers = 0 then r.bareLine else r.line time

/-- What is written of some records that are emitted at a given time. -/
def output (root : Root) (time : String) (records : List Record) : String :=
  String.join ((records.filter root.passes).map (root.text time))

end Root

end StaticAccess
