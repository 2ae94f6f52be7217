import StaticAccess.Log.Root
import StaticAccess.Session.Run

/-!
# Sessions with a console

The records of a session go to the root of logging, which writes to the console those that pass. A
step of the session can be preceded and followed by configurations of the root.

This models callers of the library that also call `setup_logging`, and that see what reaches the
error output. The time in front of every line is given.

## Main definitions

- `Console`: a session with the root of logging.
- `Console.step`, `Console.run`: steps in a row, each with what is written during it.
- `Console.checkedRun`: a run that stops at a name that is not in use.
-/

namespace StaticAccess

/-- A session with the root of logging to which its records go. -/
structure Console where
  /-- The session. -/
  session : Session
  /-- The root of logging. -/
  root : Root
  deriving DecidableEq

/-- A step of a session, or a configuration of logging. -/
inductive ConsoleStep where
  | configure (level : Value)
  | act (x : Step)

/-- What is shown of a step at the console. -/
structure ConsoleOutcome where
  /-- The answer, or the failure. -/
  result : Except Error Answer
  /-- The root of logging after the step. -/
  root : Root
  /-- The text that was written during the step. -/
  written : String

/-- The step of the session that is taken, if one is taken. -/
def ConsoleStep.act? : ConsoleStep → Option Step
  | .configure _ => none
  | .act x => some x

namespace Console

/-- The console of a new session before any configuration. -/
def start : Console := ⟨.start, .start⟩

/-- The console after a step at a given time, and what is shown of the step. -/
def step (c : Console) (time : String) : ConsoleStep → Console × ConsoleOutcome
  | .configure level =>
    let (root, result) := c.root.configure level
    ({ c with root }, ⟨result.map fun _ => .none, root, ""⟩)
  | .act x =>
    let (session, outcome) := c.session.step x
    ({ c with session }, ⟨outcome.result, c.root, c.root.output time outcome.log⟩)

/-- The console after some steps at a given time, and what is shown of each. -/
def run (c : Console) (time : String) : List ConsoleStep → Console × List ConsoleOutcome
  | [] => (c, [])
  | x :: steps =>
    let (c, outcome) := c.step time x
    let (c, outcomes) := c.run time steps
    (c, outcome :: outcomes)

/-- The console after some steps at a given time, and what is shown of each, unless a step of the
session looks up a name that is not in use. -/
def checkedRun (c : Console) (time : String) (steps : List ConsoleStep) :
    Except Error (Console × List ConsoleOutcome) :=
  (c.session.checkedRun (steps.filterMap ConsoleStep.act?)).map fun _ => c.run time steps

end Console

end StaticAccess
