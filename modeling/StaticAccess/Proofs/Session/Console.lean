import StaticAccess.Proofs.Session.Journal
import StaticAccess.Session.Console

/-!
# Sessions at a console

At a console, configurations of logging may stand between the steps of a session. They have no part
in what the session does: its steps have the results that they would have without them. Nor have the
steps of the session a part in how the root of logging is configured.

## Main definitions

- `ConsoleStep.acts`, `ConsoleStep.levels`: the steps of the session and the configured levels among
  the steps at a console.
- `Root.configureAll`: the root after some configurations.

## Main results

- `Console.session_run`, `Console.root_run`: session and root go their own ways.
- `Console.getElem?_result_run`: the result of every step of the session in a run.
-/

namespace StaticAccess

namespace ConsoleStep

/-- The level that is configured, if one is configured. -/
def level? : ConsoleStep → Option Value
  | .configure level => some level
  | .act _ => none

/-- The steps of the session among some steps at a console. -/
def acts (steps : List ConsoleStep) : List Step := steps.filterMap act?

/-- The levels that some steps at a console configure. -/
def levels (steps : List ConsoleStep) : List Value := steps.filterMap level?

/-- Without the configurations among them, the steps at a console take the same steps of the
session. -/
theorem acts_map_act (steps : List Step) : acts (steps.map .act) = steps := by
  rw [acts, List.filterMap_map]
  exact List.filterMap_some

theorem acts_append_act (before after : List ConsoleStep) (x : Step) :
    acts (before ++ .act x :: after) = acts before ++ x :: acts after := by
  rw [acts, List.filterMap_append]
  rfl

end ConsoleStep

namespace Root

/-- The root after configurations with some levels in a row, some of which may fail. -/
def configureAll (root : Root) (levels : List Value) : Root :=
  levels.foldl (fun root level => (root.configure level).1) root

end Root

namespace Session

/-- A step of a run shows what it shows in the session that the steps before it have left. -/
theorem getElem?_run (s : Session) (before after : List Step) (x : Step) :
    (s.run (before ++ x :: after)).2[before.length]? = some ((s.run before).1.step x).2 := by
  induction before generalizing s with
  | nil => rfl
  | cons y before ih => exact ih (s.step y).1

/-- The records of a step are the warnings about its assignment file and those of its graph. -/
theorem log_step (s : Session) (x : Step) :
    (s.step x).2.log = x.action.warnings ++ (s.step x).2.graphLog := by
  rw [graphLog_step]
  exact s.log_perform x.target x.action

end Session

namespace Console

open ConsoleStep

variable (c : Console) (time : String)

/-- Configurations have no part in what the session does. -/
theorem session_run (steps : List ConsoleStep) :
    (c.run time steps).1.session = (c.session.run (acts steps)).1 := by
  induction steps generalizing c with
  | nil => rfl
  | cons x steps ih =>
    cases x with
    | configure level => exact ih _
    | act x => exact ih _

/-- The steps of the session have no part in how the root is configured. -/
theorem root_run (steps : List ConsoleStep) :
    (c.run time steps).1.root = c.root.configureAll (levels steps) := by
  induction steps generalizing c with
  | nil => rfl
  | cons x steps ih =>
    cases x with
    | configure level => exact ih _
    | act x => exact ih _

theorem getElem?_run (before after : List ConsoleStep) (x : ConsoleStep) :
    (c.run time (before ++ x :: after)).2[before.length]? =
      some ((c.run time before).1.step time x).2 := by
  induction before generalizing c with
  | nil => rfl
  | cons y before ih => exact ih (c.step time y).1

/-- A step of the session in a run shows the result that it shows in a run of the session alone. -/
theorem getElem?_result_run (before after : List ConsoleStep) (x : Step) :
    (c.run time (before ++ .act x :: after)).2[before.length]?.map ConsoleOutcome.result =
      some ((c.session.run (acts before)).1.step x).2.result := by
  rw [getElem?_run, ← c.session_run time before]
  rfl

end Console

end StaticAccess
