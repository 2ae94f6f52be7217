import StaticAccess.Proofs.Log.Configuration
import StaticAccess.Proofs.Session.Console

/-!
# The one handler of a run

Of all configurations in a run at the console, one at most has an effect on the root: the first one
whose level is not a collection. It installs the handler, and sets the threshold if the level is
known. Before it the root is as it was at the start, and after it the root never changes again, even
if that configuration has failed.

## Main definitions

- `Root.Follows`: what a root is after configurations with some levels.

## Main results

- `Root.configure_cases`: what a configuration does to any root.
- `Root.Follows.configure`, `Root.follows_configureAll`: one configuration, and any number of them.
- `Console.installation_run`: handler and threshold in any run.
-/

namespace StaticAccess

namespace Root

variable {root : Root} {levels : List Value}

/-- A configuration does nothing if its level is a collection or the root has a handler, and
otherwise it leaves the first handler. -/
theorem configure_cases (root : Root) (level : Value) :
    ((level.IsCollection ∨ root.handlers ≠ 0) ∧ (root.configure level).1 = root) ∨
      (¬ level.IsCollection ∧ root.handlers = 0 ∧ (root.configure level).1.handlers = 1) := by
  by_cases hroot : root.handlers = 0
  · cases hlevel : Threshold.ofValue level with
    | error e =>
      have hcollection : level.IsCollection := (Threshold.isCollection_of_ofValue hlevel).1
      refine .inl ⟨.inl hcollection, ?_⟩
      rw [configure, hlevel]
    | ok threshold =>
      refine .inr ⟨Threshold.not_isCollection_of_ofValue hlevel, hroot, ?_⟩
      -- The handler is installed before the threshold turns out to be known or not.
      cases threshold with
      | known n => simp [configure, hlevel, hroot]
      | unknown text => simp [configure, hlevel, hroot]
  · exact .inl ⟨.inr hroot, configure_of_handlers hroot level⟩

/-- What a root that had no handler is after configurations with some levels. -/
structure Follows (root : Root) (levels : List Value) : Prop where
  /-- There is one handler at most. -/
  handlers_le : root.handlers ≤ 1
  /-- Without a handler the threshold is the one of the start. -/
  level_eq : root.handlers = 0 → root.level = Level.warning.number
  /-- There is no handler as long as there were only collections. -/
  handlers_eq_zero_iff : root.handlers = 0 ↔ ∀ level ∈ levels, level.IsCollection

namespace Follows

theorem start : Root.start.Follows [] where
  handlers_le := Nat.zero_le 1
  level_eq _ := rfl
  handlers_eq_zero_iff := by simp [Root.start]

/-- One more configuration. -/
theorem configure (h : root.Follows levels) (level : Value) :
    (root.configure level).1.Follows (levels ++ [level]) := by
  rcases configure_cases root level with ⟨hnone, hsame⟩ | ⟨hscalar, -, hone⟩
  · -- The root stays, so the level must be a collection if there is no handler yet.
    rw [hsame]
    refine ⟨h.handlers_le, h.level_eq, ?_⟩
    rw [List.forall_mem_append, List.forall_mem_singleton, ← h.handlers_eq_zero_iff]
    exact ⟨fun hroot => ⟨hroot, hnone.resolve_right fun hne => hne hroot⟩, And.left⟩
  · refine ⟨hone.le, fun hzero => ?_, ?_⟩
    · rw [hone] at hzero
      cases hzero
    · rw [hone, List.forall_mem_append, List.forall_mem_singleton]
      exact ⟨nofun, fun hall => absurd hall.2 hscalar⟩

end Follows

/-- Any number of configurations since the start. -/
theorem follows_configureAll (levels : List Value) :
    (start.configureAll levels).Follows levels := by
  induction levels using List.reverseRecOn with
  | nil => exact .start
  | append_singleton levels level ih =>
    rw [configureAll, List.foldl_append]
    exact ih.configure level

end Root

namespace Console

variable {c : Console} {time : String}

theorem run_append (c : Console) (time : String) (before after : List ConsoleStep) :
    (c.run time (before ++ after)).1 = ((c.run time before).1.run time after).1 := by
  induction before generalizing c with
  | nil => rfl
  | cons x before ih => exact ih (c.step time x).1

/-- A step at the console leaves the root as it is, or it installs the first handler. -/
theorem root_step_cases (c : Console) (time : String) (x : ConsoleStep) :
    (c.step time x).1.root = c.root ∨
      (c.root.handlers = 0 ∧ (c.step time x).1.root.handlers = 1) := by
  cases x with
  | configure level =>
    rcases c.root.configure_cases level with ⟨-, hsame⟩ | ⟨-, hnone, hone⟩
    · exact .inl hsame
    · exact .inr ⟨hnone, hone⟩
  | act x => exact .inl rfl

/-- No handler is ever removed. -/
theorem handlers_le_run (c : Console) (time : String) (steps : List ConsoleStep) :
    c.root.handlers ≤ (c.run time steps).1.root.handlers := by
  by_cases hroot : c.root.handlers = 0
  · rw [hroot]
    exact Nat.zero_le _
  · rw [root_run_of_handlers hroot]

/-- In any run from the start, there is never more than one handler, and no handler is removed.
Without a handler the threshold is that of the start. A step `x` changes the threshold only if it
installs the handler, and once there is a handler, neither the threshold nor the number of handlers
changes any more, whatever else is done and configured, with or without success. The handler is
there just if some level that was configured is not a collection. The root after `x` is the one
that is shown with `x`. -/
theorem installation_run (time : String) (before after : List ConsoleStep) (x : ConsoleStep) :
    let root := (start.run time before).1.root
    let next := (start.run time (before ++ [x])).1.root
    let last := (start.run time (before ++ x :: after)).1.root
    root.handlers ≤ 1 ∧
      root.handlers ≤ next.handlers ∧ next.handlers ≤ last.handlers ∧
      (root.handlers = 0 → root.level = Level.warning.number) ∧
      (next.level ≠ root.level → root.handlers = 0 ∧ next.handlers = 1) ∧
      (root.handlers = 1 → next = root ∧ last = root) ∧
      (root.handlers = 0 ↔ ∀ level ∈ ConsoleStep.levels before, level.IsCollection) ∧
      (start.run time (before ++ x :: after)).2[before.length]?.map ConsoleOutcome.root =
        some next := by
  intro root next last
  set c := (start.run time before).1 with hc
  -- Nothing but the levels among the steps matters to the root.
  have hfollows : root.Follows (ConsoleStep.levels before) := by
    show c.root.Follows _
    rw [hc, start.root_run time before]
    exact Root.follows_configureAll _
  have hnext : next = (c.step time x).1.root :=
    congrArg Console.root (start.run_append time before [x])
  have hlast : last = ((c.step time x).1.run time after).1.root :=
    congrArg Console.root (start.run_append time before (x :: after))
  refine ⟨hfollows.handlers_le, ?_, ?_, hfollows.level_eq, ?_, ?_,
    hfollows.handlers_eq_zero_iff, ?_⟩
  · rw [hnext]
    exact c.handlers_le_run time [x]
  · rw [hnext, hlast]
    exact handlers_le_run _ time after
  · intro hchanged
    rw [hnext] at hchanged ⊢
    rcases c.root_step_cases time x with hsame | hinstalled
    · exact absurd (congrArg Root.level hsame) hchanged
    · exact hinstalled
  · intro hone
    have hroot : c.root.handlers ≠ 0 := by
      rw [show c.root.handlers = 1 from hone]
      exact Nat.one_ne_zero
    refine ⟨hnext.trans (root_step_of_handlers hroot x), ?_⟩
    exact hlast.trans (root_run_of_handlers hroot (x :: after))
  · rw [getElem?_run, ← hc, hnext]
    cases x <;> rfl

/-- A list does nothing, the name of a level then sets the threshold, and this threshold stays
through another name and through a failure. -/
theorem installation_run_debug :
    let before : List ConsoleStep := [.configure (.list []), .act ⟨"g", .edges⟩]
    let debug : ConsoleStep := .configure (.string "DEBUG")
    let later : List ConsoleStep := [.configure (.object []), .act ⟨"g", .describe⟩]
    (start.run "" before).1.root = Root.start ∧
      (start.run "" (before ++ [debug])).1.root = ⟨Level.debug.number, 1⟩ ∧
      (start.run "" (before ++ [debug] ++ .configure (.string "ERROR") :: later)).1.root =
        ⟨Level.debug.number, 1⟩ := by
  intro before debug later
  obtain ⟨-, -, -, hlevel, hinstalled, -⟩ := installation_run "" before later debug
  obtain ⟨-, -, -, -, -, hstays, -⟩ :=
    installation_run "" (before ++ [debug]) later (.configure (.string "ERROR"))
  have hnone : (start.run "" before).1.root.handlers = 0 := by decide
  have hone : (start.run "" (before ++ [debug])).1.root.handlers = 1 :=
    (hinstalled (by decide)).2
  have hdebug : (start.run "" (before ++ [debug])).1.root = ⟨Level.debug.number, 1⟩ := by decide
  refine ⟨?_, hdebug, ((hstays hone).2).trans hdebug⟩
  -- The list has left the root without a handler, and so with the threshold of the start.
  show Root.mk (start.run "" before).1.root.level (start.run "" before).1.root.handlers = _
  rw [hlevel hnone, hnone]
  rfl

end Console

end StaticAccess
