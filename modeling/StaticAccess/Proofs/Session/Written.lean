import StaticAccess.Proofs.Session.Installation

/-!
# What is written at a console

All that the configurations at a console decide about a step of the session is which of its records
are written. With a handler, these are the records that reach the threshold, line by line. Without
one the handler of last resort writes bare messages, but only of warnings. A graph never warns, so
that only the warnings about an assignment file are written then.

## Main results

- `Root.output_of_handlers`, `Root.output_of_no_handlers`: what a root writes of some records.
- `Console.written_run`: the result and the text of every step of the session in a run.
- `Console.written_unlogged`: what is written beside the records of a graph.
-/

namespace StaticAccess

namespace Root

variable {root : Root}

/-- With a handler, the lines of those records are written that reach the threshold, in order. -/
theorem output_of_handlers (h : root.handlers ≠ 0) (time : String) (records : List Record) :
    root.output time records =
      String.join
        ((records.filter fun r => root.level ≤ r.level.number).map (Record.line time)) := by
  have hpasses : root.passes = fun r => decide (root.level ≤ r.level.number) := by
    funext r
    simp [passes, Nat.pos_of_ne_zero h]
  have htext : root.text time = Record.line time := by
    funext r
    exact if_neg h
  rw [output, hpasses, htext]

/-- Without a handler and with the threshold of the start, the bare messages of those records are
written that are at least warnings, in order. -/
theorem output_of_no_handlers (h : root.handlers = 0) (hlevel : root.level = Level.warning.number)
    (time : String) (records : List Record) :
    root.output time records =
      String.join ((records.filter fun r => Level.warning.number ≤ r.level.number).map
        Record.bareLine) := by
  have hpasses : root.passes = fun r => decide (Level.warning.number ≤ r.level.number) := by
    funext r
    simp [passes, h, hlevel]
  have htext : root.text time = Record.bareLine := by
    funext r
    exact if_pos h
  rw [output, hpasses, htext]

end Root

/-- Of the records of an action, exactly the warnings about its assignment file are warnings. -/
theorem Action.filter_warning_log (action : Action) (g : Graph) (es : List Edge) :
    (action.warnings ++ g.reports es).filter (fun r => Level.warning.number ≤ r.level.number) =
      action.warnings := by
  have hwarnings : action.warnings.filter (fun r => Level.warning.number ≤ r.level.number) =
      action.warnings := by
    rw [List.filter_eq_self]
    intro r hr
    rw [Action.level_of_mem_warnings hr]
    exact decide_eq_true (Nat.le_refl _)
  have hreports :
      (g.reports es).filter (fun r => Level.warning.number ≤ r.level.number) = [] := by
    rw [List.filter_eq_nil_iff]
    intro r hr
    have hlt := Graph.level_lt_of_mem_reports hr
    exact fun hle => Nat.not_le_of_lt hlt (of_decide_eq_true hle)
  rw [List.filter_append, hwarnings, hreports, List.append_nil]

namespace Console

open ConsoleStep

/-- In any run at the console, a step `x` of the session has the result that it has in the run of
the session alone, and also in the run at the console from which all configurations are deleted.
What is written during `x` depends on the root that the configurations before it have left, failed
ones included, and on the records that `x` emits in the run of the session alone. These are the
records of its graph, behind the warnings about statements of its assignment file that cannot be
read. If a handler is installed, the lines of those records are written whose severity reaches the
level of the root, in the order in which they are emitted. Otherwise the bare messages of the
warnings are written, and nothing else. -/
theorem written_run (time : String) (before after : List ConsoleStep) (x : Step) :
    let steps := before ++ .act x :: after
    let root := Root.start.configureAll (levels before)
    ∃ shown plain,
      (start.run time steps).2[before.length]? = some shown ∧
        (Session.start.run (acts steps)).2[(acts before).length]? = some plain ∧
        shown.result = plain.result ∧
        (start.run time ((acts steps).map .act)).2[(acts before).length]?.map
          ConsoleOutcome.result = some shown.result ∧
        shown.root = root ∧
        plain.log = x.action.warnings ++ plain.graphLog ∧
        shown.written =
          if root.handlers = 0 then String.join (x.action.warnings.map Record.bareLine)
          else String.join
            ((plain.log.filter fun r => root.level ≤ r.level.number).map (Record.line time)) := by
  intro steps root
  have hacts : acts steps = acts before ++ x :: acts after := acts_append_act before after x
  have hsession : (start.run time before).1.session = (Session.start.run (acts before)).1 :=
    start.session_run time before
  have hroot : (start.run time before).1.root = root := start.root_run time before
  set s := (Session.start.run (acts before)).1
  refine ⟨_, _, start.getElem?_run time before after (.act x),
    hacts ▸ Session.start.getElem?_run (acts before) (acts after) x, ?_, ?_, hroot,
    s.log_step x, ?_⟩
  · -- The result depends on the session only, and `x` finds the same one in both runs.
    exact congrArg (fun s => (Session.step s x).2.result) hsession
  · -- Without the configurations, the steps before `x` are steps of the session only.
    have hplain := start.getElem?_result_run time ((acts before).map .act) ((acts after).map .act) x
    rw [acts_map_act, List.length_map] at hplain
    rw [hacts, List.map_append, List.map_cons, hplain]
    exact congrArg (fun s => some (Session.step s x).2.result) hsession.symm
  · have hwritten : ((start.run time before).1.step time (.act x)).2.written =
        root.output time (s.step x).2.log := by
      rw [← hroot, ← hsession]
      rfl
    rw [hwritten]
    split
    · next hnone =>
      have hlevel : root.level = Level.warning.number :=
        (Root.follows_configureAll (levels before)).level_eq hnone
      rw [Root.output_of_no_handlers hnone hlevel, s.log_step x, Session.graphLog_step,
        Action.filter_warning_log]
    · next hsome => exact Root.output_of_handlers hsome time _

/-- Not all that is written are records of a graph. When settings are read from an assignment file
that begins with an equals sign, the graph has no record, but the warning about the statement is
written: as a line if there is a handler for it, and as a bare message if there is none. -/
theorem written_unlogged :
    let x : Step := ⟨"g", .configure ⟨[], [], some "=x"⟩⟩
    let ready := (start.step "now" (.configure (.string "INFO"))).1
    let message := "python-dotenv could not parse statement starting at line 1\n"
    (Session.start.step x).2.graphLog = [] ∧
      ready.root.handlers = 1 ∧
      (ready.step "now" (.act x)).2.written = "now - dotenv.main - WARNING - " ++ message ∧
      start.root.handlers = 0 ∧ (start.step "now" (.act x)).2.written = message := by
  decide +kernel

/-- What a quiet graph has to say of a known edge does not pass, but the addition before it does. -/
example :
    let read : Edge := ⟨.fieldRead, "app.Main", "run", "lib.Store", "value"⟩
    let steps : List ConsoleStep := [.act ⟨"g", .create (some (.bool false))⟩,
      .configure (.string "INFO"), .act ⟨"g", .record (.ofEdge read)⟩,
      .act ⟨"g", .record (.ofEdge read)⟩]
    (start.run "now" steps).2.map ConsoleOutcome.written =
      ["", "", "now - static_usage.graph.storage - INFO - " ++
        "Adding new static field read: app.Main.run -> lib.Store.value\n", ""] := by
  decide

end Console

end StaticAccess
