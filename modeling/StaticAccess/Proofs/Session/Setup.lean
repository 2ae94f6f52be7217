import StaticAccess.Proofs.Log.Configuration
import StaticAccess.Proofs.Session.Console
import StaticAccess.Proofs.Session.Persistence

/-!
# Logging set up by settings

Settings hold a level of log records and a way for graphs to announce additions. Logging is set up
by the name of that level, which every root accepts. From then on, the additions to the graphs that
the same settings create are written as the settings say.

## Main definitions

- `Settings.root`: the root that settings set up.
- `Settings.written`: what is written of an addition.

## Main results

- `Root.configure_level`: the name of a level configures any root.
- `Settings.output_reports`: what is written of additions in a row.
- `Settings.written_eq_announcement_iff`, `Settings.written_eq_duplicateNote_iff`: when the line of
  a new edge is written, and the one of a known edge.
- `Console.written_additions`, `Console.written_add`: what is written when an action adds edges.
- `Console.setup_run`: settings, root and graphs together.
-/

namespace StaticAccess

namespace Level

/-- The names of all levels stand for thresholds, each for the number of its level. -/
theorem mem_names (l : Level) : (l.name, l.number) ∈ Threshold.names := by
  cases l <;> decide

theorem number_le_info_iff (l : Level) : l.number ≤ info.number ↔ l = .debug ∨ l = .info := by
  cases l <;> decide

theorem number_le_debug_iff (l : Level) : l.number ≤ debug.number ↔ l = .debug := by
  cases l <;> decide

end Level

namespace Root

/-- The name of a level configures any root: without a handler it installs one and sets the
threshold, and otherwise it does nothing. -/
theorem configure_level (root : Root) (l : Level) :
    root.configure (.string l.name) =
      (if root.handlers = 0 then ⟨l.number, 1⟩ else root, .ok ()) := by
  by_cases hroot : root.handlers = 0
  · rw [if_pos hroot]
    exact configure_name hroot l.mem_names
  · rw [if_neg hroot, configure, Threshold.ofValue_name l.mem_names]
    exact if_pos hroot

theorem output_cons (root : Root) (time : String) (r : Record) (records : List Record) :
    root.output time (r :: records) =
      (if root.passes r then root.text time r else "") ++ root.output time records := by
  rw [output, List.filter_cons]
  split
  · rw [List.map_cons, String.join_cons]
    rfl
  · exact String.empty_append.symm

end Root

namespace Record

theorem line_ne_empty (time : String) (r : Record) : r.line time ≠ "" := by
  intro h
  have hchars := congrArg String.toList h
  simp [line] at hchars

/-- The lines of records of the same time and logger tell an announcement from a note. -/
theorem line_announcement_ne (time : String) (e f : Edge) :
    (Graph.announcement e).line time ≠ (Graph.duplicateNote f).line time := by
  intro h
  -- The lines differ at the first letter of the names of the levels.
  simp only [line, Graph.announcement, Graph.duplicateNote, String.append_assoc,
    String.append_right_inj] at h
  have hchars := congrArg String.toList h
  simp [Level.name] at hchars

end Record

namespace Settings

variable (s : Settings) (time : String)

/-- The root that is set up by the level of some settings. -/
def root : Root := ⟨s.logLevel.number, 1⟩

/-- What is written of the addition of an edge, new or known, to a graph that some settings have
created, once logging is set up by the same settings. -/
def written (e : Edge) (new : Bool) : String :=
  if new = true ∨ s.announceDuplicates = true then
    if s.logLevel = .debug ∨ s.logLevel = .info then (Graph.announcement e).line time else ""
  else if s.logLevel = .debug then (Graph.duplicateNote e).line time else ""

/-- A new edge is announced at the levels `debug` and `info`. -/
theorem written_eq_announcement_iff (e : Edge) :
    s.written time e true = (Graph.announcement e).line time ↔
      s.logLevel = .debug ∨ s.logLevel = .info := by
  rw [written, if_pos (.inl rfl)]
  split
  · next hlevel => simp [hlevel]
  · next hlevel => simp [hlevel, (Record.line_ne_empty time _).symm]

/-- A known edge is noted as a duplicate at the level `debug`, if duplicates are not announced. -/
theorem written_eq_duplicateNote_iff (e : Edge) :
    s.written time e false = (Graph.duplicateNote e).line time ↔
      s.logLevel = .debug ∧ s.announceDuplicates = false := by
  have hempty : "" ≠ (Graph.duplicateNote e).line time := (Record.line_ne_empty time _).symm
  rw [written]
  cases s.announceDuplicates with
  | true =>
    rw [if_pos (.inr rfl)]
    split
    · simp [Record.line_announcement_ne]
    · simp [hempty]
  | false =>
    rw [if_neg (by simp)]
    split
    · next hlevel => simp [hlevel]
    · next hlevel => simp [hlevel, hempty]

variable {s time} {g : Graph}

/-- What is written of one addition. -/
theorem line_report (hannounce : g.announce = s.announceDuplicates) (e : Edge) :
    (if s.root.passes (g.report e) then s.root.text time (g.report e) else "") =
      s.written time e (!g.contains e) := by
  -- A record passes if the number of its level is not below the threshold.
  have hannouncement : s.root.passes (Graph.announcement e) = decide
      (s.logLevel = .debug ∨ s.logLevel = .info) :=
    (Bool.and_true _).trans (decide_eq_decide.2 s.logLevel.number_le_info_iff)
  have hnote : s.root.passes (Graph.duplicateNote e) = decide (s.logLevel = .debug) :=
    (Bool.and_true _).trans (decide_eq_decide.2 s.logLevel.number_le_debug_iff)
  have htext (r : Record) : s.root.text time r = r.line time := if_neg Nat.one_ne_zero
  rw [htext, Graph.report_eq, hannounce, written]
  cases s.announceDuplicates <;> cases g.contains e <;> simp [hannouncement, hnote]

/-- What is written of additions in a row. -/
theorem output_reports (hannounce : g.announce = s.announceDuplicates) (es : List Edge) :
    s.root.output time (g.reports es) =
      String.join (List.zipWith (s.written time) es (g.news es)) := by
  -- The graph is general, as the additions after the first one go to a larger graph.
  induction es generalizing g with
  | nil => rfl
  | cons e es ih =>
    have hrest := ih ((g.announce_insert e).trans hannounce)
    rw [Graph.reports, Root.output_cons, line_report hannounce, hrest, Graph.news,
      List.zipWith_cons_cons, String.join_cons]

end Settings

/-- An action that adds to its graph reads no assignment file. -/
theorem Action.warnings_of_isAddition {action : Action} (h : action.IsAddition) :
    action.warnings = [] := by
  cases action with
  | configure sources => exact h.elim
  | _ => rfl

/-- Settings that can be read create the graph with which a session goes on. -/
theorem Session.graph_step_configure {sources : Sources} {settings : Settings}
    (hload : Settings.load sources = .ok settings) (s : Session) (name : String) :
    (s.step ⟨name, .configure sources⟩).1.graph name = settings.createGraph := by
  rw [graph_step, if_pos rfl, Action.created, hload]
  rfl

namespace Console

/-- What is written during a step of the session are the lines of its warnings and of the reports of
its additions, as far as they pass. -/
theorem written_step (c : Console) (time : String) (x : Step) :
    (c.step time (.act x)).2.written =
      c.root.output time (x.action.warnings ++
        (c.session.graph x.target).reports (x.action.additions c.session.listing)) :=
  congrArg (c.root.output time) (c.session.log_perform x.target x.action)

section SetUp

variable {c : Console} {settings : Settings} {name : String}

/-- What is written of the additions of an action, where logging and the graph have been set up by
the same settings. -/
theorem written_additions (hroot : c.root = settings.root)
    (hannounce : (c.session.graph name).announce = settings.announceDuplicates) {action : Action}
    (haction : action.IsAddition) (time : String) :
    let es := action.additions c.session.listing
    (c.step time (.act ⟨name, action⟩)).2.written =
      String.join (List.zipWith (settings.written time) es ((c.session.graph name).news es)) := by
  intro es
  rw [written_step, Action.warnings_of_isAddition haction, List.nil_append, hroot]
  exact Settings.output_reports hannounce es

/-- What is written when one edge is added. -/
theorem written_add (hroot : c.root = settings.root)
    (hannounce : (c.session.graph name).announce = settings.announceDuplicates) (e : Edge)
    (time : String) :
    (c.step time (.act ⟨name, .add (.edge (.ofEdge e))⟩)).2.written =
      settings.written time e (!(c.session.graph name).contains e) := by
  have haction : (Action.add (.edge (.ofEdge e))).IsAddition := trivial
  -- One edge is added, and it is new unless the graph contains it.
  rw [written_additions hroot hannounce haction, Action.additions, Draft.edge_ofEdge]
  show String.join [settings.written time e (!(c.session.graph name).contains e)] = _
  rw [String.join_cons, String.join_nil, String.append_empty]

/-- The root that settings have set up stays through any run. -/
theorem root_run_of_setUp (hroot : c.root = settings.root) (time : String)
    (steps : List ConsoleStep) : (c.run time steps).1.root = settings.root := by
  have hhandlers : c.root.handlers ≠ 0 := by
    rw [hroot]
    exact Nat.one_ne_zero
  exact (root_run_of_handlers hhandlers steps).trans hroot

end SetUp

/-- Let settings be read from any sources. At any console, logging can be set up by their level. If
there was a handler, nothing happens; if there was none, there is one now, and the threshold is the
number of the level. In this case, let any steps follow at the console, and take a graph that the
settings have created and to which the edges `added` were added. From whatever is added to the graph
next, the lines are written that the settings call for, edge by edge. So the announcement of a new
edge is written if and only if the level is `debug` or `info`, and the note about a known one if and
only if the level is `debug` and duplicates are not announced. -/
theorem setup_run {sources : Sources} {settings : Settings}
    (hload : Settings.load sources = .ok settings) (c : Console) (time : String) :
    let setup := ConsoleStep.configure (.string settings.logLevel.name)
    let ready := (c.step time setup).1
    (c.step time setup).2.result = .ok .none ∧
      (c.root.handlers ≠ 0 → ready.root = c.root) ∧
      (c.root.handlers = 0 → ready.root = ⟨settings.logLevel.number, 1⟩) ∧
      (∀ (s : Session) (name : String),
        (s.step ⟨name, .configure sources⟩).1.graph name = settings.createGraph) ∧
      (c.root.handlers = 0 → ∀ (steps : List ConsoleStep) (name : String) (added : List Edge),
        let later := (ready.run time steps).1
        let g := settings.createGraph.insertAll added
        later.session.graph name = g →
          (∀ action : Action, action.IsAddition →
            let es := action.additions later.session.listing
            (later.step time (.act ⟨name, action⟩)).2.written =
              String.join (List.zipWith (settings.written time) es (g.news es))) ∧
          ∀ e : Edge,
            let written := (later.step time (.act ⟨name, .add (.edge (.ofEdge e))⟩)).2.written
            (e ∉ added → (written = (Graph.announcement e).line time ↔
              settings.logLevel = .debug ∨ settings.logLevel = .info)) ∧
            (e ∈ added → (written = (Graph.duplicateNote e).line time ↔
              settings.logLevel = .debug ∧ settings.announceDuplicates = false))) := by
  intro setup ready
  have hconfigured := c.root.configure_level settings.logLevel
  have hready : ready.root = if c.root.handlers = 0 then settings.root else c.root :=
    congrArg Prod.fst hconfigured
  refine ⟨congrArg (fun next => next.2.map fun _ => Answer.none) hconfigured,
    fun hroot => hready.trans (if_neg hroot), fun hroot => hready.trans (if_pos hroot),
    Session.graph_step_configure hload, ?_⟩
  intro hroot steps name added later g hgraph
  have hlater : later.root = settings.root :=
    root_run_of_setUp (hready.trans (if_pos hroot)) time steps
  have hannounce : (later.session.graph name).announce = settings.announceDuplicates := by
    rw [hgraph]
    exact Graph.announce_insertAll_empty _ added
  refine ⟨fun action haction => ?_, fun e => ?_⟩
  · rw [← hgraph]
    exact written_additions hlater hannounce haction time
  have hcontains : (later.session.graph name).contains e = decide (e ∈ added) := by
    rw [hgraph]
    exact Graph.contains_insertAll_empty _ added e
  rw [written_add hlater hannounce, hcontains]
  refine ⟨fun hnew => ?_, fun hknown => ?_⟩
  · rw [decide_eq_false hnew]
    exact settings.written_eq_announcement_iff time e
  · rw [decide_eq_true hknown]
    exact settings.written_eq_duplicateNote_iff time e

/-- A level in lower case with blanks around it, and a flag from the environment. After logging is
set up, a new edge is announced and a known one is noted, also after another level has been asked
for. -/
theorem setup_run_debug :
    let sources : Sources := ⟨[("Log_Level", .string " debug ")],
      [("static_usage_announce_duplicates", "no")], none⟩
    let read : Edge := ⟨.fieldRead, "app.Main", "run", "lib.Store", "value"⟩
    let steps : List ConsoleStep := [.act ⟨"g", .configure sources⟩,
      .act ⟨"g", .record (.ofEdge read)⟩, .configure (.string "ERROR")]
    let ready := (start.step "now" (.configure (.string "DEBUG"))).1
    let later := (ready.run "now" steps).1
    Settings.load sources = .ok ⟨.debug, false⟩ ∧ ready.root = ⟨10, 1⟩ ∧
      (later.step "now" (.act ⟨"g", .add (.edge (.ofEdge read.swap))⟩)).2.written =
        (Graph.announcement read.swap).line "now" ∧
      (later.step "now" (.act ⟨"g", .add (.edge (.ofEdge read))⟩)).2.written =
        (Graph.duplicateNote read).line "now" := by
  intro sources read steps ready later
  have hload : Settings.load sources = .ok ⟨.debug, false⟩ := by decide +kernel
  -- Said of any sources, so that these here need not be read once more.
  have hgraph {sources : Sources} {settings : Settings}
      (h : Settings.load sources = .ok settings) :
      (ready.run "now" [.act ⟨"g", .configure sources⟩, .act ⟨"g", .record (.ofEdge read)⟩,
        .configure (.string "ERROR")]).1.session.graph "g" =
        settings.createGraph.insertAll [read] := by
    show ((ready.session.step ⟨"g", .configure sources⟩).1.step
      ⟨"g", .record (.ofEdge read)⟩).1.graph "g" = _
    rw [Session.graph_step_record, Session.graph_step_configure h]
    rfl
  obtain ⟨-, -, hready, -, hlater⟩ := setup_run hload start "now"
  obtain ⟨-, hwritten⟩ := hlater rfl steps "g" [read] (hgraph hload)
  refine ⟨hload, hready rfl, ?_, ?_⟩
  · exact ((hwritten read.swap).1 (by decide)).2 (.inl rfl)
  · exact ((hwritten read).2 (by decide)).2 ⟨rfl, rfl⟩

end Console

end StaticAccess
