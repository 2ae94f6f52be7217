import StaticAccess.Proofs.Session.Consistency
import StaticAccess.Proofs.Session.Console

/-!
# Names in use

Graphs and snapshots are in use under the names under which earlier steps have begun graphs and kept
snapshots. A run goes through if and only if each of its steps looks up no other names. It then
shows what every step does, and never anything that is given for a name out of use.

## Main definitions

- `Session.createdNames`, `Session.keptNames`: the names that some steps put in use.
- `Step.FollowsOn`, `Session.FollowOn`: steps look up no names but those.
- `Session.InUse`: the names in use are those that some steps have put in use.

## Main results

- `Session.step_congr`: a step depends on nothing but the names that it looks up.
- `Session.InUse.step`: which names are in use after a step.
- `Session.InUse.get?_graphs`, `Session.InUse.get?_snapshots`: what is under a name in use is kept.
- `Session.checkedRun_start`: which runs go through, and with which name the others stop.
- `Console.session_checkedRun`: runs at a console go through as those of their sessions do.
-/

namespace StaticAccess

/-! ## Names -/

namespace Session

/-- The names under which graphs are in use after some steps. One of them is in use at the start. -/
def createdNames (steps : List Step) : List String :=
  mainName :: (steps.filter fun x => x.action.created.isSome).map Step.target

/-- The names under which snapshots are in use after some steps. -/
def keptNames (steps : List Step) : List String := steps.filterMap fun x => x.action.keptName

end Session

/-- A step looks up no names but those that some earlier steps have put in use. -/
structure Step.FollowsOn (x : Step) (earlier : List Step) : Prop where
  /-- The graphs that it looks up were begun. -/
  graphs : ∀ name ∈ x.action.graphs x.target, name ∈ Session.createdNames earlier
  /-- The snapshots that it looks up were kept. -/
  snapshots : ∀ name ∈ x.action.snapshots, name ∈ Session.keptNames earlier

namespace Session

/-- Each of some steps follows on those before it. -/
def FollowOn (earlier : List Step) : List Step → Prop
  | [] => True
  | x :: steps => x.FollowsOn earlier ∧ FollowOn (earlier ++ [x]) steps

theorem FollowOn.followsOn {earlier before after : List Step} {x : Step}
    (h : FollowOn earlier (before ++ x :: after)) : x.FollowsOn (earlier ++ before) := by
  -- One by one, the steps before `x` join the earlier ones.
  induction before generalizing earlier with
  | nil =>
    rw [List.append_nil]
    exact h.1
  | cons y before ih =>
    have hx := ih h.2
    rwa [List.append_assoc] at hx

theorem mem_createdNames_append (earlier : List Step) (x : Step) (name : String) :
    name ∈ createdNames (earlier ++ [x]) ↔
      name ∈ createdNames earlier ∨ x.action.created.isSome = true ∧ name = x.target := by
  simp only [createdNames, List.filter_append, List.map_append, ← List.cons_append,
    List.mem_append]
  rw [List.filter_singleton]
  cases x.action.created.isSome <;> simp

theorem mem_keptNames_append (earlier : List Step) (x : Step) (name : String) :
    name ∈ keptNames (earlier ++ [x]) ↔
      name ∈ keptNames earlier ∨ x.action.keptName = some name := by
  simp only [keptNames, List.filterMap_append, List.mem_append, List.mem_filterMap,
    List.mem_singleton, exists_eq_left]

/-! ## What a step depends on -/

/-- A step depends on the graphs and the snapshots that it looks up, and on no others. -/
theorem step_congr {s t : Session} {x : Step}
    (hgraphs : ∀ name ∈ x.action.graphs x.target, s.graph name = t.graph name)
    (hsnapshots : ∀ name ∈ x.action.snapshots, s.snapshot name = t.snapshot name) :
    (s.step x).2.result = (t.step x).2.result ∧ (s.step x).2.log = (t.step x).2.log := by
  obtain ⟨target, action⟩ := x
  -- An operand is looked up by its name, if it is a graph at all.
  have hoperand (argument : Argument)
      (hnames : ∀ name ∈ argument.graphs, s.graph name = t.graph name) :
      s.operand argument = t.operand argument := by
    cases argument with
    | graph name => rw [operand, operand, hnames name (List.mem_singleton_self name)]
    | _ => rfl
  show (s.perform target action).result = (t.perform target action).result ∧
    (s.perform target action).log = (t.perform target action).log
  cases action with
  | create announce => exact ⟨rfl, rfl⟩
  | configure sources =>
    rw [perform, perform]
    cases Settings.load sources <;> exact ⟨rfl, rfl⟩
  | record d =>
    have htarget : s.graph target = t.graph target := hgraphs target (List.mem_singleton_self _)
    rw [perform, perform, htarget]
    cases d.edge <;> exact ⟨rfl, rfl⟩
  | add argument =>
    obtain ⟨htarget, hnames⟩ := List.forall_mem_cons.1 hgraphs
    rw [perform, perform, htarget, hoperand argument hnames]
    cases t.operand argument <;> exact ⟨rfl, rfl⟩
  | update argument =>
    obtain ⟨htarget, hnames⟩ := List.forall_mem_cons.1 hgraphs
    rw [perform, perform, htarget, hoperand argument hnames]
    cases t.operand argument <;> exact ⟨rfl, rfl⟩
  | contains argument =>
    obtain ⟨htarget, hnames⟩ := List.forall_mem_cons.1 hgraphs
    rw [perform, perform, htarget, hoperand argument hnames]
    exact ⟨rfl, rfl⟩
  | equals argument =>
    obtain ⟨htarget, hnames⟩ := List.forall_mem_cons.1 hgraphs
    rw [perform, perform, htarget, hoperand argument hnames]
    exact ⟨rfl, rfl⟩
  | sameHash other =>
    obtain ⟨htarget, hother⟩ := List.forall_mem_cons.1 hgraphs
    rw [perform, perform, htarget, hother other (List.mem_singleton_self _)]
    exact ⟨rfl, rfl⟩
  | showSnapshot name =>
    rw [perform, perform, hsnapshots name (List.mem_singleton_self _)]
    exact ⟨rfl, rfl⟩
  | changeSnapshot name change =>
    rw [perform, perform, hsnapshots name (List.mem_singleton_self _)]
    exact ⟨rfl, rfl⟩
  | _ =>
    -- All other actions look up their own graph only.
    have htarget : s.graph target = t.graph target := hgraphs target (List.mem_singleton_self _)
    simp only [perform, asked, htarget, and_self]

/-! ## Names in use -/

/-- The names in use are those that some steps have put in use. -/
structure InUse (s : Session) (earlier : List Step) : Prop where
  /-- The graphs in use are those that were begun. -/
  graphs : ∀ name, s.graphs.contains name = true ↔ name ∈ createdNames earlier
  /-- The snapshots in use are those that were kept. -/
  snapshots : ∀ name, s.snapshots.contains name = true ↔ name ∈ keptNames earlier

/-- An action that finds the graphs that it looks up puts no graph in use but the one that it begins
anew. -/
theorem contains_graphs_perform {s : Session} {target : String} {action : Action}
    (h : ∀ name ∈ action.graphs target, s.graphs.contains name = true) (name : String) :
    (s.perform target action).session.graphs.contains name = true ↔
      s.graphs.contains name = true ∨ action.created.isSome = true ∧ name = target := by
  -- A graph that is in use is only put back, changed or not.
  have hback (htarget : s.graphs.contains target = true) (g : Graph) :
      (s.setGraph target g).graphs.contains name = true ↔
        s.graphs.contains name = true ∨ (none : Option Graph).isSome = true ∧ name = target := by
    refine (OrderedMap.contains_set s.graphs target name g).trans ?_
    simp only [Option.isSome_none, Bool.false_eq_true, false_and, or_false, or_iff_left_iff_imp]
    rintro rfl
    exact htarget
  have hsame : s.graphs.contains name = true ↔
      s.graphs.contains name = true ∨ (none : Option Graph).isSome = true ∧ name = target := by
    simp
  have hbegun (g : Graph) : (s.setGraph target g).graphs.contains name = true ↔
      s.graphs.contains name = true ∨ (some g).isSome = true ∧ name = target := by
    refine (OrderedMap.contains_set s.graphs target name g).trans ?_
    simp
  cases action with
  | create announce => exact hbegun _
  | configure sources =>
    rw [perform, Action.created]
    cases Settings.load sources with
    | error e => exact hsame
    | ok settings => exact hbegun _
  | record d =>
    rw [perform]
    cases d.edge with
    | error e => exact hsame
    | ok e => exact hback (h target (List.mem_singleton_self _)) _
  | add argument =>
    rw [perform]
    cases s.operand argument with
    | error e => exact hsame
    | ok operand => exact hback (List.forall_mem_cons.1 h).1 _
  | update argument =>
    rw [perform]
    cases s.operand argument with
    | error e => exact hsame
    | ok operand => exact hback (List.forall_mem_cons.1 h).1 _
  -- All other actions only ask, or concern snapshots.
  | _ => exact hsame

/-- An action that finds the snapshots that it looks up puts no snapshot in use but the one that it
keeps. -/
theorem contains_snapshots_perform {s : Session} {target : String} {action : Action}
    (h : ∀ name ∈ action.snapshots, s.snapshots.contains name = true) (name : String) :
    (s.perform target action).session.snapshots.contains name = true ↔
      s.snapshots.contains name = true ∨ action.keptName = some name := by
  have hsame : s.snapshots.contains name = true ↔
      s.snapshots.contains name = true ∨ none = some name := by
    simp
  cases action with
  | snapshot kept =>
    refine (OrderedMap.contains_set s.snapshots kept name _).trans ?_
    rw [Action.keptName, Option.some.injEq, @eq_comm _ name]
  | changeSnapshot kept change =>
    -- A snapshot that is in use is put back.
    refine ((OrderedMap.contains_set s.snapshots kept name _).trans ?_).trans hsame
    rw [or_iff_left_iff_imp]
    rintro rfl
    exact h _ (List.mem_singleton_self _)
  | configure sources =>
    rw [perform]
    cases Settings.load sources <;> exact hsame
  | record d =>
    rw [perform]
    cases d.edge <;> exact hsame
  | add argument =>
    rw [perform]
    cases s.operand argument <;> exact hsame
  | update argument =>
    rw [perform]
    cases s.operand argument <;> exact hsame
  | _ => exact hsame

namespace InUse

variable {s : Session} {earlier : List Step} {x : Step}

theorem start : start.InUse [] where
  graphs name := by
    rw [Session.start, OrderedMap.contains, OrderedMap.get?_set]
    split <;> simp_all [createdNames]
  snapshots name := by simp [Session.start, OrderedMap.contains, keptNames]

/-- Which names are in use after a step that has found the names that it looks up. -/
theorem step (h : s.InUse earlier) (hx : x.FollowsOn earlier) :
    (s.step x).1.InUse (earlier ++ [x]) where
  graphs name := by
    have hfound : ∀ name ∈ x.action.graphs x.target, s.graphs.contains name = true :=
      fun name hname => (h.graphs name).2 (hx.graphs name hname)
    rw [mem_createdNames_append, ← h.graphs]
    exact contains_graphs_perform hfound name
  snapshots name := by
    have hfound : ∀ name ∈ x.action.snapshots, s.snapshots.contains name = true :=
      fun name hname => (h.snapshots name).2 (hx.snapshots name hname)
    rw [mem_keptNames_append, ← h.snapshots]
    exact contains_snapshots_perform hfound name

/-- No graph is made up for a name under which one was begun. -/
theorem get?_graphs (h : s.InUse earlier) {name : String} (hname : name ∈ createdNames earlier) :
    s.graphs.get? name = some (s.graph name) := by
  obtain ⟨g, hg⟩ := Option.isSome_iff_exists.1 ((h.graphs name).2 hname)
  rw [graph, hg]
  rfl

/-- No snapshot is made up for a name under which one was kept. -/
theorem get?_snapshots (h : s.InUse earlier) {name : String} (hname : name ∈ keptNames earlier) :
    s.snapshots.get? name = some (s.snapshot name) := by
  obtain ⟨x, hx⟩ := Option.isSome_iff_exists.1 ((h.snapshots name).2 hname)
  rw [snapshot, hx]
  rfl

/-- A step finds the names that it looks up if it follows on the steps before it. -/
theorem unknownName?_eq_none_iff (h : s.InUse earlier) :
    s.unknownName? x = none ↔ x.FollowsOn earlier := by
  rw [unknownName?, Option.or_eq_none_iff, List.find?_eq_none, List.find?_eq_none]
  simp only [Bool.not_eq_true', Bool.not_eq_false, h.graphs, h.snapshots]
  exact ⟨fun hx => ⟨hx.1, hx.2⟩, fun hx => ⟨hx.graphs, hx.snapshots⟩⟩

/-- The name with which a run stops is looked up, but was not put in use. -/
theorem of_unknownName? (h : s.InUse earlier) {name : String} (hx : s.unknownName? x = some name) :
    name ∈ x.action.graphs x.target ∧ name ∉ createdNames earlier ∨
      name ∈ x.action.snapshots ∧ name ∉ keptNames earlier := by
  rw [unknownName?, Option.or_eq_some_iff] at hx
  obtain hgraph | ⟨-, hsnapshot⟩ := hx
  · refine .inl ⟨List.mem_of_find?_eq_some hgraph, ?_⟩
    rw [← h.graphs]
    simpa using List.find?_some hgraph
  · refine .inr ⟨List.mem_of_find?_eq_some hsnapshot, ?_⟩
    rw [← h.snapshots]
    simpa using List.find?_some hsnapshot

/-- A run goes through if its steps follow on those before them, and otherwise it stops with a name
that was not put in use. -/
theorem checkedRun_cases (h : s.InUse earlier) (steps : List Step) :
    FollowOn earlier steps ∧ s.checkedRun steps = .ok (s.run steps) ∨
      ∃ before x after name, steps = before ++ x :: after ∧ FollowOn earlier before ∧
        (name ∈ x.action.graphs x.target ∧ name ∉ createdNames (earlier ++ before) ∨
          name ∈ x.action.snapshots ∧ name ∉ keptNames (earlier ++ before)) ∧
        s.checkedRun steps = .error (.unknownName name) := by
  -- The invariant is that the names in use are those of the steps so far.
  induction steps generalizing s earlier with
  | nil => exact .inl ⟨trivial, rfl⟩
  | cons x steps ih =>
    rw [checkedRun]
    cases hx : s.unknownName? x with
    | some name =>
      -- The run stops here.
      refine .inr ⟨[], x, steps, name, rfl, trivial, ?_, rfl⟩
      rw [List.append_nil]
      exact h.of_unknownName? hx
    | none =>
      -- The run goes on, and the step is one more before the others.
      have hfollows := h.unknownName?_eq_none_iff.1 hx
      obtain ⟨hrest, hrun⟩ | ⟨before, y, after, name, rfl, hbefore, hname, hrun⟩ :=
        ih (h.step hfollows)
      · refine .inl ⟨⟨hfollows, hrest⟩, ?_⟩
        show ((s.step x).1.checkedRun steps).map _ = _
        rw [hrun]
        rfl
      · refine .inr ⟨x :: before, y, after, name, rfl, ⟨hfollows, hbefore⟩, ?_, ?_⟩
        · rwa [List.append_assoc] at hname
        · show ((s.step x).1.checkedRun _).map _ = _
          rw [hrun]
          rfl

end InUse

/-- A run goes through if and only if each step looks up no names but those under which steps before
it have begun graphs or kept snapshots. It is then the run of these steps. Any other run stops at
the first step that looks up another name, with this name. -/
theorem checkedRun_start (steps : List Step) :
    (FollowOn [] steps → start.checkedRun steps = .ok (start.run steps)) ∧
      (¬ FollowOn [] steps → ∃ before x after name, steps = before ++ x :: after ∧
        FollowOn [] before ∧
        (name ∈ x.action.graphs x.target ∧ name ∉ createdNames before ∨
          name ∈ x.action.snapshots ∧ name ∉ keptNames before) ∧
        start.checkedRun steps = .error (.unknownName name)) := by
  obtain ⟨hfollow, hrun⟩ | hstop := InUse.start.checkedRun_cases steps
  · exact ⟨fun _ => hrun, fun hnot => absurd hfollow hnot⟩
  · refine ⟨fun hfollow => ?_, fun _ => hstop⟩
    obtain ⟨before, x, after, name, rfl, -, hname, -⟩ := hstop
    have hx : x.FollowsOn before := hfollow.followsOn
    obtain ⟨hgraph, hnone⟩ | ⟨hsnapshot, hnone⟩ := hname
    · exact absurd (hx.graphs name hgraph) hnone
    · exact absurd (hx.snapshots name hsnapshot) hnone

/-- A graph has to be begun before it is added to. -/
example :
    let call : Edge := ⟨.methodCall, "app/Main", "run", "lib/Store", "load"⟩
    start.checkedRun [⟨"g", .edges⟩, ⟨"h", .add (.edge (.ofEdge call))⟩] =
      .error (.unknownName "h") := rfl

end Session

namespace Console

/-- A run at a console goes through if and only if that of its session does, and then both leave the
same session. -/
theorem session_checkedRun (time : String) (steps : List ConsoleStep) :
    (start.checkedRun time steps).map (fun r => r.1.session) =
      (Session.start.checkedRun (ConsoleStep.acts steps)).map Prod.fst := by
  -- A configuration looks up no name, so that the console stops where its session does.
  have hcases := Session.InUse.start.checkedRun_cases (ConsoleStep.acts steps)
  have hsession : (start.run time steps).1.session =
      (Session.start.run (ConsoleStep.acts steps)).1 := start.session_run time steps
  show Except.map _ (Except.map _ (Session.start.checkedRun (ConsoleStep.acts steps))) = _
  obtain ⟨-, hrun⟩ | ⟨-, -, -, name, -, -, -, hrun⟩ := hcases
  · rw [hrun]
    exact congrArg Except.ok hsession
  · rw [hrun]
    rfl

end Console

end StaticAccess
