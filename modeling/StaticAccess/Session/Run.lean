import StaticAccess.Session.Basic

/-!
# Runs of sessions

What a step does is defined for all names. A run of steps goes through only if each name is in use
by the time at which a step looks it up.

## Main definitions

- `Session.perform`: what an action leaves and returns.
- `Session.step`, `Session.run`: steps in a row, each with what is shown of it.
- `Session.checkedRun`: a run that stops at a name that is not in use.
-/

namespace StaticAccess

namespace Session

/-- A step that only asks: it leaves the session as it is and emits nothing. -/
def asked (s : Session) (result : Except Error Answer) : Effect := ⟨s, [], result⟩

/-- A step that puts a graph under a name and emits nothing. -/
def replaced (s : Session) (target : String) (g : Graph) : Effect :=
  ⟨s.setGraph target g, [], .ok .none⟩

/-- A step that adds to the graph under a name. -/
def grown {α : Type} (s : Session) (target : String) (a : Addition α) (answer : α → Answer) :
    Effect :=
  ⟨s.setGraph target a.graph, a.log, a.result.map answer⟩

/-- What an action on the graph under a name leaves and returns. -/
def perform (s : Session) (target : String) : Action → Effect
  | .create announce =>
    s.replaced target (.empty ((announce.map Value.truthy).getD true))
  | .configure sources =>
    match Settings.load sources with
    | .error e => ⟨s, sources.warnings, .error e⟩
    | .ok settings => ⟨s.setGraph target settings.createGraph, sources.warnings, .ok .none⟩
  | .record d =>
    match d.edge with
    | .error e => s.asked (.error e)
    | .ok e => s.grown target ((s.graph target).add (.edge e)) fun _ => .none
  | .recorded d => s.asked (d.edge.map fun e => .flag ((s.graph target).contains e))
  | .add argument =>
    match s.operand argument with
    | .error e => s.asked (.error e)
    | .ok operand => s.grown target ((s.graph target).add operand.item) .flag
  | .contains argument =>
    s.asked ((s.operand argument).map fun operand => .flag ((s.graph target).has operand))
  | .update argument =>
    match s.operand argument with
    | .error e => s.asked (.error e)
    | .ok operand => s.grown target ((s.graph target).update operand) fun _ => .none
  | .edges => s.asked (.ok (.edges (s.graph target).toList))
  | .edgesOf kind => s.asked (.ok (.edges ((s.graph target).edgeSet kind).toList))
  | .sourceClasses => s.asked (.ok (.names (s.graph target).sourceClasses.toList))
  | .targetClasses => s.asked (.ok (.names (s.graph target).targetClasses.toList))
  | .staticMembers kind => s.asked (.ok (.ofTable ((s.graph target).staticMembers kind)))
  | .accessors kind className =>
    s.asked ((classNameOf className).map fun c =>
      .names ((s.graph target).accessors kind c).toList)
  | .dependencies className =>
    s.asked ((classNameOf className).map fun c => .names ((s.graph target).dependencies c).toList)
  | .statistics => s.asked (.ok (.statistics (s.graph target).statistics))
  | .equals argument =>
    s.asked ((s.operand argument).map fun operand => .flag ((s.graph target).equals operand))
  | .sameHash other =>
    s.asked (.ok (.flag
      ((s.graph target).hash .mixing = (s.graph other).hash .mixing)))
  | .describe => s.asked (.ok (.text (s.graph target).describe))
  | .snapshot name =>
    let x := (s.graph target).snapshot
    ⟨s.setSnapshot name x, [], .ok (.snapshot x)⟩
  | .showSnapshot name => s.asked (.ok (.snapshot (s.snapshot name)))
  | .changeSnapshot name change =>
    let (x, result) := (s.snapshot name).change change
    ⟨s.setSnapshot name x, [], result.map fun _ => .none⟩
  | .changeViews => s.asked (.ok .none)

/-- The graph whose size is shown after an action: the target, or the main graph if the action is
on a snapshot. -/
def measured (target : String) : Action → String
  | .showSnapshot _ => mainName
  | .changeSnapshot _ _ => mainName
  | _ => target

/-- The session after a step, and what is shown of the step. -/
def step (s : Session) (x : Step) : Session × Outcome :=
  let effect := s.perform x.target x.action
  (effect.session,
    ⟨effect.result, effect.log, (effect.session.graph (measured x.target x.action)).size⟩)

/-- The session after some steps, and what is shown of each. -/
def run (s : Session) : List Step → Session × List Outcome
  | [] => (s, [])
  | x :: steps =>
    let (s, outcome) := s.step x
    let (s, outcomes) := s.run steps
    (s, outcome :: outcomes)

/-- A name that a step looks up and that is not in use, if there is one. -/
def unknownName? (s : Session) (x : Step) : Option String :=
  ((x.action.graphs x.target).find? fun name => !s.graphs.contains name).or
    (x.action.snapshots.find? fun name => !s.snapshots.contains name)

/-- The session after some steps, and what is shown of each, unless one of them looks up a name that
is not in use. -/
def checkedRun (s : Session) : List Step → Except Error (Session × List Outcome)
  | [] => .ok (s, [])
  | x :: steps =>
    match s.unknownName? x with
    | some name => .error (.unknownName name)
    | none =>
      let (s, outcome) := s.step x
      (s.checkedRun steps).map fun (s, outcomes) => (s, outcome :: outcomes)

end Session

end StaticAccess
