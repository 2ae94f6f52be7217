import StaticAccess.Proofs.Graph.Arrangement
import StaticAccess.Session.Run

/-!
# Ledgers of sessions

A ledger keeps, for each graph of a session, the edges that were added to it since it was
created, duplicates included. It is computed from the steps alone: no graph is built, no edge is
looked up, and an edge that comes from another graph is taken from the arrangement of what the
ledger holds of that graph.

The graphs of a session follow the ledger: after any run each of them records the first
occurrences of what the ledger holds of it.

## Main definitions

- `Operand.added`, `Operand.verdict`: what an operand adds, and whether that is all it lists.
- `Action.created`: the graph with which an action begins anew.
- `Action.additions`: the edges that an action adds.
- `Ledger`, `Ledger.step`, `Ledger.run`: what was added to each graph.
- `Ledger.Keeps`: the graphs of a session record what a ledger holds.

## Main results

- `Graph.update_eq`: what an update leaves, announces and answers, for any operand.
- `Session.graph_perform`: what an action does to each graph.
- `Ledger.Keeps.step`, `Ledger.Keeps.run`: the graphs follow the ledger.
-/

namespace StaticAccess

/-- The edges up to the first item that is none. -/
def Item.leading : List Item → List Edge
  | .edge e :: items => e :: leading items
  | _ => []

/-- The edges that an operand adds to a graph. -/
def Operand.added (operand : Operand) : List Edge :=
  match operand.items with
  | .ok items => Item.leading items
  | .error _ => []

/-- Whether items can all be added, one after another. -/
def Item.verdict : List Item → Except Error Unit
  | [] => .ok ()
  | .edge _ :: items => verdict items
  | .foreign typeName :: _ => .error (.notEdge typeName)

/-- Whether all that an operand lists can be added. -/
def Operand.verdict (operand : Operand) : Except Error Unit := operand.items.bind Item.verdict

namespace Action

/-- The graph with which an action begins anew, if it does. -/
def created : Action → Option Graph
  | .create announce => some (.empty ((announce.map Value.truthy).getD true))
  | .configure sources =>
    match Settings.load sources with
    | .ok settings => some settings.createGraph
    | .error _ => none
  | _ => none

/-- The edges that an action adds, duplicates included, if each graph lists given edges. What
cannot be an edge adds nothing. -/
def additions (listing : String → List Edge) : Action → List Edge
  | .record d => d.edge.toOption.toList
  | .add (.edge d) => d.edge.toOption.toList
  | .update (.graph name) => listing name
  | .update (.edges ds) => (Draft.edges ds).toOption.getD []
  | _ => []

/-- A graph is begun anew directly, or with settings that can be read. -/
theorem created_cases {action : Action} (h : action.created.isSome = true) :
    (∃ announce, action = .create announce) ∨
      ∃ sources settings, action = .configure sources ∧ Settings.load sources = .ok settings := by
  cases action with
  | create announce => exact .inl ⟨announce, rfl⟩
  | configure sources =>
    rw [created] at h
    cases hload : Settings.load sources with
    | error e =>
      rw [hload] at h
      cases h
    | ok settings => exact .inr ⟨sources, settings, rfl, hload⟩
  | _ => cases h

/-- An action that begins a graph anew adds nothing to it. -/
theorem additions_of_created {action : Action} (h : action.created.isSome = true)
    (listing : String → List Edge) : action.additions listing = [] := by
  obtain ⟨announce, rfl⟩ | ⟨sources, settings, rfl, -⟩ := created_cases h <;> rfl

/-- A graph with which an action begins anew is empty. -/
theorem eq_empty_of_created {action : Action} {g : Graph} (h : action.created = some g) :
    ∃ announce, g = .empty announce := by
  cases action with
  | create announce => exact ⟨_, (Option.some.inj h).symm⟩
  | configure sources =>
    simp only [created] at h
    split at h
    · exact ⟨_, (Option.some.inj h).symm⟩
    · simp at h
  | _ => simp [created] at h

end Action

section Additions

theorem Graph.graph_add (g : Graph) (item : Item) :
    (g.add item).graph = g.insertAll (Item.leading [item]) := by
  cases item <;> rfl

/-- Items are added and announced up to the first that is no edge, which ends the addition. What was
added before it stays. -/
theorem Graph.addItems_eq (g : Graph) (items : List Item) :
    g.addItems items =
      ⟨g.insertAll (Item.leading items), g.reports (Item.leading items), Item.verdict items⟩ := by
  induction items generalizing g with
  | nil => rfl
  | cons item items ih =>
    cases item with
    | edge e =>
      show Addition.mk ((g.insert e).addItems items).graph
        ([g.report e] ++ ((g.insert e).addItems items).log) ((g.insert e).addItems items).result = _
      rw [ih]
      rfl
    | foreign typeName => rfl

/-- Everything that an operand adds is added and announced in its order. -/
theorem Graph.update_eq (g : Graph) (operand : Operand) :
    g.update operand = ⟨g.insertAll operand.added, g.reports operand.added, operand.verdict⟩ := by
  rw [Graph.update, Operand.added, Operand.verdict]
  cases operand.items with
  | error e => rfl
  | ok items => exact g.addItems_eq items

theorem Graph.graph_update (g : Graph) (operand : Operand) :
    (g.update operand).graph = g.insertAll operand.added := by
  rw [Graph.update_eq]

/-- Items that are all edges are all added. -/
theorem Item.leading_map_edge (es : List Edge) : Item.leading (es.map .edge) = es := by
  induction es with
  | nil => rfl
  | cons e es ih => exact congrArg (e :: ·) ih

theorem Item.verdict_map_edge (es : List Edge) : Item.verdict (es.map .edge) = .ok () := by
  induction es with
  | nil => rfl
  | cons e es ih => exact ih

/-- Items none of which is an edge add nothing. -/
theorem Item.leading_map_foreign {α : Type} (typeName : α → String) (xs : List α) :
    Item.leading (xs.map fun x => .foreign (typeName x)) = [] := by
  cases xs <;> rfl

theorem Operand.added_value (v : Value) : (Operand.value v).added = [] := by
  rw [Operand.added, Operand.items]
  cases v.items? with
  | none => rfl
  | some items => exact Item.leading_map_foreign Value.typeName items

end Additions

namespace Session

/-- The edges that each graph of a session lists. -/
def listing (s : Session) (name : String) : List Edge := (s.graph name).toList

/-- A graph that is put under a name stands there, and the others stay. -/
theorem graph_grown {α : Type} (s : Session) (target : String) (a : Addition α)
    (answer : α → Answer) (name : String) :
    (s.grown target a answer).session.graph name =
      if name = target then a.graph else s.graph name :=
  graph_setGraph s target name a.graph

/-- A graph that is put under its own name changes nothing. -/
theorem graph_eq_ite (s : Session) (target name : String) :
    s.graph name = if name = target then s.graph target else s.graph name := by
  split
  · next h => rw [h]
  · rfl

/-- An argument that is added as a single edge adds itself, if it stands for an edge. -/
theorem additions_add (s : Session) (argument : Argument) :
    (Action.add argument).additions s.listing =
      match s.operand argument with
      | .ok operand => Item.leading [operand.item]
      | .error _ => [] := by
  cases argument with
  | edge d =>
    rw [Action.additions, operand]
    cases d.edge <;> rfl
  | edges ds =>
    -- A list is no edge, whether or not its edges can be built.
    rw [operand]
    cases Draft.edges ds <;> rfl
  | _ => rfl

/-- An argument adds edge by edge what it stands for lists. -/
theorem additions_update (s : Session) (argument : Argument) :
    (Action.update argument).additions s.listing =
      match s.operand argument with
      | .ok operand => operand.added
      | .error _ => [] := by
  cases argument with
  | edge d =>
    -- An edge lists its fields, and none of them is an edge.
    rw [operand]
    cases d.edge <;> rfl
  | graph name => exact (Item.leading_map_edge (s.graph name).toList).symm
  | edges ds =>
    rw [Action.additions, operand]
    cases Draft.edges ds with
    | error e => rfl
    | ok es => exact (Item.leading_map_edge es).symm
  | bare => rfl
  | value v => exact (Operand.added_value v).symm

/-- An action begins its graph anew or adds to it, and leaves the other graphs as they are. -/
theorem graph_perform (s : Session) (target : String) (action : Action) (name : String) :
    (s.perform target action).session.graph name =
      if name = target then
        action.created.getD ((s.graph target).insertAll (action.additions s.listing))
      else s.graph name := by
  cases action with
  | create announce => exact graph_setGraph s target name _
  | configure sources =>
    rw [perform, Action.created]
    cases Settings.load sources with
    -- An action that fails leaves every graph as it is, here and below.
    | error e => exact s.graph_eq_ite target name
    | ok settings => exact graph_setGraph s target name _
  | record d =>
    rw [perform, Action.additions]
    cases d.edge with
    | error e => exact s.graph_eq_ite target name
    | ok e => exact s.graph_grown target _ _ name
  | add argument =>
    rw [perform, additions_add]
    cases s.operand argument with
    | error e => exact s.graph_eq_ite target name
    | ok operand =>
      rw [← Graph.graph_add]
      exact s.graph_grown target _ _ name
  | update argument =>
    rw [perform, additions_update]
    cases s.operand argument with
    | error e => exact s.graph_eq_ite target name
    | ok operand =>
      rw [← Graph.graph_update]
      exact s.graph_grown target _ _ name
  -- All other actions only ask, or concern snapshots.
  | _ => exact s.graph_eq_ite target name

/-- A step changes its own graph only. -/
theorem graph_step (s : Session) (x : Step) (name : String) :
    (s.step x).1.graph name =
      if name = x.target then
        x.action.created.getD ((s.graph x.target).insertAll (x.action.additions s.listing))
      else s.graph name :=
  s.graph_perform x.target x.action name

theorem graph_start (name : String) : start.graph name = .empty true := by
  rw [start, graph, OrderedMap.get?_set]
  split <;> rfl

end Session

/-- The edges that were added to each graph since it was created, duplicates included, in the
order of the additions. -/
abbrev Ledger := String → List Edge

namespace Ledger

/-- Nothing is added before the first step. -/
def start : Ledger := fun _ => []

/-- The edges that each graph lists, according to a ledger. -/
def listing (l : Ledger) (name : String) : List Edge := arranged (l name).eraseDups

/-- The ledger after a step: empty for a graph that is begun anew, longer by the edges that the
step adds to its graph, and the same for the other graphs. -/
def step (l : Ledger) (x : Step) : Ledger := fun name =>
  if name = x.target then
    if x.action.created.isSome then [] else l name ++ x.action.additions l.listing
  else l name

/-- The ledger after some steps. -/
def run (l : Ledger) (steps : List Step) : Ledger := steps.foldl step l

/-- The graphs of a session record the edges of a ledger, each since its first addition. -/
def Keeps (l : Ledger) (s : Session) : Prop := ∀ name, (s.graph name).Records (l name).eraseDups

namespace Keeps

variable {l : Ledger} {s : Session}

/-- At the start nothing is recorded. -/
theorem start : Ledger.start.Keeps .start := by
  intro name
  rw [Session.graph_start]
  exact .empty true

/-- The graphs list what they list according to the ledger. -/
theorem listing_eq (h : l.Keeps s) : s.listing = l.listing :=
  funext fun name => (h name).toList_eq

/-- The graphs follow the ledger through a step. -/
theorem step (h : l.Keeps s) (x : Step) : (l.step x).Keeps (s.step x).1 := by
  intro name
  rw [Session.graph_step, Ledger.step, h.listing_eq]
  by_cases hname : name = x.target
  · rw [if_pos hname, if_pos hname]
    cases hcreated : x.action.created with
    | none =>
      -- The graph records first occurrences only, and what comes later adds to these.
      show ((s.graph x.target).insertAll _).Records (l name ++ _).eraseDups
      rw [← eraseDups_append_eraseDups, hname]
      exact (h x.target).insertAll _
    | some g =>
      obtain ⟨announce, rfl⟩ := Action.eq_empty_of_created hcreated
      exact .empty announce
  · rw [if_neg hname, if_neg hname]
    exact h name

/-- The graphs follow the ledger through a run. -/
theorem run (h : l.Keeps s) (steps : List Step) : (l.run steps).Keeps (s.run steps).1 := by
  induction steps generalizing l s with
  | nil => exact h
  | cons x steps ih => exact ih (h.step x)

end Keeps

end Ledger

namespace Session

/-- After any run from the start, each graph records what the ledger holds of it. -/
theorem records_run (steps : List Step) (name : String) :
    ((start.run steps).1.graph name).Records (Ledger.start.run steps name).eraseDups :=
  Ledger.Keeps.start.run steps name

end Session

end StaticAccess
