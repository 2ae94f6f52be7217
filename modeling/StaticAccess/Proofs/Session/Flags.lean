import Mathlib.Data.List.Forall2
import StaticAccess.Proofs.Session.Agreement

/-!
# Flags of announcement

Whether a graph announces duplicates shows in the records that it emits and nowhere else. Two
sessions may go through the same steps, except that graphs that are begun anew announce in
different ways: then every step has the same result, and in the end the sessions hold the same
edges, in the same order, and the same snapshots.

## Main definitions

- `Step.SameUpToFlags`: two steps differ at most in how a graph that is begun anew announces.
- `Outcome.unlogged`: what is shown of a step beside its records.

## Main results

- `Session.SameStores.step_of_flags`: one step of both sessions.
- `Session.flags_run`: runs that differ in flags only.
-/

namespace StaticAccess

/-- Two actions are the same, or both begin their graph anew. In the second case the new graphs
may announce in different ways. -/
inductive Action.SameUpToFlags : Action → Action → Prop
  | same (action : Action) : SameUpToFlags action action
  | created {action other : Action} : action.created.isSome = true → other.created.isSome = true →
      SameUpToFlags action other

/-- Two steps on the same graph differ at most in how a graph that is begun anew announces. -/
structure Step.SameUpToFlags (x y : Step) : Prop where
  target_eq : x.target = y.target
  action : x.action.SameUpToFlags y.action

/-- What is shown of a step beside its records: the answer or the failure, and the size. -/
def Outcome.unlogged (x : Outcome) : Except Error Answer × Nat := (x.result, x.size)

namespace Session

variable {s t : Session} {action other : Action}

/-! ## Graphs that are begun anew -/

section Created

variable (h : action.created.isSome = true)
include h

theorem result_of_created (s : Session) (target : String) :
    (s.perform target action).result = .ok .none := by
  obtain ⟨announce, rfl⟩ | ⟨sources, settings, rfl, hload⟩ := Action.created_cases h
  · rfl
  · rw [perform, hload]

theorem store_of_created (s : Session) (target name : String) :
    ((s.perform target action).session.graph name).store =
      if name = target then .empty else (s.graph name).store := by
  obtain ⟨g, hg⟩ := Option.isSome_iff_exists.1 h
  obtain ⟨announce, rfl⟩ := Action.eq_empty_of_created hg
  rw [graph_perform, hg]
  split <;> rfl

theorem snapshot_of_created (s : Session) (target name : String) :
    (s.perform target action).session.snapshot name = s.snapshot name := by
  rw [snapshot_perform]
  obtain ⟨announce, rfl⟩ | ⟨sources, settings, rfl, -⟩ := Action.created_cases h <;> rfl

theorem measured_of_created (target : String) : measured target action = target := by
  obtain ⟨announce, rfl⟩ | ⟨sources, settings, rfl, -⟩ := Action.created_cases h <;> rfl

end Created

/-! ## Two sessions -/

namespace SameStores

theorem perform_of_flags (h : s.SameStores t) (target : String)
    (haction : action.SameUpToFlags other) :
    (s.perform target action).session.SameStores (t.perform target other).session := by
  cases haction with
  | same => exact h.perform target action
  | created haction hother =>
    -- Both targets are empty now, and nothing else has changed.
    constructor
    · intro name
      rw [store_of_created haction, store_of_created hother, h.store_eq]
    · intro name
      rw [snapshot_of_created haction, snapshot_of_created hother, h.snapshot_eq]

theorem result_perform_of_flags (h : s.SameStores t) (target : String)
    (haction : action.SameUpToFlags other) :
    (s.perform target action).result = (t.perform target other).result := by
  cases haction with
  | same => exact h.result_perform target action
  | created haction hother => rw [result_of_created haction, result_of_created hother]

/-- A step shows the same in both sessions, its records apart, and leaves the same stores. -/
theorem step_of_flags (h : s.SameStores t) {x y : Step} (hxy : x.SameUpToFlags y) :
    (s.step x).1.SameStores (t.step y).1 ∧ (s.step x).2.unlogged = (t.step y).2.unlogged := by
  obtain ⟨target, action⟩ := x
  obtain ⟨target', other⟩ := y
  obtain ⟨rfl, haction⟩ : target = target' ∧ action.SameUpToFlags other := ⟨hxy.1, hxy.2⟩
  have hstores := h.perform_of_flags target haction
  -- Both steps show the size of the same graph.
  have hmeasured : measured target action = measured target other := by
    cases haction with
    | same => rfl
    | created haction hother => rw [measured_of_created haction, measured_of_created hother]
  refine ⟨hstores, Prod.ext (h.result_perform_of_flags target haction) ?_⟩
  show Graph.size _ = Graph.size _
  rw [hmeasured, Graph.size, Graph.size, hstores.store_eq]

end SameStores

/-- Runs of two sessions whose steps differ at most in how graphs that are begun anew announce,
and whose graphs differ at most in this at the start. Every step gives the same answer or fails for
the same cause, and shows the same size. In the end the graphs hold the same locations and edges, in
the same order, and the kept snapshots are the same. So the two runs differ in records only. -/
theorem flags_run {s t : Session} (h : s.SameStores t) {xs ys : List Step}
    (hsteps : List.Forall₂ Step.SameUpToFlags xs ys) :
    (s.run xs).2.map Outcome.unlogged = (t.run ys).2.map Outcome.unlogged ∧
      (∀ name, ((s.run xs).1.graph name).store = ((t.run ys).1.graph name).store) ∧
      ∀ name, (s.run xs).1.snapshot name = (t.run ys).1.snapshot name := by
  -- That the sessions have the same stores is what is kept from step to step.
  induction hsteps generalizing s t with
  | nil => exact ⟨rfl, h.store_eq, h.snapshot_eq⟩
  | cons hxy _ ih =>
    obtain ⟨hstep, hshown⟩ := h.step_of_flags hxy
    obtain ⟨houtcomes, hrest⟩ := ih hstep
    refine ⟨?_, hrest⟩
    rw [run_cons_outcomes, run_cons_outcomes, List.map_cons, List.map_cons, hshown, houtcomes]

/-- A graph that announces duplicates and one that does not, filled alike: they emit different
records for the second addition of an edge, and the graphs that are updated with them list the
same. -/
theorem flags_run_duplicate :
    let read : Edge := ⟨.fieldRead, "app.Main", "run", "lib.Store", "value"⟩
    let steps (announce : Bool) : List Step :=
      [⟨"h", .create (some (.bool announce))⟩, ⟨"h", .record (.ofEdge read)⟩,
        ⟨"h", .add (.edge (.ofEdge read))⟩, ⟨"g", .update (.graph "h")⟩, ⟨"g", .snapshot "kept"⟩]
    let loud := start.run (steps true)
    let quiet := (start.setGraph mainName (.empty false)).run (steps false)
    loud.2.map Outcome.log ≠ quiet.2.map Outcome.log ∧
      loud.2.map Outcome.unlogged = quiet.2.map Outcome.unlogged ∧
      (loud.1.graph "g").store = (quiet.1.graph "g").store ∧
      loud.1.snapshot "kept" = quiet.1.snapshot "kept" := by
  intro read steps loud quiet
  -- The main graph is there from the start, and it too may announce in either way.
  have hstart : start.SameStores (start.setGraph mainName (.empty false)) := by
    refine ⟨fun name => ?_, fun name => rfl⟩
    rw [graph_setGraph, graph_start]
    split <;> rfl
  have hsteps : List.Forall₂ Step.SameUpToFlags (steps true) (steps false) := by
    exact .cons ⟨rfl, .created rfl rfl⟩ (List.forall₂_same.2 fun x _ => ⟨rfl, .same x.action⟩)
  obtain ⟨hshown, hstore, hsnapshot⟩ := flags_run hstart hsteps
  exact ⟨by decide, hshown, hstore "g", hsnapshot "kept"⟩

end Session

end StaticAccess
