import StaticAccess.Proofs.Graph.Consistency
import StaticAccess.Proofs.Session.Contents

/-!
# Consistency of sessions

Every graph of a session and every snapshot that it keeps is consistent, after any run. A kept
snapshot is the snapshot of a graph at some earlier moment of the run.

## Main definitions

- `Action.keptName`: the name under which an action keeps a snapshot.

## Main results

- `Session.snapshot_perform`: what an action does to each kept snapshot.
- `Session.exists_snapshot_run`: where a kept snapshot comes from.
- `Session.consistent_run`: graphs and snapshots are consistent, and list the same edges.
-/

namespace StaticAccess

/-- The name under which an action keeps a snapshot, if it keeps one. -/
def Action.keptName : Action → Option String
  | .snapshot name => some name
  | _ => none

namespace Session

theorem snapshot_setSnapshot_self (s : Session) (other name : String) :
    (s.setSnapshot other (s.snapshot other)).snapshot name = s.snapshot name := by
  rw [snapshot_setSnapshot]
  split
  · next h => rw [h]
  · rfl

/-- An action changes the snapshot only under the name under which it keeps one. -/
theorem snapshot_perform (s : Session) (target : String) (action : Action) (name : String) :
    (s.perform target action).session.snapshot name =
      if action.keptName = some name then (s.graph target).snapshot else s.snapshot name := by
  cases action with
  | snapshot other =>
    show (s.setSnapshot other _).snapshot name = _
    rw [snapshot_setSnapshot]
    simp only [Action.keptName, Option.some.injEq, eq_comm]
  -- No change to a snapshot succeeds, so it is put back as it was.
  | changeSnapshot other change => exact s.snapshot_setSnapshot_self other name
  | configure sources =>
    rw [perform]
    cases Settings.load sources <;> rfl
  | record d =>
    rw [perform]
    cases d.edge <;> rfl
  | add argument =>
    rw [perform]
    cases s.operand argument <;> rfl
  | update argument =>
    rw [perform]
    cases s.operand argument <;> rfl
  | _ => rfl

theorem run_concat (s : Session) (steps : List Step) (x : Step) :
    (s.run (steps ++ [x])).1 = ((s.run steps).1.step x).1 := by
  induction steps generalizing s with
  | nil => rfl
  | cons y steps ih => exact ih (s.step y).1

/-- A kept snapshot is empty, or it was taken of a graph at an earlier moment of the run. -/
theorem exists_snapshot_run (steps : List Step) (name : String) :
    (start.run steps).1.snapshot name = .empty ∨
      ∃ before target, before <+: steps ∧
        (start.run steps).1.snapshot name = ((start.run before).1.graph target).snapshot := by
  -- The induction is on the last step: a snapshot that it does not take was there before it.
  induction steps using List.reverseRecOn with
  | nil => exact .inl rfl
  | append_singleton steps x ih =>
    have hstep : (start.run (steps ++ [x])).1.snapshot name =
        if x.action.keptName = some name then ((start.run steps).1.graph x.target).snapshot
        else (start.run steps).1.snapshot name := by
      rw [run_concat]
      exact snapshot_perform _ x.target x.action name
    have hprefix : steps <+: steps ++ [x] := List.prefix_append steps [x]
    rw [hstep]
    split
    · exact .inr ⟨steps, x.target, hprefix, rfl⟩
    · refine ih.imp_right ?_
      rintro ⟨before, target, hbefore, hsnapshot⟩
      exact ⟨before, target, hbefore.trans hprefix, hsnapshot⟩

theorem consistent_snapshot_run (steps : List Step) (name : String) :
    ((start.run steps).1.snapshot name).store.Consistent := by
  rcases exists_snapshot_run steps name with hempty | ⟨before, target, -, hsnapshot⟩
  · rw [hempty]
    exact Multigraph.consistent_empty
  · have h := records_run before target
    rw [hsnapshot, h.snapshot_eq]
    exact h.consistent

/-- After any run, each graph, each snapshot that is taken of it and each snapshot that was kept is
consistent. A graph lists every edge once, and the edges that it lists are those that it
contains. A snapshot lists the locations and the edges that the graph lists, in the same order, and
goes on to list them: what was kept under a name is what some graph listed earlier in the run. -/
theorem consistent_run (steps : List Step) (name : String) :
    let s := (start.run steps).1
    let g := s.graph name
    g.store.Consistent ∧ g.snapshot.store.Consistent ∧ (s.snapshot name).store.Consistent ∧
      g.toList.Nodup ∧ (∀ e, g.contains e = true ↔ e ∈ g.toList) ∧
      g.snapshot.nodes = g.store.nodes ∧ g.snapshot.arcs.map Arc.value = g.toList ∧
      (s.snapshot name = .empty ∨ ∃ before target, before <+: steps ∧
        (s.snapshot name).arcs.map Arc.value = ((start.run before).1.graph target).toList) := by
  intro s g
  have h : g.Records (Ledger.start.run steps name).eraseDups := records_run steps name
  -- The copy that a snapshot holds is the store itself, order included.
  have hstore : g.snapshot.store = g.store := h.snapshot_eq
  refine ⟨h.consistent, ?_, consistent_snapshot_run steps name, h.nodup_toList, ?_, ?_, ?_, ?_⟩
  · rw [hstore]
    exact h.consistent
  · intro e
    rw [h.contains_iff, h.toList_perm.mem_iff]
  · rw [Snapshot.nodes, hstore]
  · exact h.arcs_snapshot
  · refine (exists_snapshot_run steps name).imp_right ?_
    rintro ⟨before, target, hbefore, hsnapshot⟩
    refine ⟨before, target, hbefore, ?_⟩
    rw [hsnapshot]
    exact (records_run before target).arcs_snapshot

end Session

end StaticAccess
