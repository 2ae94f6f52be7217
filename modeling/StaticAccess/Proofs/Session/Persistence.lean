import StaticAccess.Proofs.Graph.Growth
import StaticAccess.Proofs.Graph.Reports
import StaticAccess.Proofs.Session.Failure
import StaticAccess.Proofs.Session.Similarity

/-!
# What a session keeps

A step has one target, and the graphs under all other names stay as they are, those that it uses as
operands included. The target stays as well unless the step adds to it or begins it anew. A graph
that is not begun anew only grows: no edge is lost, and no two edges change their order. A snapshot
stays until another one is kept under its name.

## Main definitions

- `Action.IsAddition`: the actions that add to a graph.
- `Step.Retains`: a step does not begin the graph under a name anew.
- `Step.RetainsSnapshot`: a step keeps no snapshot under a name.

## Main results

- `Session.exists_insertAll_run`: a graph that is not begun anew grows by additions.
- `Session.snapshot_run_eq`: a snapshot stays as it was taken.
- `Session.frame_run`: what a step changes, and what stays through all later steps.
- `Session.growth_run`: the order of edges and locations is stable.
-/

namespace StaticAccess

/-- An action adds an edge, or all that an operand lists, to its graph. -/
def Action.IsAddition : Action → Prop
  | .record _ => True
  | .add _ => True
  | .update _ => True
  | _ => False

theorem Action.additions_of_not_isAddition {action : Action} (h : ¬ action.IsAddition)
    (listing : String → List Edge) : action.additions listing = [] := by
  cases action with
  | record d => exact absurd trivial h
  | add argument => exact absurd trivial h
  | update argument => exact absurd trivial h
  | _ => rfl

/-- A step acts on another graph, or does not begin its graph anew. -/
def Step.Retains (x : Step) (name : String) : Prop := x.target = name → x.action.created = none

/-- A step keeps no snapshot under a name. -/
def Step.RetainsSnapshot (x : Step) (name : String) : Prop := x.action.keptName ≠ some name

namespace Session

variable {s : Session} {steps : List Step} {name : String}

/-! ## Graphs -/

/-- A step that does not begin a graph anew adds to it, if it changes it at all. -/
theorem exists_insertAll_step {x : Step} (h : x.Retains name) :
    ∃ es, (s.step x).1.graph name = (s.graph name).insertAll es := by
  rw [graph_step]
  split
  · next hname =>
    rw [h hname.symm, hname]
    exact ⟨_, rfl⟩
  · exact ⟨[], rfl⟩

/-- A graph that is not begun anew grows by additions. -/
theorem exists_insertAll_run (h : ∀ x ∈ steps, x.Retains name) :
    ∃ es, (s.run steps).1.graph name = (s.graph name).insertAll es := by
  induction steps generalizing s with
  | nil => exact ⟨[], rfl⟩
  | cons x steps ih =>
    obtain ⟨hx, hsteps⟩ := List.forall_mem_cons.1 h
    -- What the first step adds comes before what all others add.
    obtain ⟨es, hes⟩ := exists_insertAll_step (s := s) hx
    obtain ⟨fs, hfs⟩ := ih (s := (s.step x).1) hsteps
    refine ⟨es ++ fs, ?_⟩
    rw [Graph.insertAll_append, ← hes]
    exact hfs

/-- An edge stays in a graph that is not begun anew. -/
theorem contains_run_of_contains (h : ∀ x ∈ steps, x.Retains name) {e : Edge}
    (he : (s.graph name).contains e = true) :
    ((s.run steps).1.graph name).contains e = true := by
  obtain ⟨es, hes⟩ := exists_insertAll_run (s := s) h
  rw [hes]
  exact Graph.contains_insertAll_of_contains he es

/-- A graph that a step changes is begun anew, or something is added to it with success. -/
theorem cause_of_graph_ne {x : Step} (h : (s.step x).1.graph name ≠ s.graph name) :
    x.target = name ∧ (x.action.created.isSome = true ∨
      (x.action.IsAddition ∧ ∃ answer, (s.step x).2.result = .ok answer)) := by
  have htarget : x.target = name := by
    by_contra hne
    rw [graph_step, if_neg (Ne.symm hne)] at h
    exact h rfl
  refine ⟨htarget, ?_⟩
  cases hcreated : x.action.created with
  | some g => exact .inl rfl
  | none =>
    right
    constructor
    · -- All other actions add nothing, and adding nothing changes nothing.
      by_contra hnot
      have hnone := Action.additions_of_not_isAddition hnot s.listing
      rw [graph_step, if_pos htarget.symm, hcreated, hnone, htarget] at h
      exact h rfl
    · -- A step that fails changes no graph.
      cases hresult : (s.step x).2.result with
      | ok answer => exact ⟨answer, rfl⟩
      | error e =>
        have hfails : x.action.Fails s e := result_eq_error_iff.1 hresult
        exact absurd ((hfails.indistinct_perform x.target).graph_eq name) h

/-! ## Snapshots -/

/-- A snapshot stays as it was taken until another one is kept under its name. -/
theorem snapshot_run_eq (h : ∀ x ∈ steps, x.RetainsSnapshot name) :
    (s.run steps).1.snapshot name = s.snapshot name := by
  induction steps generalizing s with
  | nil => rfl
  | cons x steps ih =>
    obtain ⟨hx, hsteps⟩ := List.forall_mem_cons.1 h
    have hstep : (s.step x).1.snapshot name = s.snapshot name :=
      (s.snapshot_perform x.target x.action name).trans (if_neg hx)
    exact (ih hsteps).trans hstep

/-! ## Main results -/

/-- After any run, a step leaves all graphs but its target as they are, operands included, and all
kept snapshots but the one that it keeps. It changes its target only if it begins it anew or adds to
it with success. If it does not begin it anew, then the target announces as before and contains what
it contained before and what the step adds to it. A snapshot that the step keeps is shown after any
later steps that keep no other one under its name: it lists the locations and the edges of the
target as they were when it was taken. An edge stays in a graph through all steps that do not begin
the graph anew. -/
theorem frame_run (steps : List Step) (x : Step) :
    let s := (start.run steps).1
    let t := (s.step x).1
    (∀ name, name ≠ x.target → t.graph name = s.graph name) ∧
      (∀ name, x.RetainsSnapshot name → t.snapshot name = s.snapshot name) ∧
      (t.graph x.target ≠ s.graph x.target → x.action.created.isSome = true ∨
        (x.action.IsAddition ∧ ∃ answer, (s.step x).2.result = .ok answer)) ∧
      (x.action.created = none →
        (t.graph x.target).announce = (s.graph x.target).announce ∧
          ∀ e, (t.graph x.target).contains e = true ↔
            e ∈ x.action.additions s.listing ∨ (s.graph x.target).contains e = true) ∧
      (∀ name later target, x.action = .snapshot name →
        (∀ y ∈ later, y.RetainsSnapshot name) →
          ∃ shown : Snapshot,
            ((t.run later).1.perform target (.showSnapshot name)).result = .ok (.snapshot shown) ∧
              shown.nodes = (s.graph x.target).store.nodes ∧
              shown.arcs = (s.graph x.target).store.arcs) ∧
      ∀ name later e, (∀ y ∈ later, y.Retains name) → (s.graph name).contains e = true →
        ((s.run later).1.graph name).contains e = true := by
  intro s t
  refine ⟨?_, ?_, fun h => (cause_of_graph_ne h).2, ?_, ?_,
    fun name later e hlater he => contains_run_of_contains hlater he⟩
  · intro name hname
    exact (s.graph_step x name).trans (if_neg hname)
  · intro name hname
    exact (s.snapshot_perform x.target x.action name).trans (if_neg hname)
  · intro hcreated
    have ht : t.graph x.target = (s.graph x.target).insertAll (x.action.additions s.listing) := by
      rw [graph_step, if_pos rfl, hcreated]
      rfl
    refine ⟨by rw [ht, Graph.announce_insertAll], fun e => ?_⟩
    rw [ht, Graph.contains_insertAll, Bool.or_eq_true, decide_eq_true_eq]
  · intro name later target hx hlater
    have hkept : t.snapshot name = (s.graph x.target).snapshot := by
      refine (s.snapshot_perform x.target x.action name).trans (if_pos ?_)
      rw [hx]
      rfl
    have hshown : (t.run later).1.snapshot name = (s.graph x.target).snapshot :=
      (snapshot_run_eq hlater).trans hkept
    -- The copy that was taken is the store of the graph at that time, order included.
    have hstore := (records_run steps x.target).snapshot_eq
    refine ⟨_, congrArg (fun x => Except.ok (Answer.snapshot x)) hshown, ?_, ?_⟩
    · rw [Snapshot.nodes, hstore]
    · rw [Snapshot.arcs, hstore]

/-- A snapshot takes the place of an older one and is shown as it was taken, although its graph has
been updated with another one and begun anew since. The other graph has kept its edge. -/
theorem frame_run_replaced :
    let read : Edge := ⟨.fieldRead, "app.Main", "run", "lib.Store", "value"⟩
    let call : Edge := ⟨.methodCall, "app.Test", "check", "app.Main", "run"⟩
    let steps : List Step := [⟨"h", .create none⟩, ⟨"g", .snapshot "kept"⟩,
      ⟨"g", .record (.ofEdge read)⟩, ⟨"h", .record (.ofEdge call)⟩]
    let s := (start.run steps).1
    let t := (s.step ⟨"g", .snapshot "kept"⟩).1
    let later : List Step := [⟨"g", .update (.graph "h")⟩, ⟨"g", .create none⟩,
      ⟨"g", .changeSnapshot "kept" .clear⟩]
    t.graph "h" = s.graph "h" ∧ (t.graph "g").contains call = false ∧
      ((t.run later).1.graph "g").toList = [] ∧
      (∃ shown : Snapshot,
        ((t.run later).1.perform "h" (.showSnapshot "kept")).result = .ok (.snapshot shown) ∧
          shown.arcs.map Arc.value = [read]) ∧
      ((s.run later).1.graph "h").contains call = true := by
  intro read call steps s t later
  obtain ⟨hother, -, -, -, hshown, hkept⟩ := frame_run steps ⟨"g", .snapshot "kept"⟩
  refine ⟨hother "h" (by decide), by decide, by decide, ?_, ?_⟩
  · obtain ⟨shown, hresult, -, harcs⟩ := hshown "kept" later "h" rfl
      (by simp [later, Step.RetainsSnapshot, Action.keptName])
    refine ⟨shown, hresult, ?_⟩
    rw [harcs]
    decide
  · exact hkept "h" later call (by simp [later, Step.Retains]) (by decide)

/-- The order of what a graph lists is stable. Through any steps that do not begin it anew, the
edges that it lists keep their order, so that new edges can only come between them, and the
locations that it lists stay in front of the new ones. If it has not become larger in the end, or
contains no edge that it did not contain before, then it is what it was: both lists are the same. -/
theorem growth_run (steps later : List Step) (name : String)
    (h : ∀ x ∈ later, x.Retains name) :
    let g := (start.run steps).1.graph name
    let grown := ((start.run steps).1.run later).1.graph name
    List.Sublist g.toList grown.toList ∧
      g.store.nodes <+: grown.store.nodes ∧
      (grown.size = g.size → grown = g) ∧
      ((∀ e, grown.contains e = true → g.contains e = true) → grown = g) := by
  intro g grown
  have hg : g.Reachable := reachable_run steps name
  obtain ⟨es, hes⟩ : ∃ es, grown = g.insertAll es := exists_insertAll_run h
  rw [hes]
  refine ⟨Graph.toList_sublist_insertAll hg es, Graph.nodes_prefix_insertAll hg es,
    Graph.insertAll_eq_self_of_size hg, fun hknown => ?_⟩
  -- Whatever was added is contained in the end, and hence was known before.
  refine Graph.insertAll_eq_self_of_contains fun e he => hknown e ?_
  rw [Graph.contains_insertAll, decide_eq_true he, Bool.true_or]

/-- An edge that comes with another graph is listed between two edges that were there, and its
target behind all locations. -/
theorem growth_run_between :
    let read : Edge := ⟨.fieldRead, "app.Main", "run", "lib.Store", "value"⟩
    let call : Edge := ⟨.methodCall, "app.Test", "check", "app.Main", "run"⟩
    let new : Edge := ⟨.methodCall, "app.Main", "run", "lib.Store", "load"⟩
    let steps : List Step := [⟨"h", .create none⟩, ⟨"g", .record (.ofEdge read)⟩,
      ⟨"g", .record (.ofEdge call)⟩]
    let later : List Step := [⟨"h", .record (.ofEdge new)⟩, ⟨"g", .update (.graph "h")⟩,
      ⟨"g", .add (.value .null)⟩]
    let g := (start.run steps).1.graph "g"
    let grown := ((start.run steps).1.run later).1.graph "g"
    (∀ x ∈ later, x.Retains "g") ∧
      g.toList = [read, call] ∧ grown.toList = [read, new, call] ∧
      List.Sublist g.toList grown.toList ∧ g.store.nodes <+: grown.store.nodes ∧
      grown.store.nodes.map Prod.fst = g.store.nodes.map Prod.fst ++ [new.target] := by
  intro read call new steps later g grown
  have hlater : ∀ x ∈ later, x.Retains "g" := by
    simp [later, Step.Retains, Action.created]
  obtain ⟨hedges, hnodes, -, -⟩ := growth_run steps later "g" hlater
  exact ⟨hlater, by decide, by decide, hedges, hnodes, by decide⟩

end Session

end StaticAccess
