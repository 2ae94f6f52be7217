import StaticAccess.Proofs.Graph.Views
import StaticAccess.Proofs.Session.Agreement

/-!
# Sessions with equal graphs

Graphs that are equal may have been built in different orders, may list their edges in different
orders and may announce differently. Only the listings tell them apart: whatever is done to equal
graphs, they stay equal, and the answers of all other actions are the same.

## Main definitions

- `Session.AllReachable`: every graph of a session is built by additions.
- `Action.listsOrder`: an action that shows an order.
- `Session.Similar`: two sessions whose graphs contain the same edges.

## Main results

- `Session.Similar.run`: similar sessions stay similar.
- `Session.Similar.result_perform`: similar sessions give the same answers, listings apart.
- `Session.equality_run`: equality of graphs is an equivalence and a congruence.
-/

namespace StaticAccess

/-- Whether an action shows an order of locations or edges. -/
def Action.listsOrder : Action → Bool
  | .edges => true
  | .snapshot _ => true
  | .showSnapshot _ => true
  | _ => false

/-- If graphs list the same edges, then an action adds the same edges. -/
theorem Action.mem_additions_congr {l m : String → List Edge}
    (h : ∀ name e, e ∈ l name ↔ e ∈ m name) (action : Action) (e : Edge) :
    e ∈ action.additions l ↔ e ∈ action.additions m := by
  cases action with
  | add argument => cases argument <;> exact Iff.rfl
  | update argument =>
    cases argument with
    | graph name => exact h name e
    | _ => exact Iff.rfl
  | _ => exact Iff.rfl

namespace Session

/-! ## Reachable graphs -/

/-- Every graph of a session is built by additions. -/
def AllReachable (s : Session) : Prop := ∀ name, (s.graph name).Reachable

namespace AllReachable

variable {s : Session}

theorem start : start.AllReachable := by
  intro name
  rw [graph_start]
  exact .empty true

theorem setGraph (hs : s.AllReachable) {g : Graph} (hg : g.Reachable) (name : String) :
    (s.setGraph name g).AllReachable := by
  intro other
  rw [graph_setGraph]
  split
  · exact hg
  · exact hs other

theorem perform (hs : s.AllReachable) (target : String) (action : Action) :
    (s.perform target action).session.AllReachable := by
  intro name
  rw [graph_perform]
  split
  · cases hcreated : action.created with
    | none => exact (hs target).insertAll _
    | some g =>
      obtain ⟨announce, rfl⟩ := Action.eq_empty_of_created hcreated
      exact .empty announce
  · exact hs name

theorem run (hs : s.AllReachable) (steps : List Step) : (s.run steps).1.AllReachable := by
  induction steps generalizing s with
  | nil => exact hs
  | cons x steps ih => exact ih (hs.perform x.target x.action)

end AllReachable

theorem reachable_run (steps : List Step) (name : String) :
    ((start.run steps).1.graph name).Reachable :=
  AllReachable.start.run steps name

/-! ## Similar sessions -/

/-- The graphs of two sessions are built by additions, and contain the same edges under each
name. -/
structure Similar (s t : Session) : Prop where
  left : s.AllReachable
  right : t.AllReachable
  contains_eq : ∀ name e, (s.graph name).contains e = (t.graph name).contains e

namespace Similar

variable {s t : Session}

theorem views (h : s.Similar t) (name : String) : (s.graph name).SameViews (t.graph name) :=
  Graph.sameViews_of_contains (h.left name) (h.right name) (h.contains_eq name)

theorem mem_listing_iff (h : s.Similar t) (name : String) (e : Edge) :
    e ∈ s.listing name ↔ e ∈ t.listing name :=
  Graph.mem_toList_congr (h.left name) (h.right name) (h.contains_eq name) e

/-- Only listings tell similar sessions apart. -/
theorem result_perform (h : s.Similar t) (target : String) {action : Action}
    (haction : action.listsOrder = false) :
    (s.perform target action).result = (t.perform target action).result := by
  have hviews : (s.graph target).SameViews (t.graph target) := h.views target
  cases action with
  | edges => cases haction
  | snapshot name => cases haction
  | showSnapshot name => cases haction
  | configure sources => exact result_configure s t target target sources
  | record d => exact result_record s t target target d
  | recorded d => exact result_recorded_congr (h.contains_eq target) d
  | add argument => exact result_add_congr (h.contains_eq target) argument
  | contains argument => exact result_contains_congr (h.contains_eq target) argument
  | update argument => exact result_update s t target target argument
  -- Each view has been shown to forget the order of what it folds.
  | edgesOf kind =>
    rw [perform, perform, hviews.edgeSet_eq]
    rfl
  | sourceClasses =>
    rw [perform, perform, hviews.sourceClasses_eq]
    rfl
  | targetClasses =>
    rw [perform, perform, hviews.targetClasses_eq]
    rfl
  | staticMembers kind =>
    rw [perform, perform, hviews.staticMembers_eq]
    rfl
  | accessors kind className =>
    rw [perform, perform]
    simp only [asked, hviews.accessors_eq]
  | dependencies className =>
    rw [perform, perform]
    simp only [asked, hviews.dependencies_eq]
  | statistics =>
    rw [perform, perform, hviews.statistics_eq]
    rfl
  | describe =>
    rw [perform, perform, hviews.describe_eq]
    rfl
  | equals argument =>
    exact result_equals_congr (fun name => (h.views name).edgeSet_eq) target argument
  | sameHash name =>
    have hhash (other : String) :
        (s.graph other).hash .mixing = (t.graph other).hash .mixing :=
      Graph.hash_eq_of_contains (h.left other) (h.right other) (h.contains_eq other)
        fun n e f => Int.add_right_comm n _ _
    rw [perform, perform, hhash, hhash]
    rfl
  | create announce => rfl
  | changeSnapshot name change => rfl
  | changeViews => rfl

/-- An action adds the same edges to similar sessions, if perhaps in different orders. -/
theorem perform (h : s.Similar t) (target : String) (action : Action) :
    (s.perform target action).session.Similar (t.perform target action).session where
  left := h.left.perform target action
  right := h.right.perform target action
  contains_eq name e := by
    rw [graph_perform, graph_perform]
    split
    · cases action.created with
      | some g => rfl
      | none =>
        have hadded : e ∈ action.additions s.listing ↔ e ∈ action.additions t.listing :=
          Action.mem_additions_congr h.mem_listing_iff action e
        show ((s.graph target).insertAll _).contains e = ((t.graph target).insertAll _).contains e
        rw [Graph.contains_insertAll, Graph.contains_insertAll, h.contains_eq,
          decide_eq_decide.2 hadded]
    · exact h.contains_eq name e

theorem run (h : s.Similar t) (steps : List Step) : (s.run steps).1.Similar (t.run steps).1 := by
  induction steps generalizing s t with
  | nil => exact h
  | cons x steps ih => exact ih (h.perform x.target x.action)

end Similar

/-! ## Equality -/

/-- Equality of any graphs, built in any way under any names. Two graphs are equal just if they
contain the same edges, and just if the same edges were added to them, in any order and any number
of times. Equality is reflexive, symmetric and transitive. If one of two equal graphs takes the
place of the other in any session, then all steps leave equal graphs under each name, all views of
these agree, and every action that does not list an order gives the same result. -/
theorem equality_run (p q r : List Step) (a b c : String) :
    let g := (start.run p).1.graph a
    let h := (start.run q).1.graph b
    let k := (start.run r).1.graph c
    (g.equal h = true ↔ ∀ e, g.contains e = h.contains e) ∧
      (g.equal h = true ↔ ∀ e, e ∈ Ledger.start.run p a ↔ e ∈ Ledger.start.run q b) ∧
      g.equal g = true ∧
      g.equal h = h.equal g ∧
      (g.equal h = true → h.equal k = true → g.equal k = true) ∧
      (g.equal h = true → ∀ name steps,
        let s := (((start.run r).1.setGraph name g).run steps).1
        let t := (((start.run r).1.setGraph name h).run steps).1
        (∀ other, (s.graph other).equal (t.graph other) = true ∧
          (s.graph other).SameViews (t.graph other)) ∧
        ∀ x : Step, x.action.listsOrder = false → (s.step x).2.result = (t.step x).2.result) := by
  intro g h k
  have hg : g.Reachable := reachable_run p a
  have hh : h.Reachable := reachable_run q b
  have hk : k.Reachable := reachable_run r c
  refine ⟨Graph.equal_iff hg hh, ?_, ?_, ?_, ?_, ?_⟩
  · rw [Graph.equal_iff hg hh]
    refine forall_congr' fun e => ?_
    rw [contains_run, contains_run, decide_eq_decide]
  · exact (Graph.equal_iff hg hg).2 fun e => rfl
  · rw [Bool.eq_iff_iff, Graph.equal_iff hg hh, Graph.equal_iff hh hg]
    exact forall_congr' fun e => eq_comm
  · rw [Graph.equal_iff hg hh, Graph.equal_iff hh hk, Graph.equal_iff hg hk]
    exact fun hgh hhk e => (hgh e).trans (hhk e)
  · intro hequal name steps s t
    have hother : AllReachable (start.run r).1 := AllReachable.start.run r
    have hsimilar : ((start.run r).1.setGraph name g).Similar ((start.run r).1.setGraph name h) :=
      { left := hother.setGraph hg name
        right := hother.setGraph hh name
        contains_eq := fun other e => by
          rw [graph_setGraph, graph_setGraph]
          split
          · exact (Graph.equal_iff hg hh).1 hequal e
          · rfl }
    have hrun : s.Similar t := hsimilar.run steps
    refine ⟨fun other => ⟨?_, hrun.views other⟩, fun x hx => hrun.result_perform x.target hx⟩
    exact (Graph.equal_iff (hrun.left other) (hrun.right other)).2 (hrun.contains_eq other)

/-- Graphs that were built in opposite orders, one of them with a repetition, stay equal. -/
theorem equality_run_reversed :
    let read : Edge := ⟨.fieldRead, "app.Main", "run", "lib.Store", "value"⟩
    let call : Edge := ⟨.methodCall, "app.Test", "check", "app.Main", "run"⟩
    let p : List Step := [⟨"g", .record (.ofEdge read)⟩, ⟨"g", .record (.ofEdge call)⟩]
    let q : List Step := [⟨"g", .create (some (.bool false))⟩, ⟨"g", .record (.ofEdge call)⟩,
      ⟨"g", .record (.ofEdge read)⟩, ⟨"g", .record (.ofEdge read)⟩]
    let g := (start.run p).1.graph "g"
    let h := (start.run q).1.graph "g"
    g.toList ≠ h.toList ∧ g.announce ≠ h.announce ∧ g.equal h = true ∧
      ∀ steps, (((start.setGraph "g" g).run steps).1.graph "g").equal
        (((start.setGraph "g" h).run steps).1.graph "g") = true := by
  intro read call p q g h
  obtain ⟨-, -, -, -, -, hcongruence⟩ := equality_run p q [] "g" "g" "g"
  have hequal : g.equal h = true := by decide
  exact ⟨by decide, by decide, hequal, fun steps => ((hcongruence hequal "g" steps).1 "g").1⟩

end Session

end StaticAccess
