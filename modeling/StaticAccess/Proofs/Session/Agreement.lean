import StaticAccess.Proofs.Session.Announcements
import StaticAccess.Proofs.Session.Consistency

/-!
# Sessions that agree

What a step stores and returns depends on the stores of the graphs and on the kept snapshots, but
not on whether the graphs announce duplicates. The actions on single edges need even less: of the
graph that they act on only which edges it contains.

## Main definitions

- `Session.SameStores`: two sessions differ at most in how their graphs announce.
- `Session.Indistinct`: two sessions do not differ in what is under a name.

## Main results

- `Session.SameStores.perform`, `Session.SameStores.result_perform`: how graphs announce has no
  part in what an action stores and returns.
- `Session.Indistinct.run`: sessions without a difference go on alike.
-/

namespace StaticAccess

namespace Graph

/-! ## Operations on one graph -/

section Congruence

variable {g h : Graph}

/-- Membership of any operand is membership of edges. -/
theorem has_congr (hcontains : ∀ e, g.contains e = h.contains e) (operand : Operand) :
    g.has operand = h.has operand := by
  cases operand with
  | edge e => exact hcontains e
  | _ => rfl

theorem result_add_congr (hcontains : ∀ e, g.contains e = h.contains e) (item : Item) :
    (g.add item).result = (h.add item).result := by
  cases item with
  | edge e => exact congrArg (fun b => Except.ok !b) (hcontains e)
  | foreign typeName => rfl

theorem equals_congr (hset : ∀ kind, g.edgeSet kind = h.edgeSet kind) (operand : Operand) :
    g.equals operand = h.equals operand := by
  cases operand with
  | graph k => rw [equals, equals, equal, equal, hset, hset]
  | _ => rfl

theorem store_insert_congr (hstore : g.store = h.store) (e : Edge) :
    (g.insert e).store = (h.insert e).store := by
  obtain ⟨m, a⟩ := g
  obtain ⟨n, b⟩ := h
  obtain rfl : m = n := hstore
  have hcontains : contains ⟨m, a⟩ e = contains ⟨m, b⟩ e := rfl
  rw [insert, insert, hcontains]
  split <;> rfl

theorem store_insertAll_congr (hstore : g.store = h.store) (es : List Edge) :
    (g.insertAll es).store = (h.insertAll es).store := by
  induction es generalizing g h with
  | nil => exact hstore
  | cons e es ih => exact ih (store_insert_congr hstore e)

end Congruence

variable (g h : Graph)

/-- Whether an operand can be added does not depend on what is recorded. -/
theorem result_update (operand : Operand) :
    (g.update operand).result = (h.update operand).result := by
  rw [update_eq, update_eq]

/-- A graph can be updated with any graph. -/
theorem result_update_graph : (g.update (.graph h)).result = .ok () := by
  rw [update_eq]
  exact Item.verdict_map_edge h.toList

end Graph

namespace Session

/-! ## Results of actions -/

/-- An argument is the name of a graph, or it stands for the same thing in all sessions. -/
theorem eq_graph_or_operand_eq (s t : Session) (argument : Argument) :
    (∃ name, argument = .graph name) ∨ s.operand argument = t.operand argument := by
  cases argument with
  | graph name => exact .inl ⟨name, rfl⟩
  | _ => exact .inr rfl

section SingleEdges

variable {s t : Session} {target : String}
  (h : ∀ e, (s.graph target).contains e = (t.graph target).contains e)
include h

theorem result_recorded_congr (d : Draft) :
    (s.perform target (.recorded d)).result = (t.perform target (.recorded d)).result := by
  rw [perform, perform]
  simp only [asked, h]

theorem result_contains_congr (argument : Argument) :
    (s.perform target (.contains argument)).result =
      (t.perform target (.contains argument)).result := by
  obtain ⟨name, rfl⟩ | hoperand := eq_graph_or_operand_eq s t argument
  · rfl
  · rw [perform, perform, hoperand]
    simp only [asked, Graph.has_congr h]

theorem result_add_congr (argument : Argument) :
    (s.perform target (.add argument)).result = (t.perform target (.add argument)).result := by
  obtain ⟨name, rfl⟩ | hoperand := eq_graph_or_operand_eq s t argument
  · rfl
  · rw [perform, perform, hoperand]
    cases t.operand argument with
    | error e => rfl
    | ok operand => exact congrArg (Except.map _) (Graph.result_add_congr h operand.item)

end SingleEdges

theorem result_record (s t : Session) (target other : String) (d : Draft) :
    (s.perform target (.record d)).result = (t.perform other (.record d)).result := by
  rw [perform, perform]
  cases d.edge <;> rfl

theorem result_configure (s t : Session) (target other : String) (sources : Sources) :
    (s.perform target (.configure sources)).result =
      (t.perform other (.configure sources)).result := by
  rw [perform, perform]
  cases Settings.load sources <;> rfl

/-- Whether an update succeeds depends on its argument alone. -/
theorem result_update (s t : Session) (target other : String) (argument : Argument) :
    (s.perform target (.update argument)).result =
      (t.perform other (.update argument)).result := by
  obtain ⟨name, rfl⟩ | hoperand := eq_graph_or_operand_eq s t argument
  · -- The graphs under the name may differ, but both can be added.
    rw [perform, perform, operand, operand]
    simp only [grown, Graph.result_update_graph]
  · rw [perform, perform, hoperand]
    cases t.operand argument with
    | error e => rfl
    | ok operand => exact congrArg (Except.map _) (Graph.result_update _ _ operand)

theorem result_equals_congr {s t : Session}
    (h : ∀ name kind, (s.graph name).edgeSet kind = (t.graph name).edgeSet kind)
    (target : String) (argument : Argument) :
    (s.perform target (.equals argument)).result =
      (t.perform target (.equals argument)).result := by
  obtain ⟨name, rfl⟩ | hoperand := eq_graph_or_operand_eq s t argument
  · rw [perform, perform, operand, operand, asked, asked, Except.map, Except.map, Graph.equals,
      Graph.equals, Graph.equal, Graph.equal]
    simp only [h]
  · rw [perform, perform, hoperand]
    simp only [asked, Graph.equals_congr (h target)]

/-! ## Sessions with the same stores -/

/-- The graphs of two sessions differ at most in how they announce, and the snapshots are the
same. -/
structure SameStores (s t : Session) : Prop where
  store_eq : ∀ name, (s.graph name).store = (t.graph name).store
  snapshot_eq : ∀ name, s.snapshot name = t.snapshot name

namespace SameStores

variable {s t : Session}

theorem listing_eq (h : s.SameStores t) : s.listing = t.listing := by
  funext name
  rw [listing, listing, Graph.toList, Graph.toList, h.store_eq]

/-- Sessions with the same stores give the same results. -/
theorem result_perform (h : s.SameStores t) (target : String) (action : Action) :
    (s.perform target action).result = (t.perform target action).result := by
  -- The target is one store with two ways of announcing.
  have hs : s.graph target = ⟨(t.graph target).store, (s.graph target).announce⟩ := by
    rw [← h.store_eq target]
  have hcontains (e : Edge) : (s.graph target).contains e = (t.graph target).contains e := by
    rw [Graph.contains, Graph.contains, h.store_eq]
  cases action with
  | configure sources => exact result_configure s t target target sources
  | record d => exact result_record s t target target d
  | recorded d => exact result_recorded_congr hcontains d
  | add argument => exact result_add_congr hcontains argument
  | contains argument => exact result_contains_congr hcontains argument
  | update argument => exact result_update s t target target argument
  | equals argument =>
    refine result_equals_congr (fun name kind => ?_) target argument
    rw [Graph.edgeSet, Graph.edgeSet, Graph.edgesOf, Graph.edgesOf, h.store_eq]
  | sameHash name =>
    rw [perform, perform, Graph.hash, Graph.hash, Graph.hash, Graph.hash]
    simp only [Graph.edgesOf, h.store_eq]
    rfl
  | showSnapshot name =>
    rw [perform, perform, h.snapshot_eq]
    rfl
  | changeSnapshot name change => rfl
  | create announce => rfl
  | changeViews => rfl
  -- All other actions read nothing but the store of the target.
  | _ =>
    rw [perform, perform, hs]
    rfl

/-- Sessions with the same stores have the same stores after a step. -/
theorem perform (h : s.SameStores t) (target : String) (action : Action) :
    (s.perform target action).session.SameStores (t.perform target action).session where
  store_eq name := by
    rw [graph_perform, graph_perform, h.listing_eq]
    split
    · cases action.created with
      | none => exact Graph.store_insertAll_congr (h.store_eq target) _
      | some g => rfl
    · exact h.store_eq name
  snapshot_eq name := by
    rw [snapshot_perform, snapshot_perform, h.snapshot_eq, Graph.snapshot, Graph.snapshot,
      h.store_eq]

end SameStores

/-! ## Sessions without a difference -/

theorem run_cons_outcomes (s : Session) (x : Step) (steps : List Step) :
    (s.run (x :: steps)).2 = (s.step x).2 :: ((s.step x).1.run steps).2 := rfl

/-- What is under a name is the same in two sessions. -/
structure Indistinct (s t : Session) : Prop where
  graph_eq : ∀ name, s.graph name = t.graph name
  snapshot_eq : ∀ name, s.snapshot name = t.snapshot name

namespace Indistinct

variable {s t : Session}

theorem sameStores (h : s.Indistinct t) : s.SameStores t :=
  ⟨fun name => by rw [h.graph_eq], h.snapshot_eq⟩

theorem perform (h : s.Indistinct t) (target : String) (action : Action) :
    (s.perform target action).session.Indistinct (t.perform target action).session where
  graph_eq name := by
    rw [graph_perform, graph_perform, h.sameStores.listing_eq, h.graph_eq, h.graph_eq]
  snapshot_eq name := by
    rw [snapshot_perform, snapshot_perform, h.graph_eq, h.snapshot_eq]

/-- Nothing that a step shows tells the sessions apart. -/
theorem step (h : s.Indistinct t) (x : Step) :
    (s.step x).1.Indistinct (t.step x).1 ∧ (s.step x).2 = (t.step x).2 := by
  have hperform := h.perform x.target x.action
  have hresult := h.sameStores.result_perform x.target x.action
  have hlog : (s.perform x.target x.action).log = (t.perform x.target x.action).log := by
    rw [log_perform, log_perform, h.sameStores.listing_eq, h.graph_eq]
  refine ⟨hperform, ?_⟩
  rw [Session.step, Session.step, hresult, hlog, hperform.graph_eq]

/-- Sessions without a difference go on alike. -/
theorem run (h : s.Indistinct t) (steps : List Step) :
    (s.run steps).1.Indistinct (t.run steps).1 ∧ (s.run steps).2 = (t.run steps).2 := by
  induction steps generalizing s t with
  | nil => exact ⟨h, rfl⟩
  | cons x steps ih =>
    obtain ⟨hstep, houtcome⟩ := h.step x
    obtain ⟨hrest, houtcomes⟩ := ih hstep
    refine ⟨hrest, ?_⟩
    rw [run_cons_outcomes, run_cons_outcomes, houtcome, houtcomes]

end Indistinct

end Session

end StaticAccess
