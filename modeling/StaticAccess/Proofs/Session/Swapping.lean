import StaticAccess.Proofs.Edge.Drafts
import StaticAccess.Proofs.Graph.Swapping
import StaticAccess.Proofs.Session.Contents

/-!
# Sessions with the kinds exchanged

If a session is run again with field reads in the place of method calls and method calls in the
place of field reads, then every graph gets the same edges with the kinds exchanged, in the same
order. Two ledgers show this: what the exchanged steps add is what the steps add, exchanged.

## Main definitions

- `Argument.swap`, `Action.swap`, `Step.swap`: the exchange of the two kinds.
- `Ledger.swap`: a ledger with all edges exchanged.

## Main results

- `Ledger.step_swap`, `Ledger.run_swap`: the ledger of exchanged steps.
- `Session.swapping_run`: the two kinds are treated alike.
-/

namespace StaticAccess

/-- An argument with the kinds of its edges exchanged. -/
def Argument.swap : Argument → Argument
  | .edge d => .edge d.swap
  | .edges ds => .edges (ds.map Draft.swap)
  | argument => argument

/-- An action with the two kinds exchanged. -/
def Action.swap : Action → Action
  | .record d => .record d.swap
  | .recorded d => .recorded d.swap
  | .add argument => .add argument.swap
  | .contains argument => .contains argument.swap
  | .update argument => .update argument.swap
  | .edgesOf kind => .edgesOf kind.swap
  | .staticMembers kind => .staticMembers kind.swap
  | .accessors kind className => .accessors kind.swap className
  | .equals argument => .equals argument.swap
  | action => action

/-- A step with the two kinds exchanged. -/
def Step.swap (x : Step) : Step := ⟨x.target, x.action.swap⟩

/-- A ledger with all edges exchanged. -/
def Ledger.swap (l : Ledger) : Ledger := fun name => (l name).map Edge.swap

namespace Action

variable (action : Action)

theorem created_swap : action.swap.created = action.created := by
  cases action <;> rfl

/-- An exchanged action adds the exchanged edges, if graphs list exchanged edges. -/
theorem additions_swap (listing : String → List Edge) :
    action.swap.additions (fun name => (listing name).map Edge.swap) =
      (action.additions listing).map Edge.swap := by
  -- An update with a graph is the only action that adds listed edges; most add none.
  cases action with
  | record d =>
    rw [swap, additions, additions, Draft.toOption_edge_swap]
    cases d.edge.toOption <;> rfl
  | add argument =>
    cases argument with
    | edge d =>
      rw [swap, Argument.swap, additions, additions, Draft.toOption_edge_swap]
      cases d.edge.toOption <;> rfl
    | _ => rfl
  | update argument =>
    cases argument with
    | edges ds =>
      rw [swap, Argument.swap, additions, additions, Draft.toOption_edges_swap]
      cases (Draft.edges ds).toOption <;> rfl
    | _ => rfl
  | _ => rfl

end Action

namespace Ledger

theorem swap_apply (l : Ledger) (name : String) : l.swap name = (l name).map Edge.swap := rfl

/-- An exchanged ledger lists the exchanged edges, in the same order. -/
theorem listing_swap (l : Ledger) (name : String) :
    l.swap.listing name = (l.listing name).map Edge.swap := by
  rw [listing, listing, swap_apply, eraseDups_map_of_injective Edge.swap_injective,
    arranged_map_swap]

theorem step_swap (l : Ledger) (x : Step) : l.swap.step x.swap = (l.step x).swap := by
  have hlisting : l.swap.listing = fun name => (l.listing name).map Edge.swap :=
    funext l.listing_swap
  funext name
  rw [step, swap_apply, swap_apply, step, Step.swap, Action.created_swap, hlisting,
    Action.additions_swap]
  by_cases hname : name = x.target
  · rw [if_pos hname, if_pos hname]
    cases x.action.created with
    | none => exact List.map_append.symm
    | some g => rfl
  · rw [if_neg hname, if_neg hname]

theorem run_swap (l : Ledger) (steps : List Step) :
    l.swap.run (steps.map Step.swap) = (l.run steps).swap := by
  induction steps generalizing l with
  | nil => rfl
  | cons x steps ih =>
    show (l.swap.step x.swap).run (steps.map Step.swap) = _
    rw [step_swap]
    exact ih (l.step x)

end Ledger

namespace Session

/-- Any run, and the run with the two kinds exchanged in every step. Each graph of the second run
lists the edges that the graph of the first run lists, in the same order and with the kinds
exchanged. The members by class, the classes with accesses to a class, the answers about edges and
the counts exchange; all else is the same for both. -/
theorem swapping_run (steps : List Step) (name : String) :
    let s := (start.run steps).1
    let t := (start.run (steps.map Step.swap)).1
    (s.graph name).SwappedViews (t.graph name) ∧
      ∀ e : Edge,
        (t.perform name (.recorded (.ofEdge e.swap))).result =
          (s.perform name (.recorded (.ofEdge e))).result ∧
        (t.perform name (.add (.edge (.ofEdge e.swap)))).result =
          (s.perform name (.add (.edge (.ofEdge e)))).result := by
  intro s t
  -- Graphs of the two runs are compared through their ledgers, which determine all views.
  have hledger : Ledger.start.run (steps.map Step.swap) name =
      (Ledger.start.run steps name).map Edge.swap :=
    congrFun (Ledger.start.run_swap steps) name
  have hs : (s.graph name).Records (Ledger.start.run steps name).eraseDups := records_run steps name
  have ht : (t.graph name).Records ((Ledger.start.run steps name).eraseDups.map Edge.swap) := by
    rw [← eraseDups_map_of_injective Edge.swap_injective, ← hledger]
    exact records_run (steps.map Step.swap) name
  have hviews : (s.graph name).SwappedViews (t.graph name) := hs.swappedViews ht
  refine ⟨hviews, fun e => ⟨?_, ?_⟩⟩
  · rw [result_recorded, result_recorded, hviews.contains_eq]
  · rw [result_add, result_add, hviews.contains_eq]

end Session

end StaticAccess
