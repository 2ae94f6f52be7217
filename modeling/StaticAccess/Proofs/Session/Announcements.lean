import StaticAccess.Proofs.Session.Ledger

/-!
# What an action announces

Every edge that an action adds is announced by the graph that it is added to, in the order of the
additions, and nothing else is. Beside these announcements there are only the warnings of a reader
that comes upon an assignment file it cannot read.

## Main definitions

- `Action.warnings`: the warnings about the assignment file of an action.

## Main results

- `Session.log_perform`: what any action emits.
-/

namespace StaticAccess

/-- The warnings about the assignment file from which an action reads settings. -/
def Action.warnings : Action → List Record
  | .configure sources => sources.warnings
  | _ => []

theorem Action.exists_of_mem_warnings {action : Action} {r : Record} (hr : r ∈ action.warnings) :
    ∃ line, r = Sources.warning line := by
  cases action with
  | configure sources =>
    obtain ⟨text, -, hr⟩ := List.mem_flatMap.1 hr
    obtain ⟨line, -, rfl⟩ := List.mem_map.1 hr
    exact ⟨line, rfl⟩
  | _ => cases hr

theorem Action.logger_of_mem_warnings {action : Action} {r : Record} (hr : r ∈ action.warnings) :
    r.logger = .assignments := by
  obtain ⟨line, rfl⟩ := Action.exists_of_mem_warnings hr
  rfl

theorem Action.level_of_mem_warnings {action : Action} {r : Record} (hr : r ∈ action.warnings) :
    r.level = .warning := by
  obtain ⟨line, rfl⟩ := Action.exists_of_mem_warnings hr
  rfl

namespace Graph

theorem log_add (g : Graph) (item : Item) : (g.add item).log = g.reports (Item.leading [item]) := by
  cases item <;> rfl

theorem log_update (g : Graph) (operand : Operand) :
    (g.update operand).log = g.reports operand.added := by
  rw [update_eq]

end Graph

namespace Session

/-- An action emits the warnings about its assignment file and the announcements of what it adds. -/
theorem log_perform (s : Session) (target : String) (action : Action) :
    (s.perform target action).log =
      action.warnings ++ (s.graph target).reports (action.additions s.listing) := by
  cases action with
  | configure sources =>
    rw [perform]
    cases Settings.load sources <;> exact (List.append_nil _).symm
  | record d =>
    rw [perform, Action.additions]
    cases d.edge <;> rfl
  | add argument =>
    rw [perform, additions_add]
    cases s.operand argument with
    | error e => rfl
    | ok operand => exact (s.graph target).log_add operand.item
  | update argument =>
    rw [perform, additions_update]
    cases s.operand argument with
    | error e => rfl
    | ok operand => exact (s.graph target).log_update operand
  | _ => rfl

end Session

end StaticAccess
