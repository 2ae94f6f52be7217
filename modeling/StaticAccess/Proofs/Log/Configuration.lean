import StaticAccess.Session.Console

/-!
# Failed configurations of logging

A configuration of the root fails in one of two ways. A collection cannot be looked up as a level,
and the root is not touched. The text of an unknown level is found out only when the threshold is
set, and by then the handler is installed. Since a root with a handler is never configured again,
a failure of the second kind also stops all later configurations, those with known levels included.

## Main definitions

- `Value.IsCollection`: the values that cannot be looked up.

## Main results

- `Root.configure_error_cases`: the two ways to fail, with what each of them leaves.
- `Console.root_run_of_handlers`: a root with a handler stays as it is.
- `Console.failed_configuration`: what a failed configuration leaves, and what follows it.
-/

namespace StaticAccess

/-- A value is a collection if it has no text. -/
def Value.IsCollection (v : Value) : Prop := v.scalarText? = none

instance (v : Value) : Decidable v.IsCollection := inferInstanceAs (Decidable (_ = none))

namespace Threshold

theorem numberOf?_of_mem : ∀ p ∈ names, numberOf? p.1 = some p.2 := by
  decide

/-- A name stands for the number beside it in the table of names. -/
theorem ofValue_name {p : String × Nat} (hp : p ∈ names) :
    ofValue (.string p.1) = .ok (.known p.2) := by
  simp only [ofValue, Value.scalarText?, numberOf?_of_mem p hp]

/-- The look-up of a level fails for collections alone. -/
theorem isCollection_of_ofValue {v : Value} {e : Error} (h : ofValue v = .error e) :
    v.IsCollection ∧ e = .unhashable v.typeName := by
  cases v with
  | list items => exact ⟨rfl, (Except.error.inj h).symm⟩
  | object members => exact ⟨rfl, (Except.error.inj h).symm⟩
  | string name =>
    simp only [ofValue, Value.scalarText?] at h
    split at h <;> cases h
  | _ =>
    simp only [ofValue, Value.scalarText?] at h
    split at h <;> cases h

theorem not_isCollection_of_ofValue {v : Value} {t : Threshold} (h : ofValue v = .ok t) :
    ¬ v.IsCollection := by
  intro hv
  rw [ofValue, show v.scalarText? = none from hv] at h
  cases h

end Threshold

namespace Root

variable {root : Root} {level : Value} {e : Error}

/-- A root with a handler is not configured again. -/
theorem configure_of_handlers (h : root.handlers ≠ 0) (level : Value) :
    (root.configure level).1 = root := by
  rw [configure]
  cases Threshold.ofValue level with
  | error e => rfl
  | ok threshold => exact congrArg Prod.fst (if_pos h)

/-- Without a handler, the name of a level installs one and sets the threshold. -/
theorem configure_name (h : root.handlers = 0) {p : String × Nat} (hp : p ∈ Threshold.names) :
    root.configure (.string p.1) = (⟨p.2, 1⟩, .ok ()) := by
  obtain ⟨number, handlers⟩ := root
  subst h
  rw [configure, Threshold.ofValue_name hp]
  rfl

/-- A configuration fails at a collection, and leaves the root as it is, or at the text of an
unknown level, after it has installed the first handler. -/
theorem configure_error_cases (h : (root.configure level).2 = .error e) :
    (level.IsCollection ∧ e = .unhashable level.typeName ∧ (root.configure level).1 = root) ∨
      (¬ level.IsCollection ∧ (∃ text, e = .unknownLevel text) ∧ root.handlers = 0 ∧
        (root.configure level).1 = { root with handlers := 1 }) := by
  cases hlevel : Threshold.ofValue level with
  | error f =>
    obtain ⟨hcollection, rfl⟩ := Threshold.isCollection_of_ofValue hlevel
    have hleft : root.configure level = (root, .error (.unhashable level.typeName)) := by
      rw [configure, hlevel]
    rw [hleft] at h ⊢
    exact .inl ⟨hcollection, (Except.error.inj h).symm, rfl⟩
  | ok threshold =>
    have hscalar : ¬ level.IsCollection := Threshold.not_isCollection_of_ofValue hlevel
    by_cases hroot : root.handlers = 0
    · cases threshold with
      | known n => simp [configure, hlevel, hroot] at h
      | unknown text =>
        have hleft : root.configure level =
            ({ root with handlers := 1 }, .error (.unknownLevel text)) := by
          simp [configure, hlevel, hroot]
        rw [hleft] at h ⊢
        exact .inr ⟨hscalar, ⟨text, (Except.error.inj h).symm⟩, hroot, rfl⟩
    · simp [configure, hlevel, hroot] at h

end Root

namespace Console

variable {c : Console} {time : String}

theorem root_step_of_handlers (h : c.root.handlers ≠ 0) (x : ConsoleStep) :
    (c.step time x).1.root = c.root := by
  cases x with
  | configure level => exact Root.configure_of_handlers h level
  | act x => rfl

/-- A root with a handler stays as it is, whatever is done and configured. -/
theorem root_run_of_handlers (h : c.root.handlers ≠ 0) (steps : List ConsoleStep) :
    (c.run time steps).1.root = c.root := by
  induction steps generalizing c with
  | nil => rfl
  | cons x steps ih =>
    have hstep : (c.step time x).1.root = c.root := root_step_of_handlers h x
    rw [← hstep] at h
    exact (ih h).trans hstep

/-- A failed configuration never changes the threshold. If it failed at a collection, the root is
as it was, and without a handler the name of a level still takes effect. If it failed at anything
else, there was no handler before and there is one now, and whatever follows, the root stays like
this: no later configuration takes effect. -/
theorem failed_configuration {level : Value} {e : Error}
    (h : (c.step time (.configure level)).2.result = .error e) :
    let failed := (c.step time (.configure level)).1
    failed.session = c.session ∧ failed.root.level = c.root.level ∧
      (level.IsCollection → e = .unhashable level.typeName ∧ failed.root = c.root ∧
        (c.root.handlers = 0 → ∀ p ∈ Threshold.names,
          (failed.step time (.configure (.string p.1))).1.root = ⟨p.2, 1⟩ ∧
            (failed.step time (.configure (.string p.1))).2.result = .ok .none)) ∧
      (¬ level.IsCollection → (∃ text, e = .unknownLevel text) ∧
        c.root.handlers = 0 ∧ failed.root.handlers = 1 ∧
          ∀ later, (failed.run time later).1.root = failed.root) := by
  intro failed
  have hroot : failed.root = (c.root.configure level).1 := rfl
  have herror : (c.root.configure level).2 = .error e := map_eq_error_iff.1 h
  obtain ⟨hlevel, he, hleft⟩ | ⟨hlevel, he, hnone, hleft⟩ := Root.configure_error_cases herror
  · rw [hleft] at hroot
    have hthreshold : failed.root.level = c.root.level := by rw [hroot]
    refine ⟨rfl, hthreshold, fun _ => ⟨he, hroot, ?_⟩, fun hnot => absurd hlevel hnot⟩
    intro hnone p hp
    have hnext : failed.root.configure (.string p.1) = (⟨p.2, 1⟩, .ok ()) :=
      Root.configure_name (hroot ▸ hnone) hp
    refine ⟨congrArg Prod.fst hnext, ?_⟩
    exact congrArg (fun next => next.2.map fun _ => Answer.none) hnext
  · rw [hleft] at hroot
    have hone : failed.root.handlers = 1 := congrArg Root.handlers hroot
    have hthreshold : failed.root.level = c.root.level := by rw [hroot]
    refine ⟨rfl, hthreshold, fun hcollection => absurd hcollection hlevel, ?_⟩
    intro _
    refine ⟨he, hnone, hone, fun later => root_run_of_handlers ?_ later⟩
    rw [hone]
    exact Nat.one_ne_zero

/-- A list leaves the root as it was; a name in lower case leaves a handler, after which the same
name in upper case does nothing. -/
theorem failed_configuration_lower_case :
    let list := (start.step "" (.configure (.list []))).1
    let name := (start.step "" (.configure (.string "info"))).1
    list.root = Root.start ∧
      (list.step "" (.configure (.string "INFO"))).1.root = ⟨Level.info.number, 1⟩ ∧
      name.root = ⟨Level.warning.number, 1⟩ ∧
      (name.run "" [.configure (.string "INFO")]).1.root = ⟨Level.warning.number, 1⟩ := by
  intro list name
  obtain ⟨-, -, hlist, -⟩ := @failed_configuration start "" (.list []) _ rfl
  obtain ⟨-, hthreshold, -, hname⟩ := @failed_configuration start "" (.string "info") _ rfl
  obtain ⟨-, hsame, hnext⟩ := hlist rfl
  obtain ⟨-, -, hhandlers, hlater⟩ := hname (by decide)
  have hroot : name.root = ⟨Level.warning.number, 1⟩ := by
    show Root.mk name.root.level name.root.handlers = _
    rw [hthreshold, hhandlers]
    rfl
  refine ⟨hsame, (hnext rfl ("INFO", 20) (by decide)).1, hroot, ?_⟩
  rw [hlater, hroot]

/-- Not every configuration that fails leaves the root as it was, nor does the name of a level
always take effect after one: a name in lower case fails after it has installed the handler, and
the same name in upper case then sets no threshold. -/
theorem unknown_level_leaves_handler :
    let failed := start.step "" (.configure (.string "info"))
    let next := failed.1.step "" (.configure (.string "INFO"))
    failed.2.result = .error (.unknownLevel "Level info") ∧ start.root.handlers = 0 ∧
      failed.1.root.handlers ≠ start.root.handlers ∧
      next.2.result = .ok .none ∧ next.1.root.level ≠ Level.info.number := by
  intro failed next
  exact ⟨rfl, rfl, by decide, rfl, by decide⟩

end Console

end StaticAccess
