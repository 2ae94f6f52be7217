import Mathlib.Data.List.Basic
import Mathlib.Data.List.Induction
import StaticAccess.Settings.Basic

/-!
# Precedence of the sources of settings

Without options among the arguments, a setting takes the value of the first argument that names it;
else of the variable of the environment that names it, the last one if there are several; else of
the assignment file in the same way, unless nothing is assigned there; and else its default. What
settings are made depends on these values alone. So it does not matter what a source gives that
comes later than another one, nor what stands under other names.

An option among the arguments is a name of no setting, and yet it may change where all settings take
their values from.

## Main definitions

- `latest?`: the value of the name that was assigned last for the first time.
- `Sources.argumentsFor`, `Sources.variablesFor`, `Sources.assignmentsFor`: what names a setting.
- `Sources.winning`: the value that a setting takes if there are no options.
- `Sources.Literal`: no value in the assignment file has references.
- `Sources.AgreesOn`: what two sources give a setting is the same, as far as it counts.

## Main results

- `OrderedMap.filter_entries_ofList`: names can be singled out before they are assigned or after.
- `Sources.fromInit_eq`, `Sources.fromEnv_eq`, `Sources.fromFile_eq`: what each source gives.
- `Sources.outcome_of_winning`: the outcome depends on the winning values.
- `Sources.option_changes_outcome`: an option may change the outcome.
-/

namespace StaticAccess

namespace OrderedMap

variable {α β : Type} [DecidableEq α] (p : α → Bool)

theorem filter_place (k : α) (f : Option β → β) (l : List (α × β)) :
    (place k f l).filter (fun e => p e.1) =
      if p k then place k f (l.filter fun e => p e.1) else l.filter fun e => p e.1 := by
  induction l with
  | nil => cases hk : p k <;> simp [place, hk]
  | cons e l ih =>
    obtain ⟨a, b⟩ := e
    by_cases ha : a = k
    · subst ha
      cases hp : p a <;> simp [place, hp]
    · cases hk : p k <;> cases hp : p a <;> simp_all [place]

theorem ofList_concat (l : List (α × β)) (e : α × β) :
    ofList (l ++ [e]) = (ofList l).set e.1 e.2 := List.foldl_append

/-- Names can be singled out before they are assigned or after. -/
theorem filter_entries_ofList (l : List (α × β)) :
    (ofList l).entries.filter (fun e => p e.1) = (ofList (l.filter fun e => p e.1)).entries := by
  -- From the end, as an assignment changes what the ones before it have made.
  induction l using List.reverseRecOn with
  | nil => rfl
  | append_singleton l e ih =>
    rw [ofList_concat, set, upsert, filter_place, ih, List.filter_append]
    cases hp : p e.1 with
    | false => simp [hp]
    | true =>
      have hone : ([e].filter fun e => p e.1) = [e] := by simp [hp]
      rw [hone, ofList_concat, if_pos rfl]
      rfl

end OrderedMap

/-- The value of that name among some assignments which was assigned last for the first time. -/
def latest? {α β : Type} [DecidableEq α] (l : List (α × β)) : Option β :=
  (OrderedMap.ofList l).entries.getLast?.map Prod.snd

/-- The name of the variable for a setting, in lower case. -/
def Setting.variableName (x : Setting) : String := "static_usage_" ++ x.name

theorem Setting.lowerCase_name (x : Setting) : Text.lowerCase x.name = x.name := by
  cases x <;> decide

theorem Setting.lowerCase_variableName (x : Setting) :
    Text.lowerCase ("STATIC_USAGE_" ++ x.name) = x.variableName := by
  cases x <;> decide

/-- Assignments without references give the values that are written. -/
theorem Assignment.table_of_free (environment : OrderedMap String String)
    {assignments : List Assignment}
    (h : ∀ a ∈ assignments, ∀ value, a.2 = some value → Reference.Free value.toList) :
    table environment assignments = .ofList assignments := by
  refine List.foldl_ext _ _ _ fun assigned a ha => congrArg (assigned.set a.1) ?_
  cases hv : a.2 with
  | none => rfl
  | some value =>
    rw [Option.map_some, Reference.expand_of_free (h a ha value hv), String.ofList_toList]

namespace Sources

/-! ## What names a setting -/

section Names

variable (s : Sources) (x : Setting)

/-- The arguments that name a setting. -/
def argumentsFor : List (String × Value) :=
  s.init.filter fun p => Text.lowerCase p.1 = x.name

/-- The assignments in the environment that name a setting. -/
def variablesFor : List (String × String) :=
  s.env.filter fun p => Text.lowerCase p.1 = x.variableName

/-- The assignments in the assignment file, if there is one. -/
def statements : List Assignment := s.file.elim [] Assignment.ofText

/-- The assignments in the assignment file that name a setting. -/
def assignmentsFor : List Assignment :=
  s.statements.filter fun p => Text.lowerCase p.1 = x.variableName

/-- The value that an argument gives a setting: the first one that names it. -/
def argumentFor : Option Value := (s.argumentsFor x).head?.map Prod.snd

/-- The value that the environment gives a setting. -/
def variableFor : Option Value := (latest? (s.variablesFor x)).map .string

/-- The value that the assignment file gives a setting, its references replaced. -/
def assignmentFor : Option Value :=
  (((Assignment.table (.ofList s.env) s.statements).entries.filter fun p =>
    Text.lowerCase p.1 = x.variableName).getLast?.map Prod.snd).join.map .string

/-- The value that a setting takes from the first source to give one, or its default. -/
def winning : Value :=
  (s.argumentFor x <|> s.variableFor x <|> s.assignmentFor x).getD x.default

end Names

/-- No value in the assignment file has references. -/
def Literal (s : Sources) : Prop :=
  ∀ a ∈ s.statements, ∀ value, a.2 = some value → Reference.Free value.toList

/-- Two sources have the same arguments for a setting; if there are none, the same assignments in
the environment; and if there are none again, the same assignments in the assignment file. -/
def AgreesOn (s t : Sources) (x : Setting) : Prop :=
  s.argumentsFor x = t.argumentsFor x ∧ (s.argumentFor x = none →
    s.variablesFor x = t.variablesFor x ∧ (s.variableFor x = none →
      s.assignmentsFor x = t.assignmentsFor x))

/-! ## What each source gives -/

theorem fromInit_eq (s : Sources) (x : Setting) : s.fromInit x = s.argumentFor x := by
  rw [fromInit, firstMatch, argumentFor, argumentsFor, List.head?_filter, x.lowerCase_name]

theorem assignments_eq {s : Sources} (h : s.options = .standard) :
    s.assignments = s.statements := by
  rw [assignments, reading, h, Options.reading_standard, statements]
  cases s.file <;> rfl

/-- Without options, the last name for a setting gives its value, among those of an environment or
of an assignment file. -/
theorem lastMatch_standard {β : Type} (x : Setting) (entries : List (String × β)) :
    lastMatch Options.standard.form (Options.standard.variableName x.name) entries =
      (entries.filter fun p => Text.lowerCase p.1 = x.variableName).getLast?.map Prod.snd := by
  have hform : Options.standard.form = Text.lowerCase := rfl
  have hname : Options.standard.variableName x.name = "STATIC_USAGE_" ++ x.name := rfl
  rw [lastMatch, hform, hname, x.lowerCase_variableName]

/-- What the environment gives: names can be singled out before they are assigned. -/
theorem fromEnv_eq {s : Sources} (h : s.options = .standard) (x : Setting) :
    s.fromEnv x = s.variableFor x := by
  -- An empty text counts as given.
  have hkept : s.environment.entries.filter (fun p => Options.standard.kept p.2) =
      s.environment.entries := List.filter_eq_self.2 fun _ _ => rfl
  rw [fromEnv, h, hkept, lastMatch_standard, environment,
    OrderedMap.filter_entries_ofList (fun name => Text.lowerCase name = x.variableName)]
  rfl

/-- What the assignment file gives: the last assignment to a setting counts, also if it assigns
nothing. -/
theorem fromFile_eq {s : Sources} (h : s.options = .standard) (x : Setting) :
    s.fromFile x = s.assignmentFor x := by
  -- The standard lead leads the names of settings, so that nothing else is looked up.
  have hlead : s.assignedBehindLead x = none := by
    rw [assignedBehindLead, h]
    exact if_pos (.inl rfl)
  have hkept (m : OrderedMap String (Option String)) :
      m.entries.filter (fun p => p.2.all Options.standard.kept) = m.entries :=
    List.filter_eq_self.2 fun p _ => by cases p.2 <;> rfl
  rw [fromFile, hlead, assigned, assignments_eq h, h, hkept, lastMatch_standard]
  rfl

/-- Without references, the values in the assignment file are taken as they are. -/
theorem assignmentFor_of_literal {s : Sources} (h : s.Literal) (x : Setting) :
    s.assignmentFor x = (latest? (s.assignmentsFor x)).join.map .string := by
  rw [assignmentFor, Assignment.table_of_free _ h,
    OrderedMap.filter_entries_ofList (fun name => Text.lowerCase name = x.variableName)]
  rfl

/-! ## The winning value -/

theorem winner_eq {s : Sources} (h : s.options = .standard) (x : Setting) :
    s.winner x = .ok (s.winning x) := by
  have hfault : s.reading.fault = none := by rw [reading, h, Options.reading_standard]
  have hgiven : s.given x = (s.argumentFor x <|> s.variableFor x <|> s.assignmentFor x) := by
    rw [given, h, fromInit_eq, fromEnv_eq h, fromFile_eq h]
    exact if_neg Bool.false_ne_true
  rw [winner, hfault, hgiven, winning]

/-- The settings are what the winning values stand for. -/
theorem load_eq {s : Sources} (h : s.options = .standard) :
    Settings.load s = Settings.validate (s.winning .logLevel) (s.winning .announceDuplicates) := by
  rw [Settings.load, winner_eq h, winner_eq h]
  rfl

/-- What a later source gives does not count, nor what has another name. -/
theorem winning_eq_of_agreesOn {s t : Sources} (hs : s.Literal) (ht : t.Literal) {x : Setting}
    (h : s.AgreesOn t x) : s.winning x = t.winning x := by
  obtain ⟨hinit, hrest⟩ := h
  have hargument : s.argumentFor x = t.argumentFor x := by rw [argumentFor, hinit, argumentFor]
  rw [winning, winning, ← hargument]
  -- Whatever gives the setting a value hides the sources that come later.
  cases ha : s.argumentFor x with
  | some value => simp
  | none =>
    obtain ⟨henv, hrest⟩ := hrest ha
    have hvariable : s.variableFor x = t.variableFor x := by rw [variableFor, henv, variableFor]
    rw [← hvariable]
    cases hv : s.variableFor x with
    | some value => simp
    | none =>
      rw [assignmentFor_of_literal hs, assignmentFor_of_literal ht, hrest hv]

/-- Whatever the options, no other arguments matter than these and those for the setting. -/
theorem winner_congr {s t : Sources} (hoptions : s.options = t.options) (henv : s.env = t.env)
    (hfile : s.file = t.file) {x : Setting} (hinit : s.argumentsFor x = t.argumentsFor x) :
    s.winner x = t.winner x := by
  have hargument : s.fromInit x = t.fromInit x := by
    rw [fromInit_eq, fromInit_eq, argumentFor, argumentFor, hinit]
  have hreading : s.reading = t.reading := by rw [reading, reading, hoptions, hfile]
  have hassigned (name : String) : s.assigned name = t.assigned name := by
    simp only [assigned, assignments, environment, hoptions, henv, hreading]
  have hfrom : s.fromFile x = t.fromFile x := by
    simp only [fromFile, assignedBehindLead, hoptions, hassigned]
  have hvariable : s.fromEnv x = t.fromEnv x := by
    simp only [fromEnv, environment, hoptions, henv]
  rw [winner, winner, given, given, hreading, hoptions, hargument, hvariable, hfrom]

/-- Assignments without dollar signs have no references. -/
theorem literal_of_notMem {s : Sources}
    (h : ∀ a ∈ s.statements, '$' ∉ (a.2.getD "").toList) : s.Literal := by
  intro a ha value hv
  have hfree := h a ha
  rw [hv] at hfree
  exact Reference.free_of_notMem hfree

/-- Without options among the arguments, a setting takes its winning value, and the settings are
what the winning values stand for. So whatever a source gives that comes later than another one, and
whatever has another name, neither changes the settings nor causes nor hides an error. With options,
this is still so of the arguments that are neither options nor settings. -/
theorem outcome_of_winning {s t : Sources} (hs : s.options = .standard)
    (ht : t.options = .standard) :
    (∀ x, s.winner x = .ok (s.winning x)) ∧
    Settings.load s = Settings.validate (s.winning .logLevel) (s.winning .announceDuplicates) ∧
    ((∀ x, s.winning x = t.winning x) → Settings.load s = Settings.load t) ∧
    (s.Literal → t.Literal → (∀ x, s.AgreesOn t x) → Settings.load s = Settings.load t) ∧
    ∀ u v : Sources, u.options = v.options → u.env = v.env → u.file = v.file →
      (∀ x, u.argumentsFor x = v.argumentsFor x) → Settings.load u = Settings.load v := by
  have hequal (h : ∀ x, s.winning x = t.winning x) : Settings.load s = Settings.load t := by
    rw [load_eq hs, load_eq ht, h, h]
  refine ⟨winner_eq hs, load_eq hs, hequal, ?_, ?_⟩
  · intro hls hlt h
    exact hequal fun x => winning_eq_of_agreesOn hls hlt (h x)
  · intro u v hoptions henv hfile hinit
    have hwinner (x : Setting) : u.winner x = v.winner x :=
      winner_congr hoptions henv hfile (hinit x)
    rw [Settings.load, Settings.load, hwinner, hwinner]

/-- Sources in which a value stands behind every winning one, and others without these. -/
theorem outcome_of_winning_losers :
    let s : Sources := ⟨[("Log_Level", .string " debug "), ("level", .int 3)],
      [("STATIC_USAGE_LOG_LEVEL", "loud"), ("static_usage_announce_duplicates", "no")],
      some "STATIC_USAGE_ANNOUNCE_DUPLICATES=maybe"⟩
    let t : Sources := ⟨[("Log_Level", .string " debug ")],
      [("static_usage_announce_duplicates", "no")], none⟩
    s.options = .standard ∧ t.options = .standard ∧ Settings.load s = Settings.load t ∧
      Settings.load t = .ok ⟨.debug, false⟩ := by
  intro s t
  have hs : s.options = .standard := Options.ofArguments_eq_standard (by decide)
  have ht : t.options = .standard := Options.ofArguments_eq_standard (by decide)
  have hls : s.Literal := literal_of_notMem (by decide +kernel)
  have hlt : t.Literal := literal_of_notMem (by decide +kernel)
  have hinit (x : Setting) : s.argumentsFor x = t.argumentsFor x := by
    have hlevel : Text.lowerCase "level" ≠ x.name := by cases x <;> decide
    simp [argumentsFor, s, t, List.filter_cons, hlevel]
  have hagrees (x : Setting) : s.AgreesOn t x := by
    refine ⟨hinit x, fun hargument => ?_⟩
    cases x with
    | logLevel => exact absurd hargument (by decide +kernel)
    | announceDuplicates =>
      exact ⟨by decide +kernel, fun hvariable => absurd hvariable (by decide +kernel)⟩
  exact ⟨hs, ht, (outcome_of_winning hs ht).2.2.2.1 hls hlt hagrees, by decide +kernel⟩

/-- An option changes the settings though it is the name of none and the winning values are the
same: the assignment file is not read if it is given without a value. -/
theorem option_changes_outcome :
    let s : Sources := ⟨[], [], some "STATIC_USAGE_LOG_LEVEL=DEBUG"⟩
    let t : Sources := { s with init := [("_env_file", .null)] }
    (∀ x, s.AgreesOn t x) ∧ (∀ x, s.winning x = t.winning x) ∧
      Settings.load s = .ok ⟨.debug, true⟩ ∧ Settings.load t = .ok ⟨.info, true⟩ := by
  intro s t
  have hs : s.Literal := literal_of_notMem (by decide +kernel)
  have ht : t.Literal := hs
  have hagrees (x : Setting) : s.AgreesOn t x := by
    have hoption : Text.lowerCase "_env_file" ≠ x.name := by cases x <;> decide
    have hinit : s.argumentsFor x = t.argumentsFor x := by
      simp [argumentsFor, s, t, hoption]
    exact ⟨hinit, fun _ => ⟨rfl, fun _ => rfl⟩⟩
  exact ⟨hagrees, fun x => winning_eq_of_agreesOn hs ht (hagrees x), by decide +kernel,
    by decide +kernel⟩

end Sources

end StaticAccess
