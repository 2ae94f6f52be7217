import StaticAccess.Proofs.Settings.LevelNames

/-!
# Validation of settings

The values that two settings take are validated together. The level has to be a text, or else
nothing is validated at all. Otherwise the report of an error has one line for each value that is
not accepted, the one for the level first, and so it is told what is wrong with both.

A flag is set by a flag, by a word or by the numbers zero and one. What is a word or a number may
stand for a flag, and another line is written for it if it stands for none than for what may not.
Only numbers of 64 bits count here, and of the floating-point numbers not even the least of these.

## Main definitions

- `Binary64.IsInteger`: a floating-point number is equal to an integer.
- `Value.StandsFor`: a value stands for a flag.
- `Value.MayStandForFlag`: a value is of a kind that may.
- `Settings.LevelLines`, `Settings.FlagLines`: the lines that each setting adds to a report.

## Main results

- `Binary64.toInt?_eq_some_iff`: the integer that a floating-point number is equal to.
- `Settings.readFlag_eq_ok_iff`: what a flag is read from.
- `Settings.report_of_winners`: what the settings are, or what is reported.
- `Settings.least_float_reported`: a number of 64 bits that counts like one beyond them.
-/

namespace StaticAccess

namespace Binary64

/-- A floating-point number is equal to an integer. -/
def IsInteger : Binary64 → Int → Prop
  | .finite negative m e, n =>
    ∃ k : Nat, n = (if negative then -(k : Int) else k) ∧
      m * Nat.pow 2 e.toNat = k * Nat.pow 2 (-e).toNat
  | _, _ => False

/-- The integer that a floating-point number is equal to is found, and no other. -/
theorem toInt?_eq_some_iff {x : Binary64} {n : Int} : x.toInt? = some n ↔ x.IsInteger n := by
  cases x with
  | infinite negative => simp [toInt?, IsInteger]
  | notNumber => simp [toInt?, IsInteger]
  | finite negative m e =>
    have hpos : 0 < Nat.pow 2 (-e).toNat := Nat.pow_pos Nat.two_pos
    rw [toInt?, IsInteger]
    split
    · next he =>
      -- A whole multiple of a power of two.
      have hone : Nat.pow 2 (-e).toNat = 1 := by
        rw [Int.toNat_of_nonpos (by omega)]
      simp only [hone, Nat.mul_one, Option.some.injEq]
      constructor
      · rintro rfl
        exact ⟨_, rfl, rfl⟩
      · rintro ⟨k, rfl, rfl⟩
        rfl
    · next he =>
      -- A quotient by a power of two, which has to divide the significand.
      have hone : Nat.pow 2 e.toNat = 1 := by
        rw [Int.toNat_of_nonpos (by omega)]
      rw [hone, Nat.mul_one]
      split
      · next hdvd =>
        have hmul : m = m / Nat.pow 2 (-e).toNat * Nat.pow 2 (-e).toNat :=
          (Nat.div_mul_cancel (Nat.dvd_of_mod_eq_zero hdvd)).symm
        constructor
        · intro h
          exact ⟨_, (Option.some.inj h).symm, hmul⟩
        · rintro ⟨k, rfl, hk⟩
          have hquotient : m / Nat.pow 2 (-e).toNat = k := by rw [hk, Nat.mul_div_cancel _ hpos]
          rw [hquotient]
      · next hdvd =>
        constructor
        · intro h
          cases h
        · rintro ⟨k, -, hk⟩
          exact absurd (by rw [hk, Nat.mul_mod_left]) hdvd

end Binary64

/-- A value stands for a flag: the flag itself, a word for it in any case, or its number. -/
def Value.StandsFor : Value → Bool → Prop
  | .bool c, b => c = b
  | .string s, b => Text.asciiLowerCase s ∈ Settings.flagWords b
  | .int n, b => n = if b then 1 else 0
  | .float x, b => x.IsInteger (if b then 1 else 0)
  | _, _ => False

/-- A value that stands for no flag, but is of a kind that may: a text, or a number that is equal to
an integer of 64 bits. A floating-point number that is equal to the least of these is not. -/
def Value.MayStandForFlag : Value → Prop
  | .string _ => True
  | .int n => Settings.IsWord n
  | .float x => ∃ n, x.IsInteger n ∧ Settings.IsWord n ∧ n ≠ -9223372036854775808
  | _ => False

namespace Settings

/-! ## Flags -/

section Flags

variable {v : Value} {b : Bool}

/-- The numbers of the flags are read as the flags. -/
theorem flagOfInt_number (b : Bool) : flagOfInt (if b then 1 else 0) = .ok b := by
  cases b <;> rfl

/-- All other numbers are read as no flag, and are told apart by their size. -/
theorem flagOfInt_of_ne {n : Int} (h : ∀ b : Bool, n ≠ if b then 1 else 0) :
    flagOfInt n = .error (if IsWord n then .unclearFlag else .notFlag) := by
  have hzero : n ≠ 0 := h false
  have hone : n ≠ 1 := h true
  rw [flagOfInt, if_neg hzero, if_neg hone]
  split <;> rfl

theorem readFlag_of_standsFor (h : v.StandsFor b) : readFlag v = .ok b := by
  cases v with
  | bool c => exact congrArg _ h
  | int n =>
    obtain rfl : n = if b then 1 else 0 := h
    exact flagOfInt_number b
  | string s =>
    have hword : Text.asciiLowerCase s ∈ flagWords b := h
    rw [readFlag, flagOfText]
    cases b with
    | false => exact if_pos hword
    | true =>
      -- No word stands for both flags.
      have hother : ∀ w ∈ flagWords true, w ∉ flagWords false := by decide
      rw [if_neg (hother _ hword), if_pos hword]
  | float x =>
    have hsmall : (if b then 1 else 0 : Int).natAbs < 9223372036854775808 := by
      cases b <;> decide
    simp only [readFlag, Binary64.toInt?_eq_some_iff.2 h]
    rw [if_pos hsmall, flagOfInt_number]
  | null => exact h.elim
  | list items => exact h.elim
  | object members => exact h.elim

theorem readFlag_of_mayStandForFlag (h : ∀ b, ¬ v.StandsFor b) (hmay : v.MayStandForFlag) :
    readFlag v = .error .unclearFlag := by
  cases v with
  | int n =>
    have hword : IsWord n := hmay
    rw [readFlag, flagOfInt_of_ne h, if_pos hword]
  | string s =>
    rw [readFlag, flagOfText]
    exact (if_neg (h false)).trans (if_neg (h true))
  | float x =>
    obtain ⟨n, hn, hword, hleast⟩ := hmay
    have hsmall : n.natAbs < 9223372036854775808 := by
      obtain ⟨hlow, hhigh⟩ := hword
      omega
    have hne : ∀ b : Bool, n ≠ if b then 1 else 0 := by
      rintro b rfl
      exact h b hn
    simp only [readFlag, Binary64.toInt?_eq_some_iff.2 hn]
    rw [if_pos hsmall, flagOfInt_of_ne hne, if_pos hword]
  | bool c => exact (h c rfl).elim
  | null => exact hmay.elim
  | list items => exact hmay.elim
  | object members => exact hmay.elim

theorem readFlag_of_not_mayStandForFlag (h : ∀ b, ¬ v.StandsFor b) (hmay : ¬ v.MayStandForFlag) :
    readFlag v = .error .notFlag := by
  cases v with
  | int n =>
    have hword : ¬ IsWord n := hmay
    rw [readFlag, flagOfInt_of_ne h, if_neg hword]
  | float x =>
    rw [readFlag]
    split
    · next n hn =>
      -- A number that is small enough would be one of those that may stand for a flag.
      refine if_neg fun hsmall => hmay ⟨n, Binary64.toInt?_eq_some_iff.1 hn, ?_, ?_⟩
      · constructor <;> omega
      · omega
    · rfl
  | string s => exact (hmay trivial).elim
  | bool c => exact (h c rfl).elim
  | null => rfl
  | list items => rfl
  | object members => rfl

/-- A flag is read from what stands for it, and from nothing else. -/
theorem readFlag_eq_ok_iff : readFlag v = .ok b ↔ v.StandsFor b := by
  refine ⟨fun hread => ?_, readFlag_of_standsFor⟩
  by_cases h : ∃ c, v.StandsFor c
  · obtain ⟨c, hc⟩ := h
    rw [readFlag_of_standsFor hc] at hread
    cases hread
    exact hc
  · -- Where nothing is stood for, the reading fails.
    have hnone : ∀ c, ¬ v.StandsFor c := not_exists.1 h
    by_cases hmay : v.MayStandForFlag
    · rw [readFlag_of_mayStandForFlag hnone hmay] at hread
      cases hread
    · rw [readFlag_of_not_mayStandForFlag hnone hmay] at hread
      cases hread

end Flags

/-! ## Reports -/

/-- The lines that a text for the level adds to a report. -/
inductive LevelLines (given : String) : List String → Prop
  /-- A text that names a level adds none. -/
  | named {l : Level} (h : l.IsNamedBy given) : LevelLines given []
  /-- Any other text adds a line that quotes it. -/
  | unknown (h : ∀ l : Level, ¬ l.IsNamedBy given) : LevelLines given
      ["log_level: Value error, Unknown log level " ++ quoted given ++
        ", expected one of DEBUG, INFO, WARNING, ERROR, CRITICAL [value_error]"]

/-- The lines that a value for the flag adds to a report. -/
inductive FlagLines (v : Value) : List String → Prop
  /-- A value that stands for a flag adds none. -/
  | clear {b : Bool} (h : v.StandsFor b) : FlagLines v []
  /-- A value that might stand for a flag adds a line. -/
  | unclear (h : ∀ b, ¬ v.StandsFor b) (hmay : v.MayStandForFlag) : FlagLines v
      ["announce_duplicates: Input should be a valid boolean, unable to interpret input " ++
        "[bool_parsing]"]
  /-- Any other value adds another one. -/
  | other (h : ∀ b, ¬ v.StandsFor b) (hmay : ¬ v.MayStandForFlag) : FlagLines v
      ["announce_duplicates: Input should be a valid boolean [bool_type]"]

theorem exists_levelLines (given : String) : ∃ lines, LevelLines given lines := by
  by_cases h : ∃ l : Level, l.IsNamedBy given
  · obtain ⟨l, hl⟩ := h
    exact ⟨_, .named hl⟩
  · exact ⟨_, .unknown (not_exists.1 h)⟩

theorem exists_flagLines (v : Value) : ∃ lines, FlagLines v lines := by
  by_cases h : ∃ b, v.StandsFor b
  · obtain ⟨b, hb⟩ := h
    exact ⟨_, .clear hb⟩
  · by_cases hmay : v.MayStandForFlag
    · exact ⟨_, .unclear (not_exists.1 h) hmay⟩
    · exact ⟨_, .other (not_exists.1 h) hmay⟩

/-- The line of a fault. -/
def lineOf (p : String × Fault) : String := p.1 ++ ": " ++ p.2.message

/-- What is said about a text that names no level quotes it as it was given. -/
theorem message_unknownLevel (given : String) :
    (Fault.unknownLevel given).message =
      "Value error, Unknown log level " ++ quoted given ++
        ", expected one of DEBUG, INFO, WARNING, ERROR, CRITICAL [value_error]" :=
  -- The text behind the quoted one does not depend on it.
  have hend : ", expected one of " ++ (String.intercalate ", " (Level.all.map Level.name) ++
      " [value_error]") =
        ", expected one of DEBUG, INFO, WARNING, ERROR, CRITICAL [value_error]" := by decide
  calc (Fault.unknownLevel given).message
      = "Value error, Unknown log level " ++ quoted given ++ ", expected one of " ++
          String.intercalate ", " (Level.all.map Level.name) ++ " [value_error]" := rfl
    _ = "Value error, Unknown log level " ++ quoted given ++ (", expected one of " ++
          (String.intercalate ", " (Level.all.map Level.name) ++ " [value_error]")) := by
        simp only [String.append_assoc]
    _ = _ := by rw [hend]

/-- The line about a text that names no level begins with the name of the setting. -/
theorem lineOf_unknownLevel (given : String) :
    lineOf ("log_level", .unknownLevel given) =
      "log_level: Value error, Unknown log level " ++ quoted given ++
        ", expected one of DEBUG, INFO, WARNING, ERROR, CRITICAL [value_error]" := by
  have hstart : "log_level" ++ (": " ++ "Value error, Unknown log level ") =
      "log_level: Value error, Unknown log level " := by decide
  rw [lineOf, message_unknownLevel, ← hstart]
  simp only [String.append_assoc]

/-- A level that is no text is asked for what only texts can do. -/
theorem message_noAttribute (typeName : String) :
    (Error.noAttribute typeName "strip").message =
      "'" ++ typeName ++ "' object has no attribute 'strip'" :=
  have hend : "' object has no attribute " ++ quoted "strip" =
      "' object has no attribute 'strip'" := by decide
  calc (Error.noAttribute typeName "strip").message
      = "'" ++ typeName ++ "' object has no attribute " ++ quoted "strip" := rfl
    _ = _ := by rw [String.append_assoc, hend]

theorem map_lineOf_level {given : String} {lines : List String} (h : LevelLines given lines) :
    (faultOf .logLevel (readLevel given)).map lineOf = lines := by
  cases h with
  | named h =>
    rw [readLevel_eq_ok_iff.2 h]
    rfl
  | unknown h =>
    rw [readLevel_eq_error_iff.2 h, faultOf, List.map_singleton]
    exact congrArg (fun line => [line]) (lineOf_unknownLevel given)

theorem map_lineOf_flag {v : Value} {lines : List String} (h : FlagLines v lines) :
    (faultOf .announceDuplicates (readFlag v)).map lineOf = lines := by
  cases h with
  | clear h =>
    rw [readFlag_of_standsFor h]
    rfl
  | unclear h hmay =>
    rw [readFlag_of_mayStandForFlag h hmay]
    rfl
  | other h hmay =>
    rw [readFlag_of_not_mayStandForFlag h hmay]
    rfl

/-- The message of an error has a line for each fault, behind the name of what was validated. -/
theorem message_invalid (faults : List (String × Fault)) :
    (Error.invalid .settings faults).message =
      "Settings" ++ String.join ((faults.map lineOf).map ("\n" ++ ·)) := by
  -- A line may be built from its left or from its right.
  have hlines : (faults.map lineOf).map ("\n" ++ ·) =
      faults.map fun p => "\n" ++ p.1 ++ ": " ++ p.2.message := by
    rw [List.map_map]
    refine List.map_congr_left fun p _ => ?_
    rw [Function.comp_apply, lineOf, String.append_assoc, String.append_assoc, String.append_assoc]
  rw [hlines]
  rfl

/-- Settings are made of a text and a value if both can be read. -/
theorem validate_eq_ok_iff {given : String} {v : Value} {settings : Settings} :
    validate (.string given) v = .ok settings ↔
      readLevel given = .ok settings.logLevel ∧ readFlag v = .ok settings.announceDuplicates := by
  rw [validate]
  split
  · next hlevel hflag =>
    obtain ⟨logLevel, announceDuplicates⟩ := settings
    simp [hlevel, hflag]
  · next hfault =>
    constructor
    · intro h
      cases h
    · rintro ⟨hlevel, hflag⟩
      exact (hfault _ _ hlevel hflag).elim

/-- Where no settings are made of a text and a value, the faults of both are reported. -/
theorem validate_of_faults {given : String} {v : Value}
    (h : ∀ settings, validate (.string given) v ≠ .ok settings) :
    validate (.string given) v = .error (.invalid .settings
      (faultOf .logLevel (readLevel given) ++ faultOf .announceDuplicates (readFlag v))) := by
  rw [validate] at h ⊢
  split at h
  · exact absurd rfl (h _)
  · rfl

/-- Let two values win, in whatever way. A level that is no text ends the reading with an error that
names its type, whatever the flag is. Otherwise there are settings if and only if the text names a
level and the other value stands for a flag, and these are what the settings hold. If there are
none, what is reported are the lines of both values, those for the level first: none for a value
that is accepted, and for one that is not the line that says what is wrong with it. -/
theorem report_of_winners {s : Sources} {level flag : Value}
    (hlevel : s.winner .logLevel = .ok level) (hflag : s.winner .announceDuplicates = .ok flag) :
    (level.string? = none → load s = .error (.noAttribute level.typeName "strip") ∧
        (Error.noAttribute level.typeName "strip").message =
          "'" ++ level.typeName ++ "' object has no attribute 'strip'") ∧
      ∀ given, level = .string given →
        (∀ settings, load s = .ok settings ↔
          settings.logLevel.IsNamedBy given ∧ flag.StandsFor settings.announceDuplicates) ∧
        ((∀ settings, load s ≠ .ok settings) → ∃ levelLines flagLines faults,
          LevelLines given levelLines ∧ FlagLines flag flagLines ∧
            load s = .error (.invalid .settings faults) ∧
            (Error.invalid .settings faults).message =
              "Settings" ++ String.join ((levelLines ++ flagLines).map ("\n" ++ ·))) := by
  have hload : load s = validate level flag := by
    rw [load, hlevel, hflag]
    rfl
  rw [hload]
  refine ⟨fun htext => ?_, ?_⟩
  · refine ⟨?_, message_noAttribute _⟩
    cases level with
    | string given => cases htext
    | _ => rfl
  · rintro given rfl
    refine ⟨fun settings => ?_, fun hfails => ?_⟩
    · rw [validate_eq_ok_iff, readLevel_eq_ok_iff, readFlag_eq_ok_iff]
    · obtain ⟨levelLines, hlevelLines⟩ := exists_levelLines given
      obtain ⟨flagLines, hflagLines⟩ := exists_flagLines flag
      -- Each value that is refused has one fault, and each fault has its line.
      have hlines : (faultOf .logLevel (readLevel given) ++
          faultOf .announceDuplicates (readFlag flag)).map lineOf = levelLines ++ flagLines := by
        rw [List.map_append, map_lineOf_level hlevelLines, map_lineOf_flag hflagLines]
      exact ⟨levelLines, flagLines, _, hlevelLines, hflagLines, validate_of_faults hfails, by
        rw [message_invalid, hlines]⟩

/-- Both values are refused: a text with a quote inside, and a word that stands for no flag since it
is not trimmed. The report quotes the one and not the other. -/
theorem report_of_winners_both :
    let s : Sources :=
      ⟨[("Log_Level", .string "it's"), ("announce_duplicates", .string " yes")], [], none⟩
    s.winner .logLevel = .ok (.string "it's") ∧
      s.winner .announceDuplicates = .ok (.string " yes") ∧
      ∃ faults, load s = .error (.invalid .settings faults) ∧
        (Error.invalid .settings faults).message =
          "Settings\nlog_level: Value error, Unknown log level \"it's\", expected one of DEBUG, " ++
            "INFO, WARNING, ERROR, CRITICAL [value_error]\nannounce_duplicates: Input should be " ++
            "a valid boolean, unable to interpret input [bool_parsing]" := by
  intro s
  have hlevel : s.winner .logLevel = .ok (.string "it's") := rfl
  have hflag : s.winner .announceDuplicates = .ok (.string " yes") := rfl
  obtain ⟨-, htext⟩ := report_of_winners hlevel hflag
  obtain ⟨hok, hreport⟩ := htext "it's" rfl
  have hunknown : ∀ l : Level, ¬ l.IsNamedBy "it's" := readLevel_eq_error_iff.1 (by decide)
  have hunclear : ∀ b, ¬ (Value.string " yes").StandsFor b := by
    intro b
    show Text.asciiLowerCase " yes" ∉ flagWords b
    cases b <;> decide
  obtain ⟨levelLines, flagLines, faults, hlevelLines, hflagLines, hload, hmessage⟩ :=
    hreport fun settings hs => hunknown _ ((hok settings).1 hs).1
  -- The lines are the only ones that the two values can have.
  cases hlevelLines with
  | named h => exact (hunknown _ h).elim
  | unknown =>
    cases hflagLines with
    | clear h => exact (hunclear _ h).elim
    | other _ hmay => exact (hmay trivial).elim
    | unclear => exact ⟨hlevel, hflag, faults, hload, hmessage.trans (by decide +kernel)⟩

/-- Of the numbers that are equal to an integer of 64 bits and stand for no flag, not all are
reported like the words that stand for none: the floating-point number that is equal to the least of
these integers is reported like a value of another kind. -/
theorem least_float_reported :
    let x : Binary64 := .ofDecimal true 9223372036854775808 0
    let s : Sources := ⟨[("announce_duplicates", .float x)], [], none⟩
    x.IsInteger (-9223372036854775808) ∧ IsWord (-9223372036854775808) ∧
      load s = .error (.invalid .settings [("announce_duplicates", .notFlag)]) ∧
      ¬ ∀ (v : Value) (n : Int), v.integer? = some n → IsWord n → (∀ b, ¬ v.StandsFor b) →
        readFlag v = .error .unclearFlag := by
  intro x s
  have hinteger : x.toInt? = some (-9223372036854775808) := by decide +kernel
  have hread : readFlag (.float x) = .error .notFlag := by decide +kernel
  refine ⟨Binary64.toInt?_eq_some_iff.1 hinteger, by decide, by decide +kernel, fun hall => ?_⟩
  have hnone : ∀ b, ¬ (Value.float x).StandsFor b := by
    intro b hb
    rw [readFlag_of_standsFor hb] at hread
    cases hread
  have hunclear := hall (.float x) _ hinteger (by decide) hnone
  rw [hread] at hunclear
  cases hunclear

end Settings

end StaticAccess
