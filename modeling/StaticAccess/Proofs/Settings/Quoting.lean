import StaticAccess.Proofs.Settings.Rewriting
import StaticAccess.Proofs.Text.LowerCase

/-!
# Quoting values

A value without line ends, quotes, backslashes and dollar signs is read as it is written if it
stands in quotes of either kind, whatever white space and number signs it has, whatever white space
surrounds the equality sign, and whatever follows on the line. Without quotes it loses the white
space at its ends and what begins with a number sign behind white space, and nothing else.

## Main results

- `Statement.beforeRemark_eq_self_iff`: the values without a remark.
- `Line.isName_of_lowerCase`: the names of settings, in any spelling, stand without quotes.
- `Sources.fromFile_assigned`: a line gives a setting the value that is written on it.
- `Sources.quoting_roundtrip`: what quotes keep, and what is lost without them.
-/

namespace StaticAccess

open Text Statement

/-! ## Values before remarks -/

namespace Statement

theorem beforeRemark_isPrefix (v : List Char) : beforeRemark v <+: v := by
  induction v with
  | nil => exact List.prefix_rfl
  | cons c v ih =>
    rw [beforeRemark]
    split
    · exact List.nil_prefix
    · exact (List.prefix_cons_inj c).2 ih

/-- A value has no remark if no number sign in it follows white space. -/
theorem beforeRemark_eq_self_iff {v : List Char} :
    beforeRemark v = v ↔
      ∀ before after c, v = before ++ c :: '#' :: after → isBlank c = false := by
  induction v with
  | nil => simp [beforeRemark]
  | cons d v ih =>
    rw [beforeRemark]
    split
    · next hremark =>
      obtain ⟨hblank, hhead⟩ := Bool.and_eq_true_iff.1 hremark
      obtain ⟨after, rfl⟩ := List.head?_eq_some_iff.1 (of_decide_eq_true hhead)
      refine iff_of_false (List.cons_ne_nil _ _).symm fun h => ?_
      cases hblank.symm.trans (h [] after d rfl)
    · next hremark =>
      rw [List.cons_eq_cons, and_iff_right rfl, ih]
      constructor
      · intro h before after c hv
        cases before with
        | nil =>
          -- The number sign follows the first character.
          obtain ⟨rfl, rfl⟩ := List.cons.inj hv
          simpa using hremark
        | cons b before => exact h before after c (List.cons.inj hv).2
      · rintro h before after c rfl
        exact h (d :: before) after c rfl

/-- Reading an unquoted value may shorten it, at its ends or before a remark. -/
theorem trim_beforeRemark_eq_self_iff {v : List Char} :
    trim (beforeRemark v) = v ↔ trim v = v ∧ beforeRemark v = v := by
  constructor
  · intro h
    -- Neither step adds anything, so that both have to keep the length.
    have hlength : v.length ≤ (beforeRemark v).length := by
      have hle := (trim_sublist (beforeRemark v)).length_le
      rwa [h] at hle
    have hbefore : beforeRemark v = v := (beforeRemark_isPrefix v).eq_of_length_le hlength
    exact ⟨by rwa [hbefore] at h, hbefore⟩
  · rintro ⟨htrim, hbefore⟩
    rw [hbefore, htrim]

end Statement

/-! ## Names of settings -/

/-- The name of a variable for a setting can be written without quotes, and is not taken for the
word `export`. -/
theorem Line.isName_of_lowerCase {x : Setting} {name : List Char}
    (h : lowerCase (.ofList name) = x.variableName) :
    IsName name ∧ name ≠ "export".toList := by
  have hletters : ∀ c ∈ x.variableName.toList,
      Statement.isNameChar c = true ∧ c ≠ '\'' ∧ c.toNat ≠ 0xFEFF := by
    have hall : (x.variableName.toList.all fun c =>
        Statement.isNameChar c && c ≠ '\'' && c.toNat ≠ 0xFEFF) = true := by
      cases x <;> decide +kernel
    simpa [and_assoc] using hall
  -- Whatever could not stand in a name would be left in its lower case.
  have hkept {c : Char} (hc : Unchanged c) (hmem : c ∈ name) : c ∈ x.variableName.toList := by
    rw [← h]
    exact mem_lowerCase hc hmem
  have hnil : lowerCase (.ofList []) ≠ x.variableName := by cases x <;> decide +kernel
  have hexport : lowerCase (.ofList "export".toList) ≠ x.variableName := by
    cases x <;> decide +kernel
  refine ⟨⟨?_, fun c hc => ?_, fun c hc => ⟨?_, fun hmark => ?_⟩⟩, ?_⟩
  · rintro rfl
    exact hnil h
  · by_contra hchar
    have hcases : c = '=' ∨ c = '#' ∨ isBlank c = true := by
      simpa [Statement.isNameChar, or_iff_not_imp_left] using hchar
    have hunchanged : Unchanged c := by
      rcases hcases with rfl | rfl | hblank
      · exact unchanged_of_lt (by decide) rfl
      · exact unchanged_of_lt (by decide) rfl
      · exact unchanged_of_isBlank hblank
    exact hchar (hletters c (hkept hunchanged hc)).1
  · rintro rfl
    have hunchanged : Unchanged '\'' := unchanged_of_lt (by decide) rfl
    exact (hletters _ (hkept hunchanged (List.mem_of_mem_head? hc))).2.1 rfl
  · have hunchanged : Unchanged c := by
      refine unchanged_of_exchanged ?_ ?_ (by rw [hmark]; decide +kernel)
      · rintro rfl
        cases hmark
      · rintro rfl
        cases hmark
    exact (hletters c (hkept hunchanged (List.mem_of_mem_head? hc))).2.2 hmark
  · rintro rfl
    exact hexport h

/-! ## Reading values -/

namespace Sources

variable {s : Sources} {x : Setting} {k : Line.Context}

/-- A line gives a setting the value that is written on it, if there is no dollar sign in it. -/
theorem fromFile_assigned (h : s.options = .standard) {name value : List Char}
    (hname : lowerCase (.ofList name) = x.variableName) (hk : k.LeavesTo x (.ofList name))
    {t : Line.Tail} (ht : t.value? = some value) (hdollar : '$' ∉ value) :
    (s.withLine k (name ++ t.chars)).fromFile x = some (.string (.ofList value)) := by
  obtain ⟨hisName, hexport⟩ := Line.isName_of_lowerCase hname
  let e : Line.Entry := .ofName name t hisName hexport
  have hassignment : e.assignment = (.ofList name, some (.ofList value)) :=
    congrArg (fun v => (String.ofList name, v.map String.ofList)) ht
  have hliteral : e.assignment.Literal := by
    rw [hassignment]
    rintro text ⟨⟩
    exact Reference.free_of_notMem (by rwa [String.toList_ofList])
  have hgiven : (s.withLine k e.chars).fromFile x = e.assignment.2.map .string :=
    fromFile_withLine h hname hliteral hk
  rw [hassignment] at hgiven
  exact hgiven

/-- A setting takes the value of the assignment file if neither an argument nor a variable names
it. -/
theorem winner_withLine (h : s.options = .standard) (hargument : s.argumentFor x = none)
    (hvariable : s.variableFor x = none) {line : List Char} {value : Value}
    (hvalue : (s.withLine k line).fromFile x = some value) :
    (s.withLine k line).winner x = .ok value := by
  have hoptions : (s.withLine k line).options = .standard := h
  have hargument' : (s.withLine k line).argumentFor x = none := hargument
  have hvariable' : (s.withLine k line).variableFor x = none := hvariable
  rw [winner_eq hoptions, winning, hargument', hvariable', ← fromFile_eq hoptions, hvalue]
  rfl

/-- In quotes of either kind a value is read as it is written, with any white space around the
equality sign and any white space and remark behind the quotes. Without quotes this is so just if
there is no white space at its ends and no number sign right behind white space. The value may not
have line ends, quotes, backslashes or dollar signs, and there may be other lines in the file, as
long as they leave the setting to this one. -/
theorem quoting_roundtrip (h : s.options = .standard) {name v : List Char}
    (hname : lowerCase (.ofList name) = x.variableName)
    (hv : ∀ c ∈ ['\n', '\r', '\'', '"', '\\', '$'], c ∉ v) (hk : k.LeavesTo x (.ofList name)) :
    (∀ quote ∈ ['\'', '"'], ∀ gap gap' : List Char, Line.Gap gap → Line.Gap gap' →
      ∀ ending : Line.Ending,
        let t := s.withLine k (name ++ gap ++ '=' :: gap' ++ quote :: v ++ quote :: ending.chars)
        t.fromFile x = some (.string (.ofList v)) ∧
          (s.argumentFor x = none → s.variableFor x = none →
            t.winner x = .ok (.string (.ofList v)))) ∧
      ((s.withLine k (name ++ '=' :: v)).fromFile x = some (.string (.ofList v)) ↔
        (∀ c ∈ v.head?, isBlank c = false) ∧ (∀ c ∈ v.getLast?, isBlank c = false) ∧
          ∀ before after c, v = before ++ c :: '#' :: after → isBlank c = false) := by
  obtain ⟨hlf, hcr, hsingle, hdouble, hbackslash, hdollar⟩ :
      '\n' ∉ v ∧ '\r' ∉ v ∧ '\'' ∉ v ∧ '"' ∉ v ∧ '\\' ∉ v ∧ '$' ∉ v := by simpa using hv
  have hinline : Line.Inline v := fun c hc =>
    ⟨fun he => hlf (he ▸ hc), fun he => hcr (he ▸ hc)⟩
  constructor
  · intro quote hquote gap gap' hgap hgap' ending t
    obtain ⟨hkind, hnotMem, hne⟩ :
        (quote = '\'' ∨ quote = '"') ∧ quote ∉ v ∧ quote ≠ '\\' := by
      rcases List.mem_pair.1 hquote with rfl | rfl
      · exact ⟨.inl rfl, hsingle, by decide⟩
      · exact ⟨.inr rfl, hdouble, by decide⟩
    -- Nothing in the value ends the quotation or begins an escape.
    let q : Line.Quoted := ⟨gap', quote, v, ending, hgap', hkind, hinline,
      Quotation.cut?_append [] hnotMem hbackslash hne⟩
    have hvalue : (Line.Tail.assigned gap (.quoted q) hgap).value? = some v :=
      congrArg some (Quotation.unescape_of_notMem hbackslash)
    have hfile : t.fromFile x = some (.string (.ofList v)) := by
      have hgiven := fromFile_assigned h hname hk hvalue hdollar
      have hline : name ++ gap ++ '=' :: gap' ++ quote :: v ++ quote :: ending.chars =
          name ++ (Line.Tail.assigned gap (.quoted q) hgap).chars := by
        simp [q, Line.Tail.chars, Line.Written.chars, Line.Quoted.chars]
      rwa [← hline] at hgiven
    exact ⟨hfile, fun hargument hvariable => winner_withLine h hargument hvariable hfile⟩
  · have hgap : Line.Gap [] := ⟨List.forall_mem_nil _, List.forall_mem_nil _⟩
    have hunquoted : ∀ c ∈ (dropGap v).head?, c ≠ '\'' ∧ c ≠ '"' := by
      intro c hc
      have hmem : c ∈ v := (List.dropWhile_sublist isGap).mem (List.mem_of_mem_head? hc)
      exact ⟨fun he => hsingle (he ▸ hmem), fun he => hdouble (he ▸ hmem)⟩
    -- The line is read in any case; the question is what trimming and remarks leave of the value.
    let p : Line.Plain := ⟨v, hinline, hunquoted⟩
    have hread : (trim (beforeRemark v)).Sublist v :=
      (trim_sublist _).trans (beforeRemark_isPrefix v).sublist
    have hgiven : (s.withLine k (name ++ '=' :: v)).fromFile x =
        some (.string (.ofList (trim (beforeRemark v)))) :=
      fromFile_assigned h hname hk (t := .assigned [] (.plain p) hgap) rfl
        fun hmem => hdollar (hread.mem hmem)
    rw [hgiven, Option.some_inj, Value.string.injEq, String.ofList_inj,
      trim_beforeRemark_eq_self_iff, trim_eq_self_iff, beforeRemark_eq_self_iff, and_assoc]

/-- A value that begins like a remark needs quotes. -/
theorem quoting_roundtrip_remark :
    let s (text : String) : Sources := ⟨[], [], some text⟩
    (s "Static_Usage_Log_Level = \" # info \" # note\r\n").winner .logLevel =
        .ok (.string " # info ") ∧
      (s "Static_Usage_Log_Level= # info \r\n").fromFile .logLevel ≠ some (.string " # info ") := by
  intro s
  let k : Line.Context := ⟨[], [(.crlf, .blank [] (by decide))]⟩
  have hs : (s "").options = .standard := Options.ofArguments_eq_standard (by simp [s])
  have hname : lowerCase (.ofList "Static_Usage_Log_Level".toList) =
      Setting.logLevel.variableName := by decide +kernel
  have hk : k.LeavesTo .logLevel (.ofList "Static_Usage_Log_Level".toList) :=
    ⟨List.forall_mem_nil _, List.forall_mem_nil _⟩
  obtain ⟨hquoted, hplain⟩ := quoting_roundtrip hs (v := " # info ".toList) hname (by simp) hk
  constructor
  · exact (hquoted '"' (by decide) [' '] [' '] (by decide) (by decide)
      ⟨[' '], some " note".toList, by decide, by rintro text ⟨⟩; decide⟩).2 rfl rfl
  · intro hvalue
    exact absurd ((hplain.1 hvalue).1 ' ' rfl) (by decide)

end Sources

end StaticAccess
