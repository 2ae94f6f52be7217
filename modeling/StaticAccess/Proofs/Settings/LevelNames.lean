import StaticAccess.Proofs.Text.UpperCase
import StaticAccess.Settings.Basic

/-!
# Texts that name a level

A level is set by a text that spells its name letter by letter, each letter in either case, with any
white space around the name and none inside it. In upper case the dotless i becomes the letter I, so
that it may stand for that letter. Among the letters of all scripts, no other one beyond ASCII may
stand for anything: the long s becomes a letter that no name has, and no name has the letters that a
ligature becomes.

## Main definitions

- `Level.IsSpelledBy`: characters that spell the name of a level.
- `Level.IsNamedBy`: a text that names a level.

## Main results

- `Level.ofText?_eq_some_iff`: a text is taken for the level that it names.
- `Settings.levels_by_name`: which texts set which level, and which changes of a text do not matter.
-/

namespace StaticAccess

namespace Level

/-- Some characters spell the name of a level: each letter in either case, and the letter I also as
a dotless i. -/
def IsSpelledBy (l : Level) (core : List Char) : Prop :=
  List.Forall₂ (fun c letter => c = letter ∨ c = letter.toLower ∨ letter = 'I' ∧ c = 'ı')
    core l.name.toList

/-- A text names a level: it spells the name of the level, perhaps with white space around it. -/
def IsNamedBy (l : Level) (s : String) : Prop :=
  ∃ before core after, s.toList = before ++ core ++ after ∧ Text.Blank before ∧ Text.Blank after ∧
    l.IsSpelledBy core

/-- Characters spell the name of a level if and only if the name is their upper case. -/
theorem isSpelledBy_iff {l : Level} {core : List Char} :
    l.IsSpelledBy core ↔ Text.upperCase core = l.name.toList := by
  have hletters : l.name.toList.all fun c => c.isUpper ∧ c ≠ 'S' := by cases l <;> decide
  -- No name holds the letters of a ligature, or others that stem from a single character.
  have hsingle : ∀ p ∈ Text.expansions, ¬ p.2.map Char.ofNat <:+: l.name.toList := by
    cases l <;> decide +kernel
  refine (Text.upperCase_eq_iff (fun letter hletter => ?_) hsingle).symm
  exact of_decide_eq_true (List.all_eq_true.1 hletters letter hletter)

/-- There is no white space among characters that spell the name of a level. -/
theorem IsSpelledBy.trim_eq {l : Level} {core : List Char} (h : l.IsSpelledBy core) :
    Text.trim core = core := by
  have hname : l.name.toList.all fun c => !Text.isBlank c := by cases l <;> decide
  have hcore : ∀ c ∈ core, Text.isBlank c = false := by
    intro c hc
    by_contra hblank
    rw [Bool.not_eq_false] at hblank
    have hmem := Text.mem_upperCase_of_isBlank hblank hc
    rw [isSpelledBy_iff.1 h] at hmem
    simpa [hblank] using List.all_eq_true.1 hname c hmem
  exact Text.trim_eq_self_iff.2
    ⟨fun c hc => hcore c (List.mem_of_mem_head? hc), fun c hc => hcore c (List.mem_of_getLast? hc)⟩

/-- The level that is found is the one whose name the text is in upper case. -/
theorem ofText?_eq_some_iff_upperCase {s : String} {l : Level} :
    ofText? s = some l ↔ Text.upperCase (Text.trim s.toList) = l.name.toList := by
  constructor
  · intro h
    have hname := List.find?_some h
    exact (of_decide_eq_true hname).symm
  · -- Different levels have different names, so that no other level is found before.
    intro h
    rw [ofText?, h]
    cases l <;> decide

/-- A text is taken for the level that it names. -/
theorem ofText?_eq_some_iff {s : String} {l : Level} : ofText? s = some l ↔ l.IsNamedBy s := by
  rw [ofText?_eq_some_iff_upperCase]
  constructor
  · intro h
    obtain ⟨before, after, hbefore, hafter, hs⟩ := Text.exists_trim s.toList
    exact ⟨before, Text.trim s.toList, after, hs, hbefore, hafter, isSpelledBy_iff.2 h⟩
  · rintro ⟨before, core, after, hs, hbefore, hafter, hcore⟩
    rw [hs, Text.trim_surrounded hbefore hafter, hcore.trim_eq, isSpelledBy_iff.1 hcore]

end Level

namespace Settings

theorem readLevel_eq_ok_iff {s : String} {l : Level} : readLevel s = .ok l ↔ l.IsNamedBy s := by
  rw [← Level.ofText?_eq_some_iff, readLevel]
  cases Level.ofText? s <;> simp

theorem readLevel_eq_error_iff {s : String} :
    readLevel s = .error (.unknownLevel s) ↔ ∀ l : Level, ¬ l.IsNamedBy s := by
  simp only [← Level.ofText?_eq_some_iff, readLevel]
  cases Level.ofText? s <;> simp

/-- A text sets a level if and only if it names the level, and it names one level at most. All other
texts are refused, with the text as it was given. Neither the case of ASCII letters nor white space
at the ends has an influence on which level is set, if any. The name of a level sets the level
itself. -/
theorem levels_by_name :
    (∀ (s : String) (l : Level), readLevel s = .ok l ↔ l.IsNamedBy s) ∧
      (∀ (s : String) (l m : Level), l.IsNamedBy s → m.IsNamedBy s → l = m) ∧
      (∀ s : String, readLevel s = .error (.unknownLevel s) ↔ ∀ l : Level, ¬ l.IsNamedBy s) ∧
      (∀ before core after before' core' after' : String,
        Text.Blank before.toList → Text.Blank after.toList →
        Text.Blank before'.toList → Text.Blank after'.toList →
        Text.asciiLowerCase core = Text.asciiLowerCase core' →
          ∀ l, readLevel (before ++ core ++ after) = .ok l ↔
            readLevel (before' ++ core' ++ after') = .ok l) ∧
      ∀ l : Level, readLevel l.name = .ok l := by
  refine ⟨fun s l => readLevel_eq_ok_iff, fun s l m hl hm => ?_, fun s => readLevel_eq_error_iff,
    ?_, ?_⟩
  · rw [← Level.ofText?_eq_some_iff] at hl hm
    exact Option.some.inj (hl.symm.trans hm)
  · -- A level is found by the upper case of the trimmed text, which is the same for both.
    intro before core after before' core' after' hbefore hafter hbefore' hafter' hcase l
    have hletters : core.toList.map Char.toLower = core'.toList.map Char.toLower :=
      String.ofList_injective hcase
    have hupper := Text.upperCase_trim_congr hbefore hafter hbefore' hafter' hletters
    simp only [readLevel_eq_ok_iff, ← Level.ofText?_eq_some_iff,
      Level.ofText?_eq_some_iff_upperCase, String.toList_append, hupper]
  · intro l
    cases l <;> decide

/-- A dotless i, letters in both cases and white space beyond ASCII; the same text in upper case and
without white space; and the beginning of a name, which is no name. -/
theorem levels_by_name_dotless :
    readLevel "\t\u2003ınFo\u3000" = .ok .info ∧ readLevel "ıNFO" = .ok .info ∧
      Level.info.IsNamedBy "ıNFO" ∧ readLevel "WARN" = .error (.unknownLevel "WARN") ∧
      ∀ l : Level, ¬ l.IsNamedBy "WARN" := by
  obtain ⟨hnamed, -, hrefused, hsame, -⟩ := levels_by_name
  have hinfo : readLevel "ıNFO" = .ok .info := by decide
  have hspaced : readLevel ("\t\u2003" ++ "ınFo" ++ "\u3000") = .ok .info :=
    (hsame _ _ _ "" "ıNFO" "" (by decide) (by decide) (by decide) (by decide) (by decide) _).2 hinfo
  have hwarn : readLevel "WARN" = .error (.unknownLevel "WARN") := by decide
  exact ⟨hspaced, hinfo, (hnamed _ _).1 hinfo, hwarn, (hrefused _).1 hwarn⟩

end Settings

end StaticAccess
