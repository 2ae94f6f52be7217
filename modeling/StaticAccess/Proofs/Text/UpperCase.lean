import StaticAccess.Proofs.Text.Blank
import StaticAccess.Text.UpperCase

/-!
# Characters with a given upper case

Among the letters of all scripts, few have an upper case in ASCII: the ASCII letters themselves, the
dotless i and the long s, and those ligatures and letters with marks that become several characters.
A word of ASCII letters that holds none of these characters in a row is therefore the upper case of
those texts only that spell it letter by letter.

## Main results

- `upperLetter_eq_singleton_iff`: the characters whose upper case is a given letter.
- `upperCase_eq_iff_forall₂`, `upperCase_eq_iff`: the texts whose upper case is a given word.
- `mem_upperCase_of_isBlank`: upper case keeps white space.
- `upperCase_trim_congr`: letter case and surrounding white space do not show in the end.
-/

namespace StaticAccess.Text

/-! ## Letters -/

/-- A letter that becomes several characters is listed with them. -/
theorem mem_expansions {c : Char} {image : List Nat} (h : expansion? c = some image) :
    (c.toNat, image) ∈ expansions := by
  obtain ⟨p, hp, rfl⟩ := Option.map_eq_some_iff.1 h
  have hfound := List.find?_some hp
  have hcode : p.1 = c.toNat := of_decide_eq_true hfound
  have hmem := List.mem_of_find?_eq_some hp
  rwa [← hcode]

/-- A letter that becomes several characters becomes no single one. -/
theorem upperLetter_ne_singleton {c : Char} {image : List Nat} (h : expansion? c = some image)
    (letter : Char) : upperLetter c ≠ [letter] := by
  have hall : ∀ p ∈ expansions, p.2.length ≠ 1 := by decide
  have hlength := hall _ (mem_expansions h)
  intro hletter
  rw [upperLetter, h] at hletter
  exact hlength (by simpa using congrArg List.length hletter)

/-- The code points that are exchanged for the one of a capital letter in ASCII: the letter itself,
the one in lower case, and for two letters one more. -/
theorem exchanged_upperRuns_eq {n k : Nat} (hk : k ≤ 0x5A) (h : exchanged n upperRuns = k) :
    n = k ∨ n = k + 0x20 ∨ n = 0x131 ∧ k = 0x49 ∨ n = 0x17F ∧ k = 0x53 := by
  -- Only three runs have images in ASCII.
  have hruns : ∀ r ∈ upperRuns, 0x5A < r.image ∨ r = ⟨0x61, 0x7A, 1, 0x41⟩ ∨
      r = ⟨0x131, 0x131, 1, 0x49⟩ ∨ r = ⟨0x17F, 0x17F, 1, 0x53⟩ := by decide +kernel
  obtain hsame | ⟨r, hr, hfirst, hlast, himage⟩ := exchanged_cases n upperRuns
  · exact .inl (hsame.symm.trans h)
  · rw [h] at himage
    obtain hbeyond | rfl | rfl | rfl := hruns r hr
    · omega
    all_goals
      simp only at hfirst hlast himage
      omega

/-- The characters whose upper case is a given capital letter in ASCII: the letter in either case,
for the letter I the dotless i too, and for the letter S the long s. -/
theorem upperLetter_eq_singleton_iff {letter : Char} (h : letter.isUpper = true) {c : Char} :
    upperLetter c = [letter] ↔
      c = letter ∨ c = letter.toLower ∨ letter = 'I' ∧ c = 'ı' ∨ letter = 'S' ∧ c = 'ſ' := by
  have hrange := toNat_of_isUpper h
  have hlower := toNat_toLower h
  constructor
  · intro hc
    cases hexpansion : expansion? c with
    | some image => exact absurd hc (upperLetter_ne_singleton hexpansion letter)
    | none =>
      rw [upperLetter, hexpansion] at hc
      -- A number that is no code point would become the character of number 0.
      have hcode : exchanged c.toNat upperRuns = letter.toNat := by
        have hvalid := congrArg Char.toNat (List.singleton_inj.1 hc)
        rw [Char.toNat_ofNat] at hvalid
        split at hvalid <;> omega
      rw [← Char.toNat_inj, ← Char.toNat_inj (d := letter.toLower), hlower,
        ← Char.toNat_inj (d := 'I'), ← Char.toNat_inj (d := 'ı'), ← Char.toNat_inj (d := 'S'),
        ← Char.toNat_inj (d := 'ſ')]
      obtain hsame | hcase | hdotless | hlong := exchanged_upperRuns_eq hrange.2 hcode
      · exact .inl hsame
      · exact .inr (.inl hcase)
      · exact .inr (.inr (.inl hdotless.symm))
      · exact .inr (.inr (.inr hlong.symm))
  · have hupper : letter.toUpper = letter :=
      Char.toUpper_eq_of_not_isLower (Char.not_isLower_of_isUpper h)
    rintro (rfl | rfl | ⟨rfl, rfl⟩ | ⟨rfl, rfl⟩)
    · rw [upperLetter_of_lt (by omega), hupper]
    · rw [upperLetter_of_lt (by omega), Char.toUpper_toLower_eq_toUpper, hupper]
    · decide
    · decide

/-- White space stays as it is in upper case. -/
theorem upperLetter_of_isBlank {c : Char} (h : isBlank c = true) : upperLetter c = [c] := by
  have hall : ∀ n ∈ blanks, exchanged n upperRuns = n ∧ ∀ p ∈ expansions, p.1 ≠ n := by
    decide +kernel
  obtain ⟨hsame, hsingle⟩ := hall _ (mem_blanks h)
  have hnone : expansion? c = none := by
    rw [expansion?, Option.map_eq_none_iff, List.find?_eq_none]
    exact fun p hp hcode => hsingle p hp (of_decide_eq_true hcode)
  rw [upperLetter, hnone, hsame, Char.ofNat_toNat]

/-- The case of an ASCII letter does not show in its upper case. -/
theorem upperLetter_toLower (c : Char) : upperLetter c.toLower = upperLetter c := by
  by_cases h : c.isUpper = true
  · have hrange := toNat_of_isUpper h
    have hlower := toNat_toLower h
    rw [upperLetter_of_lt (by omega), upperLetter_of_lt (by omega),
      Char.toUpper_toLower_eq_toUpper]
  · rw [Char.toLower_eq_of_not_isUpper h]

/-! ## Words -/

/-- If none of the letters that become several characters has them in a word, then this word is the
upper case of those texts only that have one character for each letter. -/
theorem upperCase_eq_iff_forall₂ {word : List Char}
    (hword : ∀ p ∈ expansions, ¬ p.2.map Char.ofNat <:+: word) {s : List Char} :
    upperCase s = word ↔ List.Forall₂ (fun c letter => upperLetter c = [letter]) s word := by
  induction s generalizing word with
  | nil => simp [upperCase, eq_comm]
  | cons c s ih =>
    rw [upperCase, List.flatMap_cons, ← upperCase]
    cases hexpansion : expansion? c with
    | some image =>
      -- Neither side can hold: the word has no such characters in a row.
      constructor
      · rintro rfl
        refine absurd ?_ (hword _ (mem_expansions hexpansion))
        have himage : upperLetter c = image.map .ofNat := by rw [upperLetter, hexpansion]
        rw [himage]
        exact (List.prefix_append _ _).isInfix
      · intro hforall
        obtain ⟨letter, rest, hletter, -, rfl⟩ := List.forall₂_cons_left_iff.1 hforall
        exact absurd hletter (upperLetter_ne_singleton hexpansion letter)
    | none =>
      -- What holds of the word holds of its rest.
      obtain ⟨first, hfirst⟩ : ∃ first, upperLetter c = [first] :=
        ⟨_, by rw [upperLetter, hexpansion]⟩
      rw [hfirst, List.singleton_append, List.forall₂_cons_left_iff]
      constructor
      · rintro rfl
        refine ⟨first, upperCase s, hfirst, (ih fun p hp hinfix => hword p hp ?_).1 rfl, rfl⟩
        exact hinfix.trans (List.suffix_cons _ _).isInfix
      · rintro ⟨letter, rest, hletter, hrest, rfl⟩
        obtain rfl := List.singleton_inj.1 (hfirst.symm.trans hletter)
        rw [(ih fun p hp hinfix => hword p hp ?_).2 hrest]
        exact hinfix.trans (List.suffix_cons _ _).isInfix

/-- The texts whose upper case is a given word without the letter S, letter by letter. -/
theorem upperCase_eq_iff {word : List Char}
    (hletters : ∀ letter ∈ word, letter.isUpper = true ∧ letter ≠ 'S')
    (hword : ∀ p ∈ expansions, ¬ p.2.map Char.ofNat <:+: word) {s : List Char} :
    upperCase s = word ↔ List.Forall₂
      (fun c letter => c = letter ∨ c = letter.toLower ∨ letter = 'I' ∧ c = 'ı') s word := by
  rw [upperCase_eq_iff_forall₂ hword]
  clear hword
  induction word generalizing s with
  | nil => simp
  | cons letter word ih =>
    obtain ⟨⟨hletter, hlong⟩, hletters⟩ := List.forall_mem_cons.1 hletters
    cases s with
    | nil => simp
    | cons c s =>
      rw [List.forall₂_cons, List.forall₂_cons, upperLetter_eq_singleton_iff hletter, ih hletters]
      simp [hlong]

/-- White space in a text stands in its upper case too. -/
theorem mem_upperCase_of_isBlank {c : Char} (hc : isBlank c = true) {s : List Char} (h : c ∈ s) :
    c ∈ upperCase s := by
  refine List.mem_flatMap.2 ⟨c, h, ?_⟩
  rw [upperLetter_of_isBlank hc]
  exact List.mem_singleton_self c

/-- Neither the case of the letters of a text nor white space around it shows in the end. -/
theorem upperCase_trim_congr {s t before after before' after' : List Char} (hbefore : Blank before)
    (hafter : Blank after) (hbefore' : Blank before') (hafter' : Blank after')
    (h : s.map Char.toLower = t.map Char.toLower) :
    upperCase (trim (before ++ s ++ after)) = upperCase (trim (before' ++ t ++ after')) := by
  have hlower (u : List Char) : upperCase (trim (u.map Char.toLower)) = upperCase (trim u) := by
    rw [trim_map isBlank_toLower, upperCase, List.flatMap_map, upperCase]
    exact List.flatMap_congr fun c _ => upperLetter_toLower c
  rw [trim_surrounded hbefore hafter, trim_surrounded hbefore' hafter', ← hlower s, h, hlower t]

end StaticAccess.Text
