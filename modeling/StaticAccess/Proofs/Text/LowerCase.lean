import StaticAccess.Proofs.Text.Blank
import StaticAccess.Text.LowerCase

/-!
# Characters without case

A character that lower case leaves as it is can be found in the lower case of every text that it
occurs in. White space is left, and so are the ASCII characters other than capital letters.

## Main definitions

- `Unchanged`: lower case leaves a character as it is.

## Main results

- `unchanged_of_lt`, `unchanged_of_isBlank`: ASCII characters and white space that are left.
- `mem_lowerCase`: what is left of a text is in its lower case.
-/

namespace StaticAccess.Text

/-- A character that stays as it is in lower case. -/
def Unchanged (c : Char) : Prop := ∀ before after, lowerLetter before c after = [c]

theorem unchanged_of_lt {c : Char} (h : c.toNat < 128) (hc : c.isUpper = false) : Unchanged c := by
  intro before after
  rw [lowerLetter_of_lt h, Char.toLower_eq_of_not_isUpper (by simp [hc])]

theorem unchanged_of_exchanged {c : Char} (hsigma : c ≠ 'Σ') (hdot : c ≠ 'İ')
    (h : exchanged c.toNat lowerRuns = c.toNat) : Unchanged c := by
  intro before after
  rw [lowerLetter, if_neg hsigma, if_neg hdot, h, Char.ofNat_toNat]

/-- White space stays as it is in lower case. -/
theorem unchanged_of_isBlank {c : Char} (h : isBlank c = true) : Unchanged c := by
  -- White space is a short list of code points, none of which begins a run of letters.
  have hall : ∀ n ∈ blanks, exchanged n lowerRuns = n := by decide +kernel
  refine unchanged_of_exchanged ?_ ?_ ?_
  · rintro rfl
    cases h
  · rintro rfl
    cases h
  · exact hall _ (mem_blanks h)

theorem mem_lowerRest {c : Char} (hc : Unchanged c) {text : List Char} (h : c ∈ text)
    (before : List Char) : c ∈ lowerRest before text := by
  induction text generalizing before with
  | nil => cases h
  | cons d text ih =>
    rw [lowerRest]
    rcases List.mem_cons.1 h with rfl | h
    · rw [hc]
      exact List.mem_append_left _ List.mem_cons_self
    · exact List.mem_append_right _ (ih h _)

/-- What stays as it is in lower case is found in the lower case of a text. -/
theorem mem_lowerCase {c : Char} (hc : Unchanged c) {text : List Char} (h : c ∈ text) :
    c ∈ (lowerCase (.ofList text)).toList := by
  rw [lowerCase, String.toList_ofList, String.toList_ofList]
  exact mem_lowerRest hc h []

end StaticAccess.Text
