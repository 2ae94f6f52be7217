import Mathlib
import StaticAccess.Text.Characters

/-!
# Trimming and letter case

What trimming takes from a text is white space at its ends, all of it. A change of the case of ASCII
letters goes along with this, as it neither makes nor removes white space.

## Main definitions

- `Blank`: a text that is nothing but white space.
- `blanks`: the code points of white space, as a list.

## Main results

- `exists_trim`: a text is its trimmed form with white space around it.
- `trim_surrounded`: white space around a text does not matter.
- `trim_eq_self_iff`: a text without white space at its ends is its own trimmed form.
- `isBlank_toLower`: the case of a letter does not matter for white space.
-/

namespace StaticAccess.Text

/-! ## Trimming -/

/-- A text that is nothing but white space. -/
def Blank (s : List Char) : Prop := ∀ c ∈ s, isBlank c = true

instance (s : List Char) : Decidable (Blank s) := List.decidableBAll (isBlank · = true) s

/-- The code points of white space. -/
def blanks : List Nat :=
  List.range' 0x09 5 ++ List.range' 0x1C 5 ++ [0x85, 0xA0, 0x1680] ++ List.range' 0x2000 11 ++
    [0x2028, 0x2029, 0x202F, 0x205F, 0x3000]

theorem mem_blanks {c : Char} (h : isBlank c = true) : c.toNat ∈ blanks := by
  simp only [isBlank, Bool.or_eq_true, Bool.and_eq_true, decide_eq_true_eq] at h
  simp only [blanks, List.mem_append, List.mem_range'_1, List.mem_cons, List.not_mem_nil]
  omega

section Trimming

variable {s before after : List Char}

theorem trimLeft_of_blank (h : Blank s) : trimLeft s = [] := List.dropWhile_eq_nil_iff.2 h

theorem trimLeft_append (h : Blank before) (s : List Char) :
    trimLeft (before ++ s) = trimLeft s :=
  List.dropWhile_append_of_pos h

theorem trimRight_append (h : Blank after) (s : List Char) :
    trimRight (s ++ after) = trimRight s := by
  have hreverse : Blank after.reverse := fun c hc => h c (List.mem_reverse.1 hc)
  rw [trimRight, List.reverse_append, List.dropWhile_append_of_pos hreverse, trimRight]

/-- White space around a text does not matter. -/
theorem trim_surrounded (hbefore : Blank before) (hafter : Blank after) (s : List Char) :
    trim (before ++ s ++ after) = trim s := by
  rw [trim, List.append_assoc, trimLeft_append hbefore, trim]
  have happend : trimLeft (s ++ after) =
      if (trimLeft s).isEmpty then trimLeft after else trimLeft s ++ after := List.dropWhile_append
  rw [happend]
  split
  · -- The text is white space, and so is all of it together.
    next hempty => rw [List.isEmpty_iff.1 hempty, trimLeft_of_blank hafter]
  · exact trimRight_append hafter _

/-- A text is its trimmed form with white space around it. -/
theorem exists_trim (s : List Char) :
    ∃ before after, Blank before ∧ Blank after ∧ s = before ++ trim s ++ after := by
  refine ⟨s.takeWhile isBlank, ((trimLeft s).reverse.takeWhile isBlank).reverse, ?_, ?_, ?_⟩
  · exact fun c hc => List.mem_takeWhile_imp hc
  · exact fun c hc => List.mem_takeWhile_imp (List.mem_reverse.1 hc)
  · rw [List.append_assoc, trim, trimRight, ← List.reverse_append,
      List.takeWhile_append_dropWhile, List.reverse_reverse, trimLeft,
      List.takeWhile_append_dropWhile]

/-- A change of letters that keeps white space may come before or after trimming. -/
theorem trim_map {f : Char → Char} (hf : ∀ c, isBlank (f c) = isBlank c) (s : List Char) :
    trim (s.map f) = (trim s).map f := by
  have hcomp : isBlank ∘ f = isBlank := funext hf
  rw [trim, trim, trimRight, trimRight, trimLeft, trimLeft, List.dropWhile_map, hcomp,
    ← List.map_reverse, List.dropWhile_map, hcomp, List.map_reverse]

theorem trimLeft_eq_self_iff : trimLeft s = s ↔ ∀ c ∈ s.head?, isBlank c = false := by
  rw [trimLeft, List.dropWhile_eq_self_iff]
  cases s <;> simp

theorem trimRight_eq_self_iff : trimRight s = s ↔ ∀ c ∈ s.getLast?, isBlank c = false := by
  rw [trimRight, List.reverse_eq_iff, ← trimLeft, trimLeft_eq_self_iff, List.head?_reverse]

theorem trimRight_sublist (s : List Char) : (trimRight s).Sublist s := by
  have hsublist := (List.dropWhile_sublist isBlank (l := s.reverse)).reverse
  rwa [List.reverse_reverse] at hsublist

theorem trim_sublist (s : List Char) : (trim s).Sublist s :=
  (trimRight_sublist _).trans (List.dropWhile_sublist isBlank)

/-- Trimming takes nothing from a text without white space at its ends. -/
theorem trim_eq_self_iff :
    trim s = s ↔ (∀ c ∈ s.head?, isBlank c = false) ∧ ∀ c ∈ s.getLast?, isBlank c = false := by
  rw [← trimLeft_eq_self_iff, ← trimRight_eq_self_iff]
  constructor
  · intro h
    have hlength : s.length ≤ (trimLeft s).length := by
      have hle := (trimRight_sublist (trimLeft s)).length_le
      rwa [← trim, h] at hle
    have hleft : trimLeft s = s := (List.dropWhile_suffix isBlank).eq_of_length_le hlength
    refine ⟨hleft, ?_⟩
    rwa [trim, hleft] at h
  · rintro ⟨hleft, hright⟩
    rw [trim, hleft, hright]

end Trimming

/-! ## Letter case -/

theorem toNat_of_isUpper {c : Char} (h : c.isUpper = true) : 65 ≤ c.toNat ∧ c.toNat ≤ 90 := by
  simpa [Char.isUpper, UInt32.le_iff_toNat_le] using h

theorem toNat_toLower {c : Char} (h : c.isUpper = true) : c.toLower.toNat = c.toNat + 32 := by
  have hrange := toNat_of_isUpper h
  have hvalid : (c.toNat + 32).isValidChar := .inl (by omega)
  rw [Char.toLower_eq_of_isUpper h, Char.toNat_ofNat, if_pos hvalid]

/-- The case of a letter does not matter for white space. -/
theorem isBlank_toLower (c : Char) : isBlank c.toLower = isBlank c := by
  by_cases h : c.isUpper = true
  · -- There is no white space among the letters.
    have hrange := toNat_of_isUpper h
    have hlower := toNat_toLower h
    grind [isBlank]
  · rw [Char.toLower_eq_of_not_isUpper h]

end StaticAccess.Text
