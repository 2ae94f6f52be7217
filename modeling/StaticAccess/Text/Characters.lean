/-!
# Characters

What classes of characters and changes of letter case are made of. Classes are given by ranges of
code points, and changes of letter case by runs of letters whose images lie at the same distances as
the letters. White space is the class that counts as such around a level name and inside an
assignment line. The words for flags are written in ASCII, and so is their lower case.

## Main definitions

- `isBlank`: white space.
- `trimLeft`, `trimRight`, `trim`: removal of white space at the ends.
- `asciiLowerCase`: ASCII letters in lower case.
- `inRanges`: whether a code point lies in one of some ranges.
- `LetterRun`: letters in a row with their images.
- `exchanged`: the code point for which a code point is exchanged.

## Main results

- `exchanged_cases`: what is exchanged is a letter of a run.
-/

namespace StaticAccess.Text

/-- White space: the ASCII and Latin-1 controls and separators that count as such, and all
space, line and paragraph separators beyond them. -/
def isBlank (c : Char) : Bool :=
  let n := c.toNat
  (0x09 ≤ n && n ≤ 0x0D) || (0x1C ≤ n && n ≤ 0x20) || n = 0x85 || n = 0xA0 || n = 0x1680 ||
    (0x2000 ≤ n && n ≤ 0x200A) || n = 0x2028 || n = 0x2029 || n = 0x202F || n = 0x205F ||
    n = 0x3000

/-- A text without the white space at its beginning. -/
def trimLeft (s : List Char) : List Char := s.dropWhile isBlank

/-- A text without the white space at its end. -/
def trimRight (s : List Char) : List Char := (s.reverse.dropWhile isBlank).reverse

/-- A text without the white space at its ends. -/
def trim (s : List Char) : List Char := trimRight (trimLeft s)

/-- A text with its ASCII letters in lower case, the form in which words for flags are compared. -/
def asciiLowerCase (s : String) : String := String.ofList (s.toList.map Char.toLower)

/-- Whether a code point lies in one of some ascending ranges, with both ends included. -/
def inRanges (n : Nat) : List (Nat × Nat) → Bool
  | [] => false
  | (lo, hi) :: ranges => if n < lo then false else n ≤ hi || inRanges n ranges

/-- Letters at equal distances, and their images at the same distances. -/
structure LetterRun where
  /-- The code point of the first letter. -/
  first : Nat
  /-- The code point of the last letter. -/
  last : Nat
  /-- The distance from one letter to the next. -/
  step : Nat
  /-- The code point of the image of the first letter. -/
  image : Nat
  deriving DecidableEq, Repr

/-- The code point for which a code point is exchanged, according to some ascending runs. -/
def exchanged (n : Nat) : List LetterRun → Nat
  | [] => n
  | r :: runs =>
    if n < r.first then n
    else if n ≤ r.last ∧ (n - r.first) % r.step = 0 then r.image + (n - r.first)
    else exchanged n runs

/-- A code point stays as it is, or it is exchanged as a letter of one of the runs. -/
theorem exchanged_cases (n : Nat) (runs : List LetterRun) :
    exchanged n runs = n ∨
      ∃ r ∈ runs, r.first ≤ n ∧ n ≤ r.last ∧ exchanged n runs = r.image + (n - r.first) := by
  induction runs with
  | nil => exact .inl rfl
  | cons r runs ih =>
    rw [exchanged]
    split
    · exact .inl rfl
    · next hfirst =>
      split
      · next hlast =>
        exact .inr ⟨r, List.mem_cons_self, Nat.le_of_not_lt hfirst, hlast.1, rfl⟩
      · obtain hsame | ⟨s, hs, hother⟩ := ih
        · exact .inl hsame
        · exact .inr ⟨s, List.mem_cons_of_mem r hs, hother⟩

end StaticAccess.Text
