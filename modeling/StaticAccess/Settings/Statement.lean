import StaticAccess.Text.Characters
import StaticAccess.Text.Quotation

/-!
# Statements of assignment files

The text of an assignment file is read statement by statement. A statement assigns a value to a
name, or is a remark. White space, lines without anything else included, may lead a statement. The
word `export` may precede the name, which may stand in single quotes, and white space may surround
the equality sign that follows. A value in quotes may have escapes and reach over several lines;
any other value ends with its line and is trimmed. A name without an equality sign is assigned
nothing.

A remark runs from a number sign to the end of the line. Inside a line it has to follow white
space, a closing quote or a name. White space behind the equality sign counts, so that a value may
be nothing but a remark and thus empty.

Where no statement can be read, the rest of the line is skipped.

This models the reader of `.env` files up to the values as they are written. References in them are
left to `Reference`.

## Main definitions

- `Statement`: a statement, or a place where none could be read.
- `Statement.read`: the statement that leads a text, and what follows it.
- `Statement.all`: the statements of a text, each with the rest of the text that it leads.

## Main results

- `Statement.length_read_lt`: reading a statement uses up some of the text.
-/

namespace StaticAccess

/-- A statement, or a place where none could be read. -/
inductive Statement where
  /-- A remark on a line of its own. -/
  | remark
  /-- A name, with the value that is assigned to it, if any. -/
  | assignment (name : String) (value : Option String)
  /-- What cannot be read. -/
  | malformed
  deriving DecidableEq, Repr

namespace Statement

open Text

/-- White space that does not end a line. -/
def isGap (c : Char) : Bool := c ≠ '\n' && isBlank c

/-- A text without the white space that leads its first line. -/
def dropGap (text : List Char) : List Char := text.dropWhile isGap

/-- A text without its first line. -/
def dropLine (text : List Char) : List Char := (text.dropWhile (· ≠ '\n')).drop 1

/-- A text without a leading word `export` and the white space that has to follow it. -/
def dropExport (text : List Char) : List Char :=
  if "export".toList.isPrefixOf text then
    match text.drop "export".length with
    | c :: rest => if isGap c then dropGap rest else text
    | [] => text
  else text

/-- Whether a character may occur in a name that stands without quotes. -/
def isNameChar (c : Char) : Bool := c ≠ '=' && c ≠ '#' && !isBlank c

/-- The name that leads a text, and what follows it. -/
def name? : List Char → Option (List Char × List Char)
  | '\'' :: text =>
    match text.takeWhile (· ≠ '\''), text.dropWhile (· ≠ '\'') with
    | c :: name, _ :: rest => some (c :: name, rest)
    | _, _ => none
  | text =>
    match text.takeWhile isNameChar with
    | [] => none
    | c :: name => some (c :: name, text.dropWhile isNameChar)

/-- The part of an unquoted value before a remark, which has to follow white space. -/
def beforeRemark : List Char → List Char
  | [] => []
  | c :: value => if isBlank c && value.head? = some '#' then [] else c :: beforeRemark value

/-- The value that leads the text behind an equality sign, and what follows it. -/
def value? (text : List Char) : Option (List Char × List Char) :=
  match dropGap text with
  | '\'' :: rest => (Quotation.cut? '\'' rest).map fun p => (Quotation.unescape '\'' p.1, p.2)
  | '"' :: rest => (Quotation.cut? '"' rest).map fun p => (Quotation.unescape '"' p.1, p.2)
  | _ => some (trim (beforeRemark (text.takeWhile (· ≠ '\n'))), text.dropWhile (· ≠ '\n'))

/-- What is assigned to the name before a text, and what follows it. -/
def assigned? : List Char → Option (Option (List Char) × List Char)
  | '=' :: text => (value? text).map fun p => (some p.1, p.2)
  | text => some (none, text)

/-- The text behind the end of a line, if nothing but white space and a remark is left of the
line. -/
def nextLine? (text : List Char) : Option (List Char) :=
  match dropGap text with
  | [] => some []
  | '\n' :: rest => some rest
  | '#' :: rest => some (dropLine rest)
  | _ => none

/-- The statement that leads a text, and what follows it. -/
def read (text : List Char) : Statement × List Char :=
  if (dropExport text).head? = some '#' then (.remark, dropLine text)
  else
    match name? (dropExport text) with
    | none => (.malformed, dropLine text)
    | some (name, rest) =>
      match assigned? (dropGap rest) with
      | none => (.malformed, dropLine rest)
      | some (value, rest) =>
        match nextLine? rest with
        | none => (.malformed, dropLine rest)
        | some rest => (.assignment (.ofList name) (value.map .ofList), rest)

theorem length_dropWhile_le {α : Type} (p : α → Bool) (l : List α) :
    (l.dropWhile p).length ≤ l.length :=
  (List.dropWhile_sublist p).length_le

theorem length_dropLine_le (text : List Char) : (dropLine text).length ≤ text.length := by
  have := length_dropWhile_le (· ≠ '\n') text
  simp only [dropLine, List.length_drop]
  omega

theorem length_dropLine_lt {text : List Char} (h : text ≠ []) :
    (dropLine text).length < text.length := by
  have := length_dropWhile_le (· ≠ '\n') text
  have := List.length_pos_iff.2 h
  simp only [dropLine, List.length_drop]
  omega

theorem length_dropExport_le (text : List Char) : (dropExport text).length ≤ text.length := by
  unfold dropExport
  split
  · split
    · next c rest h =>
      split
      · have hl := congrArg List.length h
        have := length_dropWhile_le isGap rest
        simp only [List.length_drop, List.length_cons] at hl
        simp only [dropGap]
        omega
      · exact Nat.le_refl _
    · exact Nat.le_refl _
  · exact Nat.le_refl _

theorem length_lt_of_name? {text name rest : List Char} (h : name? text = some (name, rest)) :
    rest.length < text.length := by
  unfold name? at h
  split at h
  · next text =>
    split at h
    · next hd =>
      cases h
      have hl := length_dropWhile_le (· ≠ '\'') text
      rw [hd] at hl
      simp only [List.length_cons] at hl ⊢
      omega
    · cases h
  · split at h
    · cases h
    · next ht =>
      cases h
      have hl := congrArg List.length (List.takeWhile_append_dropWhile (p := isNameChar)
        (l := text))
      rw [ht] at hl
      simp only [List.length_append, List.length_cons] at hl
      omega

theorem length_le_of_value? {text value rest : List Char} (h : value? text = some (value, rest)) :
    rest.length ≤ text.length := by
  have hg := length_dropWhile_le isGap text
  unfold value? at h
  split at h
  · next ht =>
    obtain ⟨p, hp, he⟩ := Option.map_eq_some_iff.1 h
    cases he
    have := Quotation.length_lt_of_cut? hp
    rw [dropGap] at ht
    rw [ht, List.length_cons] at hg
    omega
  · next ht =>
    obtain ⟨p, hp, he⟩ := Option.map_eq_some_iff.1 h
    cases he
    have := Quotation.length_lt_of_cut? hp
    rw [dropGap] at ht
    rw [ht, List.length_cons] at hg
    omega
  · cases h
    exact length_dropWhile_le _ _

theorem length_le_of_assigned? {text rest : List Char} {value : Option (List Char)}
    (h : assigned? text = some (value, rest)) : rest.length ≤ text.length := by
  unfold assigned? at h
  split at h
  · obtain ⟨p, hp, he⟩ := Option.map_eq_some_iff.1 h
    cases he
    exact Nat.le_succ_of_le (length_le_of_value? hp)
  · cases h
    exact Nat.le_refl _

theorem length_le_of_nextLine? {text rest : List Char} (h : nextLine? text = some rest) :
    rest.length ≤ text.length := by
  have hg := length_dropWhile_le isGap text
  rw [nextLine?, dropGap] at h
  split at h
  · cases h
    exact Nat.zero_le _
  · next ht =>
    cases h
    rw [ht, List.length_cons] at hg
    omega
  · next rest' ht =>
    cases h
    have := length_dropLine_le rest'
    rw [ht, List.length_cons] at hg
    omega
  · cases h

/-- Reading a statement uses up some of the text. -/
theorem length_read_lt {text : List Char} (h : text ≠ []) :
    (read text).2.length < text.length := by
  unfold read
  split
  · exact length_dropLine_lt h
  · split
    · exact length_dropLine_lt h
    · next name rest hn =>
      have h₁ := length_lt_of_name? hn
      have h₂ := length_dropExport_le text
      have h₃ := length_dropWhile_le isGap rest
      split
      · have := length_dropLine_le rest
        simp only
        omega
      · next value rest' ha =>
        have h₄ := length_le_of_assigned? ha
        rw [dropGap] at h₄
        split
        · have := length_dropLine_le rest'
          simp only
          omega
        · next hl =>
          have := length_le_of_nextLine? hl
          simp only
          omega

/-- The statements of a text, each with the rest of the text that it leads. -/
def all (text : List Char) : List (List Char × Statement) :=
  match _h : trimLeft text with
  | [] => []
  | c :: rest => (text, (read (c :: rest)).1) :: all (read (c :: rest)).2
termination_by text.length
decreasing_by
  have h₁ := length_read_lt (List.cons_ne_nil c rest)
  have h₂ := length_dropWhile_le isBlank text
  rw [trimLeft] at _h
  rw [_h] at h₂
  omega

end Statement

end StaticAccess
