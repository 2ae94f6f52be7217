import Mathlib.Algebra.Ring.Parity
import Mathlib.Data.List.DropRight
import StaticAccess.Text.Quotation
import StaticAccess.Text.Quoted

/-!
# Quoted text loses nothing

The quoted form of a text is put together from pieces, one for each character: the character itself,
or an escape of one of several widths. No piece has a character that is not printable, no piece
ends the quotation, and every piece tells where it ends and which character it stands for. These
facts are shown once for a piece, whatever follows it, and carry over to a whole text.

## Main definitions

- `lineBreaks`: the characters that end a line.
- `Quotation.backslashes`: the number of backslashes at the end of a text.
- `Quoted.IsQuote`: the quotes that may enclose a text.
- `Quoted.Piece`: how a character is written between quotes.

## Main results

- `Quotation.odd_backslashes`: inside a quotation, quotes stand behind backslashes.
- `Quoted.isPrintable_encode`: quoted texts are printable.
- `Quoted.cut?_flatMap_escape`: the quotation ends where the text does.
- `Quoted.decode_encode`: a text is read back from its quoted form.
- `quoted_injective`: different strings have different quoted forms.
-/

namespace StaticAccess.Text

/-- The characters that end a line. -/
def lineBreaks : List Char :=
  ['\n', '\r', '\x0b', '\x0c', '\x1c', '\x1d', '\x1e', '\u0085', '\u2028', '\u2029']

/-- No character that ends a line is printable. -/
theorem notMem_lineBreaks {c : Char} (h : isPrintable c = true) : c ∉ lineBreaks := by
  intro hc
  have hnone : (lineBreaks.all fun d => !isPrintable d) = true := by decide +kernel
  simpa [h] using List.all_eq_true.1 hnone c hc

/-! ## Quotes behind backslashes -/

namespace Quotation

/-- The number of backslashes at the end of a text. -/
def backslashes (text : List Char) : Nat := (text.rtakeWhile fun c => c = '\\').length

/-- The backslashes at the end of a text may go on before the text if it has no other characters. -/
theorem backslashes_append (before text : List Char) :
    backslashes (before ++ text) = backslashes text ∨
      backslashes (before ++ text) = backslashes before + backslashes text := by
  simp only [backslashes, List.rtakeWhile, List.reverse_append, List.takeWhile_append,
    List.length_reverse]
  split_ifs with hall
  · right
    rw [List.length_append, hall, List.length_reverse, Nat.add_comm]
  · left
    rfl

/-- Inside a quotation, every quote stands behind an odd number of backslashes. -/
theorem odd_backslashes {quote : Char} {text inner rest : List Char} (hn : quote ≠ '\\')
    (h : cut? quote text = some (inner, rest)) {before after : List Char}
    (hinner : inner = before ++ quote :: after) : Odd (backslashes before) := by
  fun_induction cut? quote text generalizing inner rest before with
  | case1 => cases h
  | case2 c text ih =>
    -- A backslash and the character that it takes into the quotation.
    obtain ⟨⟨inner, rest⟩, hcut, he⟩ := Option.map_eq_some_iff.1 h
    obtain ⟨rfl, rfl⟩ := Prod.mk.inj he
    rcases before with _ | ⟨b, _ | ⟨d, before⟩⟩
    · exact absurd (List.cons.inj hinner).1.symm hn
    · obtain rfl : '\\' = b := (List.cons.inj hinner).1
      decide
    · obtain ⟨rfl, hsecond⟩ := List.cons.inj hinner
      obtain ⟨rfl, htail⟩ := List.cons.inj hsecond
      have hodd : Odd (backslashes before) := ih hcut htail
      -- The run of backslashes may reach back into the pair, but keeps its parity if it does.
      have hpair : Even (backslashes ['\\', c]) := by
        by_cases hc : c = '\\' <;> simp [backslashes, List.rtakeWhile, hc]
      rcases backslashes_append ['\\', c] before with hsame | hmore
      · exact hsame ▸ hodd
      · exact hmore ▸ hpair.add_odd hodd
  | case3 text =>
    obtain ⟨rfl, -⟩ := Prod.mk.inj (Option.some.inj h)
    simp at hinner
  | case4 c text hpair hquote ih =>
    obtain ⟨⟨inner, rest⟩, hcut, he⟩ := Option.map_eq_some_iff.1 h
    obtain ⟨rfl, rfl⟩ := Prod.mk.inj he
    cases before with
    | nil => exact absurd (List.cons.inj hinner).1 hquote
    | cons b before =>
      obtain ⟨rfl, htail⟩ := List.cons.inj hinner
      have hodd : Odd (backslashes before) := ih hcut htail
      -- A backslash would take the next character with it, and there is one.
      have hc : c ≠ '\\' := by
        rintro rfl
        cases text with
        | nil => cases hcut
        | cons d text => exact hpair d text rfl rfl
      have hnone : backslashes [c] = 0 := by simp [backslashes, List.rtakeWhile, hc]
      have hsame : backslashes (c :: before) = backslashes before := by
        rcases backslashes_append [c] before with hsame | hmore
        · exact hsame
        · exact hmore.trans (by rw [hnone, Nat.zero_add])
      exact hsame ▸ hodd

end Quotation

namespace Quoted

/-! ## Enclosing quotes -/

/-- One of the quotes that may enclose a text. -/
def IsQuote (quote : Char) : Prop := quote = '\'' ∨ quote = '"'

theorem isQuote_enclosing (s : List Char) : IsQuote (enclosing s) := by
  rw [enclosing]
  split_ifs
  · exact .inr rfl
  · exact .inl rfl

namespace IsQuote

variable {quote : Char} (hq : IsQuote quote)
include hq

theorem ne_backslash : quote ≠ '\\' := by rcases hq with rfl | rfl <;> decide

theorem isPrintable : Text.isPrintable quote = true := by rcases hq with rfl | rfl <;> decide

end IsQuote

/-! ## Hexadecimal digits -/

theorem digitValue?_digitChar {d : Nat} (h : d < 16) : digitValue? d.digitChar = some d := by
  have hall : ∀ d < 16, digitValue? d.digitChar = some d := by decide
  exact hall d h

/-- Digits are read from left to right. -/
theorem hexValue?_append (n : Nat) (high low : List Char) :
    hexValue? n (high ++ low) = (hexValue? n high).bind fun m => hexValue? m low := by
  induction high generalizing n with
  | nil => rfl
  | cons c high ih =>
    rw [List.cons_append, hexValue?, hexValue?, Option.bind_assoc]
    exact congrArg _ (funext fun d => ih _)

/-- A number is read back from its digits if there are enough of them. -/
theorem hexValue?_hexDigits {width n : Nat} (h : n < 16 ^ width) :
    hexValue? 0 (hexDigits width n) = some n := by
  induction width generalizing n with
  | zero =>
    obtain rfl : n = 0 := by simpa using h
    rfl
  | succ width ih =>
    have hhigh : n / 16 < 16 ^ width := Nat.div_lt_of_lt_mul (by rwa [← Nat.pow_succ'])
    have hlow : n % 16 < 16 := Nat.mod_lt n (by decide)
    rw [hexDigits, hexValue?_append, ih hhigh, Option.bind_some, hexValue?,
      digitValue?_digitChar hlow, Option.bind_some, hexValue?, Nat.div_add_mod]

theorem charOfHex?_hexDigits {width : Nat} {c : Char} (h : c.toNat < 16 ^ width) :
    charOfHex? (hexDigits width c.toNat) = some c := by
  rw [charOfHex?, hexValue?_hexDigits h, Option.map_some, Char.ofNat_toNat]

theorem length_hexDigits (width n : Nat) : (hexDigits width n).length = width := by
  induction width generalizing n with
  | zero => rfl
  | succ width ih => rw [hexDigits, List.length_append, ih, List.length_singleton]

/-! ## Pieces -/

/-- The letters that stand for a character behind a backslash. -/
def letters : List (Char × Char) := [('n', '\n'), ('r', '\r'), ('t', '\t')]

/-- The letters that announce digits behind a backslash, with the numbers of these. -/
def widths : List (Char × Nat) := [('x', 2), ('u', 4), ('U', 8)]

/-- The characters of which escapes are made behind the backslash. -/
def escapeChars : List Char := "nrtxuU0123456789abcdef".toList

theorem letter_mem_escapeChars {l c : Char} (h : (l, c) ∈ letters) : l ∈ escapeChars := by
  have hall : (letters.all fun p => p.1 ∈ escapeChars) = true := by decide
  simpa using List.all_eq_true.1 hall _ h

theorem width_mem_escapeChars {l : Char} {width : Nat} (h : (l, width) ∈ widths) :
    l ∈ escapeChars := by
  have hall : (widths.all fun p => p.1 ∈ escapeChars) = true := by decide
  simpa using List.all_eq_true.1 hall _ h

theorem hexDigits_subset (width n : Nat) : hexDigits width n ⊆ escapeChars := by
  induction width generalizing n with
  | zero => exact List.nil_subset _
  | succ width ih =>
    have hall : ∀ d < 16, d.digitChar ∈ escapeChars := by decide
    have hlow : n % 16 < 16 := Nat.mod_lt n (by decide)
    rw [hexDigits, List.append_subset, List.cons_subset]
    exact ⟨ih _, hall _ hlow, List.nil_subset _⟩

/-- What escapes are made of needs no escape itself. -/
theorem printable_of_mem_escapeChars {c : Char} (h : c ∈ escapeChars) :
    isPrintable c = true ∧ c ≠ '\\' ∧ c ≠ '\'' ∧ c ≠ '"' := by
  have hall : (escapeChars.all fun d =>
      isPrintable d && d ≠ '\\' && d ≠ '\'' && d ≠ '"') = true := by decide
  simpa [and_assoc] using List.all_eq_true.1 hall c h

/-- How a character is written between quotes of a kind. -/
inductive Piece (quote c : Char) : List Char → Prop
  /-- A quote of the kind, and a backslash, stand behind a backslash. -/
  | literal (h : c = quote ∨ c = '\\') : Piece quote c ['\\', c]
  /-- A letter stands for a character that has one. -/
  | letter {l : Char} (h : (l, c) ∈ letters) : Piece quote c ['\\', l]
  /-- A printable character stands for itself. -/
  | plain (hquote : c ≠ quote) (hbackslash : c ≠ '\\') (h : isPrintable c = true) :
      Piece quote c [c]
  /-- The code point of any character can be written in digits. -/
  | digits {l : Char} {width : Nat} (hl : (l, width) ∈ widths) (h : c.toNat < 16 ^ width) :
      Piece quote c ('\\' :: l :: hexDigits width c.toNat)

theorem piece_escape (quote c : Char) : Piece quote c (escape quote c) := by
  rw [escape]
  split_ifs with hliteral hn hr ht hplain hshort hmiddle
  · exact .literal hliteral
  · exact .letter (by simp [hn, letters])
  · exact .letter (by simp [hr, letters])
  · exact .letter (by simp [ht, letters])
  · exact .plain (fun h => hliteral (.inl h)) (fun h => hliteral (.inr h)) hplain
  · exact .digits (by decide) (by simpa using hshort)
  · exact .digits (by decide) (by simpa using hmiddle)
  · -- Eight digits are enough for every code point.
    exact .digits (by decide) (c.val.toNat_lt.trans_le (by decide))

/-- Digits are read as the character that they write, and the reading goes on behind them. -/
theorem decodeBody_digits {quote c l : Char} {width : Nat} {digits : List Char} (hn : '\\' ≠ quote)
    (hl : (l, width) ∈ widths) (hlength : digits.length = width) (hc : charOfHex? digits = some c)
    (rest : List Char) :
    decodeBody quote ('\\' :: l :: (digits ++ rest)) = (decodeBody quote rest).map (c :: ·) := by
  have hread : (do return (← charOfHex? digits) :: (← decodeBody quote rest)) =
      (decodeBody quote rest).map (c :: ·) := by
    rw [hc]
    cases decodeBody quote rest <;> rfl
  rw [← hread, decodeBody.eq_def]
  simp only [widths, List.mem_cons, Prod.mk.injEq, List.not_mem_nil, or_false] at hl
  -- The letter tells how many digits there are, and so where the next piece begins.
  rcases hl with ⟨rfl, rfl⟩ | ⟨rfl, rfl⟩ | ⟨rfl, rfl⟩
  · match digits, hlength with
    | [_, _], _ => exact if_neg hn
  · match digits, hlength with
    | [_, _, _, _], _ => exact if_neg hn
  · match digits, hlength with
    | [_, _, _, _, _, _, _, _], _ => exact if_neg hn

namespace Piece

variable {quote c : Char} {piece : List Char} (hq : IsQuote quote) (h : Piece quote c piece)
include hq h

/-- A piece shows printable characters only. -/
theorem printable : ∀ d ∈ piece, isPrintable d = true := by
  have hquote : isPrintable quote = true := hq.isPrintable
  have hbackslash : isPrintable '\\' = true := by decide
  cases h with
  | literal h => rcases h with rfl | rfl <;> simp [hquote, hbackslash]
  | letter h =>
    have hletter := (printable_of_mem_escapeChars (letter_mem_escapeChars h)).1
    simp [hletter, hbackslash]
  | plain _ _ h => simpa using h
  | digits hl h =>
    have hletter := (printable_of_mem_escapeChars (width_mem_escapeChars hl)).1
    rintro d (_ | ⟨_, _ | ⟨_, hd⟩⟩)
    · exact hbackslash
    · exact hletter
    · exact (printable_of_mem_escapeChars (hexDigits_subset _ _ hd)).1

/-- A piece is read as its character, whatever follows it. -/
theorem decodeBody_append (rest : List Char) :
    decodeBody quote (piece ++ rest) = (decodeBody quote rest).map (c :: ·) := by
  have hn : '\\' ≠ quote := hq.ne_backslash.symm
  cases h with
  | literal h =>
    rcases hq with rfl | rfl <;> rcases h with rfl | rfl <;> simp [decodeBody]
  | letter h =>
    simp only [letters, List.mem_cons, Prod.mk.injEq, List.not_mem_nil, or_false] at h
    rcases h with ⟨rfl, rfl⟩ | ⟨rfl, rfl⟩ | ⟨rfl, rfl⟩ <;> simp [decodeBody, hn]
  | plain hquote hbackslash h =>
    rw [List.singleton_append, decodeBody.eq_def]
    exact (if_neg hquote).trans (if_pos hbackslash)
  | digits hl h =>
    exact decodeBody_digits hn hl (length_hexDigits _ _) (charOfHex?_hexDigits h) rest

/-- A piece does not end the quotation that it stands in. -/
theorem cut?_append (rest : List Char) :
    Quotation.cut? quote (piece ++ rest) =
      (Quotation.cut? quote rest).map fun p => (piece ++ p.1, p.2) := by
  cases h with
  | literal h => rfl
  | letter h => rfl
  | plain hquote hbackslash h =>
    exact Quotation.cut?_append_of_notMem rest (by simpa using hquote.symm)
      (by simpa using hbackslash.symm)
  | @digits l width hl h =>
    -- The backslash takes the letter with it; the digits are neither quotes nor backslashes.
    have hdigit {d : Char} (hd : d ∈ hexDigits width c.toNat) :=
      (printable_of_mem_escapeChars (hexDigits_subset _ _ hd)).2
    have hquote : quote ∉ hexDigits width c.toNat := by
      intro hd
      rcases hq with rfl | rfl
      · exact (hdigit hd).2.1 rfl
      · exact (hdigit hd).2.2 rfl
    have hbackslash : '\\' ∉ hexDigits width c.toNat := fun hd => (hdigit hd).1 rfl
    have hpair (text : List Char) : Quotation.cut? quote ('\\' :: l :: text) =
        (Quotation.cut? quote text).map fun p => ('\\' :: l :: p.1, p.2) := rfl
    rw [List.cons_append, List.cons_append, hpair,
      Quotation.cut?_append_of_notMem rest hquote hbackslash, Option.map_map]
    rfl

end Piece

/-! ## Texts -/

section Texts

variable {quote : Char} (hq : IsQuote quote)
include hq

theorem printable_flatMap_escape (s : List Char) :
    ∀ c ∈ s.flatMap (escape quote), isPrintable c = true := by
  intro c hc
  obtain ⟨d, -, hd⟩ := List.mem_flatMap.1 hc
  exact (piece_escape quote d).printable hq c hd

/-- A text is read from its pieces, one by one. -/
theorem decodeBody_flatMap_escape (s rest : List Char) :
    decodeBody quote (s.flatMap (escape quote) ++ rest) =
      (decodeBody quote rest).map (s ++ ·) := by
  induction s with
  | nil => simp
  | cons c s ih =>
    rw [List.flatMap_cons, List.append_assoc, (piece_escape quote c).decodeBody_append hq, ih,
      Option.map_map]
    rfl

/-- The pieces of a text stand in one quotation. -/
theorem cut?_flatMap_escape (s rest : List Char) :
    Quotation.cut? quote (s.flatMap (escape quote) ++ quote :: rest) =
      some (s.flatMap (escape quote), rest) := by
  induction s with
  | nil => exact Quotation.cut?_quote rest hq.ne_backslash
  | cons c s ih =>
    rw [List.flatMap_cons, List.append_assoc, (piece_escape quote c).cut?_append hq, ih]
    rfl

end Texts

/-- A quoted text shows printable characters only. -/
theorem isPrintable_encode {s : List Char} {c : Char} (h : c ∈ encode s) :
    isPrintable c = true := by
  have hquote : isPrintable (enclosing s) = true := (isQuote_enclosing s).isPrintable
  rw [encode, List.mem_append, List.mem_cons, List.mem_singleton] at h
  rcases h with (rfl | h) | rfl
  · exact hquote
  · exact printable_flatMap_escape (isQuote_enclosing s) s c h
  · exact hquote

/-- A text is read back from its quoted form. -/
theorem decode_encode (s : List Char) : decode (encode s) = some s := by
  have hend : decodeBody (enclosing s) [enclosing s] = some [] := by
    rw [decodeBody.eq_def]
    exact (if_pos rfl).trans (if_pos rfl)
  rw [encode, List.cons_append, decode, decodeBody_flatMap_escape (isQuote_enclosing s), hend,
    Option.map_some, List.append_nil]

end Quoted

end StaticAccess.Text

namespace StaticAccess

/-- Different strings have different quoted forms. -/
theorem quoted_injective : Function.Injective quoted := by
  intro s t h
  have hencode : Text.Quoted.encode s.toList = Text.Quoted.encode t.toList :=
    String.ofList_injective h
  have hsame : some s.toList = some t.toList := by
    rw [← Text.Quoted.decode_encode, hencode, Text.Quoted.decode_encode]
  exact String.toList_inj.1 (Option.some.inj hsame)

end StaticAccess
