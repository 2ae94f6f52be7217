/-!
# Quotations

A quotation stands between two quotes of one kind. A backslash takes the character behind it into
the quotation, so that a quote behind a backslash does not end it. Some of these pairs are escapes,
which stand for another character; the others stand for themselves.

## Main definitions

- `Quotation.cut?`: a text cut at the quote that ends a quotation.
- `Quotation.unescape`: the text that a quotation stands for.

## Main results

- `Quotation.cut?_append`: what holds neither quotes nor backslashes is cut where it ends.
- `Quotation.unescape_of_notMem`: what holds no backslash stands for itself.
-/

namespace StaticAccess.Text.Quotation

/-- The part of a text before the quote that ends a quotation, and the part behind it. -/
def cut? (quote : Char) : List Char → Option (List Char × List Char)
  | [] => none
  | '\\' :: c :: text => (cut? quote text).map fun p => ('\\' :: c :: p.1, p.2)
  | c :: text =>
    if c = quote then some ([], text) else (cut? quote text).map fun p => (c :: p.1, p.2)

/-- The character that a letter stands for behind a backslash, if the two are an escape between
quotes of a kind. -/
def escaped? (quote c : Char) : Option Char :=
  if c = '\\' ∨ c = '\'' then some c
  else if quote = '"' then
    match c with
    | '"' => some '"'
    | 'a' => some '\x07'
    | 'b' => some '\x08'
    | 'f' => some '\x0c'
    | 'n' => some '\n'
    | 'r' => some '\r'
    | 't' => some '\t'
    | 'v' => some '\x0b'
    | _ => none
  else none

/-- A text with its escapes replaced by the characters that they stand for. A backslash that begins
no escape stays. -/
def unescape (quote : Char) : List Char → List Char
  | [] => []
  | '\\' :: c :: text =>
    match escaped? quote c with
    | some d => d :: unescape quote text
    | none => '\\' :: unescape quote (c :: text)
  | c :: text => c :: unescape quote text

/-- The rest behind a quotation is shorter than the text. -/
theorem length_lt_of_cut? {quote : Char} {text inner rest : List Char}
    (h : cut? quote text = some (inner, rest)) : rest.length < text.length := by
  fun_induction cut? quote text generalizing inner rest with
  | case1 => cases h
  | case2 c text ih =>
    obtain ⟨p, hp, he⟩ := Option.map_eq_some_iff.1 h
    cases he
    have := ih hp
    simp only [List.length_cons]
    omega
  | case3 text =>
    cases h
    simp only [List.length_cons]
    omega
  | case4 c text hn hq ih =>
    obtain ⟨p, hp, he⟩ := Option.map_eq_some_iff.1 h
    cases he
    have := ih hp
    simp only [List.length_cons]
    omega

/-- What holds neither quotes nor backslashes is part of the quotation that a text begins with. -/
theorem cut?_append_of_notMem {quote : Char} {inner : List Char} (text : List Char)
    (hq : quote ∉ inner) (hb : '\\' ∉ inner) :
    cut? quote (inner ++ text) = (cut? quote text).map fun p => (inner ++ p.1, p.2) := by
  induction inner with
  | nil => simp
  | cons c inner ih =>
    simp only [List.mem_cons, not_or] at hq hb
    rw [List.cons_append, cut?, if_neg (Ne.symm hq.1), ih hq.2 hb.2, Option.map_map]
    · rfl
    · rintro d text h -
      exact hb.1 h.symm

/-- A quote ends a quotation. -/
theorem cut?_quote {quote : Char} (rest : List Char) (hn : quote ≠ '\\') :
    cut? quote (quote :: rest) = some ([], rest) := by
  rw [cut?]
  · simp
  · rintro c text h -
    exact hn h

/-- A quotation without quotes and backslashes ends at the first quote. -/
theorem cut?_append {quote : Char} {inner : List Char} (rest : List Char)
    (hq : quote ∉ inner) (hb : '\\' ∉ inner) (hn : quote ≠ '\\') :
    cut? quote (inner ++ quote :: rest) = some (inner, rest) := by
  rw [cut?_append_of_notMem _ hq hb, cut?_quote rest hn]
  simp

/-- A text without backslashes has no escapes. -/
theorem unescape_of_notMem {quote : Char} {text : List Char} (h : '\\' ∉ text) :
    unescape quote text = text := by
  induction text with
  | nil => rfl
  | cons c text ih =>
    simp only [List.mem_cons, not_or] at h
    rw [unescape, ih h.2]
    rintro d text h' -
    exact h.1 h'.symm

end StaticAccess.Text.Quotation
