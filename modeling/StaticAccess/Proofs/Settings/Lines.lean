import StaticAccess.Proofs.Text.Blank
import StaticAccess.Settings.Assignment

/-!
# Lines of assignment files

The assignment files whose statements take one line each. A line is blank, holds a remark, or is an
entry: it assigns a value to a name, or nothing. White space and the word `export` may lead an
entry, and white space may surround its equality sign. A value stands in quotes of either kind, with
escapes or without, and what may follow it is white space and a remark; or it stands without quotes
and takes the rest of its line. Both a line feed and a carriage return with a line feed end a line.

Whatever lines there are, such a file makes the assignments of its lines, one after another.

## Main definitions

- `Line.Entry`: a line that assigns a value to a name, or nothing.
- `Line`: a line of an assignment file.
- `Line.Continues`: what may follow a line.
- `Listing`: a row of lines with their ends.
- `Listing.text`, `Listing.assignments`: the text of a file, and the assignments of its lines.

## Main results

- `Line.read_body`: an entry is read as it is written, up to the next line.
- `Line.listed_chars`: a line that leads a text holds its own statement.
- `Listing.ofText_text`: the assignments of a file are those of its lines.
- `Listing.malformedLines_text`: there is no line that cannot be read.
-/

namespace StaticAccess

open Text Statement

namespace Line

/-! ## Parts of lines -/

/-- A text without line ends. -/
def Inline (text : List Char) : Prop := ∀ c ∈ text, c ≠ '\n' ∧ c ≠ '\r'

instance (text : List Char) : Decidable (Inline text) :=
  List.decidableBAll (fun c => c ≠ '\n' ∧ c ≠ '\r') text

/-- White space without line ends. -/
def Gap (text : List Char) : Prop := Blank text ∧ Inline text

instance (text : List Char) : Decidable (Gap text) := inferInstanceAs (Decidable (_ ∧ _))

/-- A name that stands without quotes. A byte order mark cannot begin it, as a mark that leads a
text does not belong to the text. -/
structure IsName (name : List Char) : Prop where
  ne_nil : name ≠ []
  isNameChar : ∀ c ∈ name, Statement.isNameChar c = true
  head_ne : ∀ c ∈ name.head?, c ≠ '\'' ∧ c.toNat ≠ 0xFEFF

instance (name : List Char) : Decidable (IsName name) :=
  decidable_of_iff (name ≠ [] ∧ name.all Statement.isNameChar ∧
      name.head?.all fun c => c ≠ '\'' ∧ c.toNat ≠ 0xFEFF)
    ⟨fun h => ⟨h.1, List.all_eq_true.1 h.2.1, by simpa [Option.all_eq_true] using h.2.2⟩,
      fun h => ⟨h.1, List.all_eq_true.2 h.2, by simpa [Option.all_eq_true] using h.3⟩⟩

/-- What may follow a name or a quotation on its line: white space, and perhaps a remark. -/
structure Ending where
  /-- The white space. -/
  gap : List Char
  /-- The text of the remark, if there is one. -/
  remark : Option (List Char)
  gap_isGap : Gap gap
  remark_inline : ∀ text ∈ remark, Inline text

/-- A value that is written without quotes. -/
structure Plain where
  /-- All that stands behind the equality sign. -/
  chars : List Char
  inline : Inline chars
  unquoted : ∀ c ∈ (dropGap chars).head?, c ≠ '\'' ∧ c ≠ '"'

/-- A value that is written in quotes. -/
structure Quoted where
  /-- The white space before the quotation. -/
  gap : List Char
  /-- The quote on both sides. -/
  quote : Char
  /-- What stands between the quotes. -/
  inner : List Char
  /-- What follows the quotation. -/
  ending : Ending
  gap_isGap : Gap gap
  quote_eq : quote = '\'' ∨ quote = '"'
  inner_inline : Inline inner
  inner_cut : Quotation.cut? quote (inner ++ [quote]) = some (inner, [])

/-- A value as it is written. -/
inductive Written where
  | plain (p : Plain)
  | quoted (q : Quoted)

/-- What stands behind a name. -/
inductive Tail where
  /-- Nothing is assigned. -/
  | bare (ending : Ending)
  /-- A value is assigned, with white space before the equality sign. -/
  | assigned (gap : List Char) (value : Written) (gap_isGap : Gap gap)

def Ending.chars (x : Ending) : List Char := x.gap ++ x.remark.elim [] ('#' :: ·)

def Quoted.chars (q : Quoted) : List Char :=
  q.gap ++ q.quote :: (q.inner ++ q.quote :: q.ending.chars)

def Written.chars : Written → List Char
  | .plain p => p.chars
  | .quoted q => q.chars

/-- The value that is written. -/
def Written.value : Written → List Char
  | .plain p => trim (beforeRemark p.chars)
  | .quoted q => Quotation.unescape q.quote q.inner

def Tail.chars : Tail → List Char
  | .bare ending => ending.chars
  | .assigned gap value _ => gap ++ '=' :: value.chars

/-- The value that is assigned, if one is. -/
def Tail.value? : Tail → Option (List Char)
  | .bare _ => none
  | .assigned _ value _ => some value.value

/-- A line that assigns a value to a name, or nothing. -/
structure Entry where
  /-- The white space that leads the line. -/
  lead : List Char
  /-- The white space behind the word `export`, if this word precedes the name. -/
  exported : Option (List Char)
  /-- The name. -/
  name : List Char
  /-- What stands behind the name. -/
  tail : Tail
  lead_isGap : Gap lead
  exported_isGap : ∀ gap ∈ exported, Gap gap ∧ gap ≠ []
  name_isName : IsName name
  name_ne_export : exported = none → name = "export".toList →
    ∀ c ∈ tail.chars.head?, isGap c = false

namespace Entry

/-- An entry without the white space that leads it. -/
def body (e : Entry) : List Char :=
  e.exported.elim [] ("export".toList ++ ·) ++ (e.name ++ e.tail.chars)

def chars (e : Entry) : List Char := e.lead ++ e.body

/-- An entry that nothing leads. -/
def ofName (name : List Char) (tail : Tail) (h : IsName name) (hne : name ≠ "export".toList) :
    Entry where
  lead := []
  exported := none
  name := name
  tail := tail
  lead_isGap := ⟨List.forall_mem_nil _, List.forall_mem_nil _⟩
  exported_isGap := by simp
  name_isName := h
  name_ne_export := fun _ h => absurd h hne

/-- The assignment that an entry makes. -/
def assignment (e : Entry) : Assignment := (.ofList e.name, e.tail.value?.map .ofList)

end Entry

end Line

/-! ## Lines and files -/

/-- A line of an assignment file. -/
inductive Line where
  | blank (gap : List Char) (gap_isGap : Line.Gap gap)
  | remark (lead text : List Char) (lead_isGap : Line.Gap lead) (inline : Line.Inline text)
  | entry (e : Line.Entry)

/-- What ends a line. -/
inductive LineEnd where
  | lf
  | crlf

def LineEnd.chars : LineEnd → List Char
  | .lf => ['\n']
  | .crlf => ['\r', '\n']

namespace Line

def chars : Line → List Char
  | .blank gap _ => gap
  | .remark lead text _ _ => lead ++ '#' :: text
  | .entry e => e.chars

/-- The assignment that a line makes, if it makes one. -/
def assignment? : Line → Option Assignment
  | .entry e => some e.assignment
  | _ => none

/-- The statement that a line holds, if it holds one. -/
def statement? : Line → Option Statement
  | .blank _ _ => none
  | .remark _ _ _ _ => some .remark
  | .entry e => some (.assignment e.assignment.1 e.assignment.2)

/-! ## Reading the parts of a line -/

/-- A text that continues a line: it is empty, or begins with the end of the line. -/
def Continues (rest : List Char) : Prop := ∀ c ∈ rest.head?, c = '\n'

section Reading

variable {text gap rest : List Char}

/-- The part of a text that keeps to a class of characters is taken from it as a whole. -/
theorem takeWhile_append {p : Char → Bool} (h : ∀ c ∈ text, p c = true)
    (hrest : ∀ c ∈ rest.head?, p c = false) : (text ++ rest).takeWhile p = text := by
  rw [List.takeWhile_append_of_pos h]
  cases rest with
  | nil => exact List.append_nil text
  | cons c rest => rw [List.takeWhile_cons_of_neg (by simp [hrest c rfl]), List.append_nil]

theorem dropWhile_append {p : Char → Bool} (h : ∀ c ∈ text, p c = true)
    (hrest : ∀ c ∈ rest.head?, p c = false) : (text ++ rest).dropWhile p = rest := by
  rw [List.dropWhile_append_of_pos h]
  cases rest with
  | nil => rfl
  | cons c rest => exact List.dropWhile_cons_of_neg (by simp [hrest c rfl])

theorem Gap.isGap (h : Gap gap) : ∀ c ∈ gap, Statement.isGap c = true := by
  intro c hc
  have hne := (h.2 c hc).1
  have hblank := h.1 c hc
  simp [Statement.isGap, hne, hblank]

theorem isNameChar_of_isGap {c : Char} (h : isGap c = true) : isNameChar c = false := by
  simp only [isGap, Bool.and_eq_true] at h
  simp [isNameChar, h.2]

theorem isBlank_of_isNameChar {c : Char} (h : isNameChar c = true) : isBlank c = false := by
  simp only [isNameChar, Bool.and_eq_true] at h
  simpa using h.2

theorem isGap_of_isBlank {c : Char} (h : isBlank c = false) : Statement.isGap c = false := by
  simp [Statement.isGap, h]

theorem dropGap_append (h : Gap gap) (rest : List Char) : dropGap (gap ++ rest) = dropGap rest :=
  List.dropWhile_append_of_pos h.isGap

theorem dropGap_of_head (h : ∀ c ∈ text.head?, isGap c = false) : dropGap text = text :=
  dropWhile_append (List.forall_mem_nil _) h

theorem Inline.ne_lineEnd (h : Inline text) : ∀ c ∈ text, decide (c ≠ '\n') = true := by
  intro c hc
  simpa using (h c hc).1

theorem eq_lineEnd_of_continues (hrest : Continues rest) :
    ∀ c ∈ rest.head?, decide (c ≠ '\n') = false := by
  intro c hc
  simpa using hrest c hc

theorem isGap_of_continues (hrest : Continues rest) : ∀ c ∈ rest.head?, isGap c = false := by
  intro c hc
  rw [hrest c hc]
  rfl

theorem dropLine_append (h : Inline text) (hrest : Continues rest) :
    dropLine (text ++ rest) = rest.drop 1 := by
  rw [dropLine, dropWhile_append h.ne_lineEnd (eq_lineEnd_of_continues hrest)]

theorem nextLine?_of_continues (hrest : Continues rest) : nextLine? rest = some (rest.drop 1) := by
  rw [nextLine?, dropGap_of_head (isGap_of_continues hrest)]
  cases rest with
  | nil => rfl
  | cons c rest =>
    obtain rfl : c = '\n' := hrest c rfl
    rfl

theorem dropGap_ending (x : Ending) (hrest : Continues rest) :
    dropGap (x.chars ++ rest) = x.remark.elim [] ('#' :: ·) ++ rest := by
  rw [Ending.chars, List.append_assoc, dropGap_append x.gap_isGap]
  refine dropGap_of_head ?_
  cases x.remark with
  | none => exact isGap_of_continues hrest
  | some text => simp [isGap, isBlank]

/-- Behind what may follow a name or a quotation, the next line begins. -/
theorem nextLine?_ending (x : Ending) (hrest : Continues rest) :
    nextLine? (x.chars ++ rest) = some (rest.drop 1) := by
  rw [nextLine?, dropGap_ending x hrest]
  cases hremark : x.remark with
  | none =>
    have hnext := nextLine?_of_continues hrest
    rwa [nextLine?, dropGap_of_head (isGap_of_continues hrest)] at hnext
  | some text => exact congrArg some (dropLine_append (x.remark_inline text hremark) hrest)

/-- A quotation ends where it does whatever follows. -/
theorem cut?_append {quote : Char} {text inner rest : List Char} (hquote : quote ≠ '\\')
    (h : Quotation.cut? quote text = some (inner, rest)) (more : List Char) :
    Quotation.cut? quote (text ++ more) = some (inner, rest ++ more) := by
  fun_induction Quotation.cut? quote text generalizing inner rest with
  | case1 => cases h
  | case2 c text ih =>
    obtain ⟨p, hp, he⟩ := Option.map_eq_some_iff.1 h
    cases he
    rw [List.cons_append, List.cons_append, Quotation.cut?, ih hp]
    rfl
  | case3 text hpair =>
    cases h
    rw [List.cons_append, Quotation.cut?, if_pos rfl]
    · rintro c text h -
      exact hquote h
  | case4 c text hpair hne ih =>
    obtain ⟨p, hp, he⟩ := Option.map_eq_some_iff.1 h
    cases he
    have hend : Quotation.cut? quote [] = none := rfl
    rw [List.cons_append, Quotation.cut?, if_neg hne, ih hp]
    · rfl
    · -- A backslash has a character behind it already, as the text does not end there.
      rintro d text' rfl htext
      cases text with
      | nil => cases hend.symm.trans hp
      | cons d' text => exact hpair d' text rfl rfl

theorem value?_quoted (q : Quoted) (rest : List Char) :
    value? (q.chars ++ rest) =
      some (Quotation.unescape q.quote q.inner, q.ending.chars ++ rest) := by
  have hquote : q.quote ≠ '\\' := by rcases q.quote_eq with h | h <;> rw [h] <;> decide
  have hcut : Quotation.cut? q.quote (q.inner ++ q.quote :: (q.ending.chars ++ rest)) =
      some (q.inner, q.ending.chars ++ rest) := by
    have hmore := cut?_append hquote q.inner_cut (q.ending.chars ++ rest)
    rwa [List.append_assoc] at hmore
  have hchars : q.chars ++ rest =
      q.gap ++ q.quote :: (q.inner ++ q.quote :: (q.ending.chars ++ rest)) := by
    simp [Quoted.chars]
  rw [hchars, value?, dropGap_append q.gap_isGap, dropGap_of_head]
  · rcases q.quote_eq with h | h <;> rw [h] at hcut ⊢ <;> simp [hcut]
  · rcases q.quote_eq with h | h <;> rw [h] <;> simp [isGap, isBlank]

/-- Behind a value without quotes, its line ends. -/
theorem value?_plain (p : Plain) (hrest : Continues rest) :
    value? (p.chars ++ rest) = some (trim (beforeRemark p.chars), rest) := by
  have hhead : ∀ c ∈ (dropGap (p.chars ++ rest)).head?, c ≠ '\'' ∧ c ≠ '"' := by
    have happend : dropGap (p.chars ++ rest) =
        if (dropGap p.chars).isEmpty then dropGap rest else dropGap p.chars ++ rest :=
      List.dropWhile_append
    rw [happend, dropGap_of_head (isGap_of_continues hrest)]
    split
    · intro c hc
      rw [hrest c hc]
      decide
    · next hne =>
      obtain ⟨c, text, hcons⟩ := List.exists_cons_of_ne_nil (mt List.isEmpty_iff.2 hne)
      have hunquoted := p.unquoted
      rw [hcons] at hunquoted ⊢
      exact hunquoted
  rw [value?]
  split
  · next hquote =>
    rw [hquote] at hhead
    exact absurd rfl (hhead _ rfl).1
  · next hquote =>
    rw [hquote] at hhead
    exact absurd rfl (hhead _ rfl).2
  · rw [takeWhile_append p.inline.ne_lineEnd (eq_lineEnd_of_continues hrest),
      dropWhile_append p.inline.ne_lineEnd (eq_lineEnd_of_continues hrest)]

theorem exists_value? (w : Written) (hrest : Continues rest) :
    ∃ after, value? (w.chars ++ rest) = some (w.value, after) ∧
      nextLine? after = some (rest.drop 1) := by
  cases w with
  | plain p => exact ⟨rest, value?_plain p hrest, nextLine?_of_continues hrest⟩
  | quoted q => exact ⟨_, value?_quoted q rest, nextLine?_ending q.ending hrest⟩

/-- What stands behind a name is read up to the next line. -/
theorem exists_assigned? (t : Tail) (hrest : Continues rest) :
    ∃ after, assigned? (dropGap (t.chars ++ rest)) = some (t.value?, after) ∧
      nextLine? after = some (rest.drop 1) := by
  cases t with
  | bare ending =>
    have hnext := nextLine?_ending ending hrest
    refine ⟨dropGap (ending.chars ++ rest), ?_, ?_⟩
    · rw [Tail.chars, dropGap_ending ending hrest, assigned?]
      · rfl
      · -- Neither a remark nor the end of a line is an equality sign.
        intro text htext
        cases hremark : ending.remark with
        | none =>
          rw [hremark, Option.elim_none, List.nil_append] at htext
          exact absurd (hrest '=' (by rw [htext]; rfl)) (by decide)
        | some remark =>
          rw [hremark] at htext
          cases htext
    · rwa [nextLine?, dropGap, dropGap, List.dropWhile_idempotent, ← dropGap, ← nextLine?]
  | assigned gap value hgap =>
    obtain ⟨after, hvalue, hnext⟩ := exists_value? value hrest
    refine ⟨after, ?_, hnext⟩
    have hequals : dropGap ('=' :: (value.chars ++ rest)) = '=' :: (value.chars ++ rest) :=
      dropGap_of_head (by simp [isGap, isBlank])
    rw [Tail.chars, List.append_assoc, dropGap_append hgap, List.cons_append, hequals, assigned?,
      hvalue]
    rfl

/-- White space, and what may follow it behind a name, does not continue the name. -/
theorem isNameChar_append (h : Gap gap) (hrest : ∀ c ∈ rest.head?, isNameChar c = false) :
    ∀ c ∈ (gap ++ rest).head?, isNameChar c = false := by
  cases gap with
  | nil => exact hrest
  | cons c gap =>
    rintro d ⟨⟩
    exact isNameChar_of_isGap (h.isGap c List.mem_cons_self)

theorem isNameChar_tail (t : Tail) (hrest : Continues rest) :
    ∀ c ∈ (t.chars ++ rest).head?, isNameChar c = false := by
  cases t with
  | bare ending =>
    rw [Tail.chars, Ending.chars, List.append_assoc]
    refine isNameChar_append ending.gap_isGap ?_
    cases ending.remark with
    | none =>
      intro c hc
      rw [hrest c hc]
      rfl
    | some remark => simp [isNameChar]
  | assigned gap value hgap =>
    rw [Tail.chars, List.append_assoc]
    exact isNameChar_append hgap (by simp [isNameChar])

theorem isNameChar_head {name : List Char} (h : IsName name) (rest : List Char) :
    ∀ c ∈ (name ++ rest).head?, isNameChar c = true := by
  obtain ⟨c, name, rfl⟩ := List.exists_cons_of_ne_nil h.ne_nil
  rintro d ⟨⟩
  exact h.isNameChar c List.mem_cons_self

/-- The name that leads a text is read up to the first character that continues no name. -/
theorem name?_append {name : List Char} (h : IsName name)
    (hrest : ∀ c ∈ rest.head?, isNameChar c = false) :
    name? (name ++ rest) = some (name, rest) := by
  have htake := takeWhile_append h.isNameChar hrest
  have hdrop := dropWhile_append h.isNameChar hrest
  obtain ⟨c, name, rfl⟩ := List.exists_cons_of_ne_nil h.ne_nil
  rw [List.cons_append] at htake hdrop ⊢
  rw [name?]
  · rw [htake, hdrop]
  · rintro text htext
    exact (h.head_ne c rfl).1 (List.cons.inj htext).1

/-! ## Reading lines -/

theorem dropExport_cons {c : Char} (h : isGap c = true) (text : List Char) :
    dropExport ("export".toList ++ c :: text) = dropGap text := by
  have hprefix : "export".toList.isPrefixOf ("export".toList ++ c :: text) = true :=
    List.isPrefixOf_iff_prefix.2 (List.prefix_append _ _)
  have hdrop : ("export".toList ++ c :: text).drop "export".length = c :: text :=
    List.drop_left' rfl
  rw [dropExport, if_pos hprefix, hdrop]
  exact if_pos h

/-- Nothing is taken from a text in which no white space follows the word `export`. -/
theorem dropExport_eq_self (h : ∀ c rest, text = "export".toList ++ c :: rest → isGap c = false) :
    dropExport text = text := by
  rw [dropExport]
  split
  · next hprefix =>
    obtain ⟨rest, rfl⟩ := List.isPrefixOf_iff_prefix.1 hprefix
    have hdrop : ("export".toList ++ rest).drop "export".length = rest := List.drop_left' rfl
    rw [hdrop]
    cases rest with
    | nil => rfl
    | cons c rest => exact if_neg (by simp [h c rest rfl])
  · rfl

/-- A name that leads a text with the word `export` and white space behind it is this word. -/
theorem eq_export_of_append {name after : List Char} {c : Char} (h : IsName name)
    (hrest : ∀ d ∈ rest.head?, isNameChar d = false) (hc : isGap c = true)
    (heq : name ++ rest = "export".toList ++ c :: after) :
    name = "export".toList ∧ rest = c :: after := by
  have hletters : ∀ d ∈ "export".toList, isNameChar d = true := by simp [isNameChar, isBlank]
  have hafter : ∀ d ∈ (c :: after).head?, isNameChar d = false := by
    rintro d ⟨⟩
    exact isNameChar_of_isGap hc
  have hword : name = "export".toList := by
    rw [← takeWhile_append h.isNameChar hrest, heq, takeWhile_append hletters hafter]
  rw [hword] at heq
  exact ⟨hword, List.append_cancel_left heq⟩

/-- The name of an entry is what is left behind the word that may precede it. -/
theorem dropExport_body (e : Entry) (hrest : Continues rest) :
    dropExport (e.body ++ rest) = e.name ++ (e.tail.chars ++ rest) := by
  cases hexported : e.exported with
  | some gap =>
    obtain ⟨hgap, hne⟩ := e.exported_isGap gap hexported
    obtain ⟨c, gap, rfl⟩ := List.exists_cons_of_ne_nil hne
    have hbody : e.body ++ rest =
        "export".toList ++ c :: (gap ++ (e.name ++ (e.tail.chars ++ rest))) := by
      simp [Entry.body, hexported]
    have hmore : dropGap (gap ++ (e.name ++ (e.tail.chars ++ rest))) =
        dropGap (e.name ++ (e.tail.chars ++ rest)) :=
      List.dropWhile_append_of_pos fun d hd => hgap.isGap d (List.mem_cons_of_mem c hd)
    rw [hbody, dropExport_cons (hgap.isGap c List.mem_cons_self), hmore]
    exact dropGap_of_head fun d hd =>
      isGap_of_isBlank (isBlank_of_isNameChar (isNameChar_head e.name_isName _ d hd))
  | none =>
    have hbody : e.body ++ rest = e.name ++ (e.tail.chars ++ rest) := by
      simp [Entry.body, hexported]
    rw [hbody]
    refine dropExport_eq_self fun c after heq => ?_
    by_contra hc
    obtain ⟨hword, htail⟩ := eq_export_of_append e.name_isName (isNameChar_tail e.tail hrest)
      (by simpa using hc) heq
    -- The white space would belong to the entry, or be the end of its line.
    cases hchars : e.tail.chars with
    | nil =>
      rw [hchars, List.nil_append] at htail
      exact hc (isGap_of_continues hrest c (by rw [htail]; rfl))
    | cons d chars =>
      rw [hchars] at htail
      obtain ⟨rfl, -⟩ := List.cons.inj htail
      exact hc (e.name_ne_export hexported hword d (by rw [hchars]; rfl))

/-- The statement of an entry is read, and the next line is left. -/
theorem read_body (e : Entry) (hrest : Continues rest) :
    Statement.read (e.body ++ rest) =
      (.assignment e.assignment.1 e.assignment.2, rest.drop 1) := by
  obtain ⟨after, hassigned, hnext⟩ := exists_assigned? e.tail hrest
  have hname := name?_append e.name_isName (isNameChar_tail e.tail hrest)
  have hhead : (e.name ++ (e.tail.chars ++ rest)).head? ≠ some '#' := by
    intro hremark
    exact absurd (isNameChar_head e.name_isName _ _ hremark) (by decide)
  rw [Statement.read, dropExport_body e hrest, if_neg hhead, hname]
  simp only [hassigned, hnext]
  rfl

theorem read_remark (h : Inline text) (hrest : Continues rest) :
    Statement.read ('#' :: (text ++ rest)) = (.remark, rest.drop 1) := by
  have hexport : dropExport ('#' :: (text ++ rest)) = '#' :: (text ++ rest) :=
    dropExport_eq_self fun c after hword => absurd (List.cons.inj hword).1 (by decide)
  have hdrop : dropLine ('#' :: (text ++ rest)) = rest.drop 1 := dropLine_append h hrest
  have hhead : ('#' :: (text ++ rest)).head? = some '#' := rfl
  rw [Statement.read, hexport, if_pos hhead, hdrop]

end Reading

end Line

/-! ## Reading rows of lines -/

namespace Statement

/-- The statements of a text. -/
def listed (text : List Char) : List Statement := (all text).map Prod.snd

/-- What statements there are does not depend on the white space that leads a text. -/
theorem listed_eq (text : List Char) :
    listed text =
      match trimLeft text with
      | [] => []
      | c :: rest => (read (c :: rest)).1 :: listed (read (c :: rest)).2 := by
  rw [listed, all]
  split
  · next h => rw [h, List.map_nil]
  · next h => rw [h, List.map_cons, ← listed]

theorem listed_append {gap : List Char} (h : Blank gap) (text : List Char) :
    listed (gap ++ text) = listed text := by
  rw [listed_eq, trimLeft_append h, ← listed_eq]

theorem listed_cons {c : Char} {text : List Char} (h : isBlank c = false) :
    listed (c :: text) = (read (c :: text)).1 :: listed (read (c :: text)).2 := by
  have htrim : trimLeft (c :: text) = c :: text := List.dropWhile_cons_of_neg (by simp [h])
  rw [listed_eq, htrim]

end Statement

namespace Line

/-- What begins an entry is neither white space nor a byte order mark. -/
theorem exists_body (e : Entry) :
    ∃ c text, e.body = c :: text ∧ isBlank c = false ∧ c.toNat ≠ 0xFEFF := by
  cases hexported : e.exported with
  | some gap => exact ⟨'e', _, by rw [Entry.body, hexported]; rfl, rfl, by decide⟩
  | none =>
    obtain ⟨c, name, hname⟩ := List.exists_cons_of_ne_nil e.name_isName.ne_nil
    have hbody : e.body = c :: (name ++ e.tail.chars) := by
      rw [Entry.body, hexported, hname]
      rfl
    have hchar := e.name_isName.isNameChar c (by rw [hname]; exact List.mem_cons_self)
    have hmark := (e.name_isName.head_ne c (by rw [hname]; rfl)).2
    exact ⟨c, _, hbody, isBlank_of_isNameChar hchar, hmark⟩

/-- A line that leads a text holds its own statement, and the next lines hold the others. -/
theorem listed_chars (l : Line) {rest : List Char} (hrest : Continues rest) :
    listed (l.chars ++ rest) = l.statement?.toList ++ listed (rest.drop 1) := by
  cases l with
  | blank gap hgap =>
    rw [Line.chars, listed_append hgap.1]
    cases rest with
    | nil => rfl
    | cons c rest =>
      obtain rfl : c = '\n' := hrest c rfl
      have hblank : Blank ['\n'] := by simp [Blank, isBlank]
      exact listed_append hblank rest
  | remark lead text hlead hinline =>
    rw [Line.chars, List.append_assoc, listed_append hlead.1, List.cons_append, listed_cons rfl,
      read_remark hinline hrest]
    rfl
  | entry e =>
    have hread := read_body e hrest
    obtain ⟨c, text, hbody, hc, -⟩ := exists_body e
    rw [hbody] at hread
    rw [Line.chars, Entry.chars, List.append_assoc, listed_append e.lead_isGap.1, hbody,
      List.cons_append, listed_cons hc, ← List.cons_append, hread]
    rfl

/-! ## Characters of lines -/

theorem inline_append {text rest : List Char} :
    Inline (text ++ rest) ↔ Inline text ∧ Inline rest := List.forall_mem_append

theorem inline_cons {c : Char} {text : List Char} :
    Inline (c :: text) ↔ (c ≠ '\n' ∧ c ≠ '\r') ∧ Inline text := List.forall_mem_cons

theorem IsName.inline {name : List Char} (h : IsName name) : Inline name := by
  intro c hc
  have hblank := isBlank_of_isNameChar (h.isNameChar c hc)
  constructor <;> rintro rfl <;> cases hblank

theorem Ending.inline (x : Ending) : Inline x.chars := by
  refine inline_append.2 ⟨x.gap_isGap.2, ?_⟩
  cases hremark : x.remark with
  | none => exact List.forall_mem_nil _
  | some text => exact inline_cons.2 ⟨by decide, x.remark_inline text hremark⟩

theorem Written.inline : (w : Written) → Inline w.chars
  | .plain p => p.inline
  | .quoted q => by
    have hquote : q.quote ≠ '\n' ∧ q.quote ≠ '\r' := by
      rcases q.quote_eq with h | h <;> rw [h] <;> decide
    exact inline_append.2 ⟨q.gap_isGap.2, inline_cons.2 ⟨hquote, inline_append.2
      ⟨q.inner_inline, inline_cons.2 ⟨hquote, q.ending.inline⟩⟩⟩⟩

theorem Tail.inline : (t : Tail) → Inline t.chars
  | .bare ending => ending.inline
  | .assigned _ value hgap => inline_append.2 ⟨hgap.2, inline_cons.2 ⟨by decide, value.inline⟩⟩

theorem Entry.inline (e : Entry) : Inline e.chars := by
  have hexport : Inline (e.exported.elim [] ("export".toList ++ ·)) := by
    cases hexported : e.exported with
    | none => exact List.forall_mem_nil _
    | some gap =>
      exact inline_append.2 ⟨by simp [Inline], (e.exported_isGap gap hexported).1.2⟩
  exact inline_append.2 ⟨e.lead_isGap.2, inline_append.2 ⟨hexport,
    inline_append.2 ⟨e.name_isName.inline, e.tail.inline⟩⟩⟩

theorem inline : (l : Line) → Inline l.chars
  | .blank _ hgap => hgap.2
  | .remark _ _ hlead hinline =>
    inline_append.2 ⟨hlead.2, inline_cons.2 ⟨by decide, hinline⟩⟩
  | .entry e => e.inline

theorem head_append_ne_mark {gap rest : List Char} (h : Blank gap)
    (hrest : ∀ c ∈ rest.head?, c.toNat ≠ 0xFEFF) : ∀ c ∈ (gap ++ rest).head?, c.toNat ≠ 0xFEFF := by
  cases gap with
  | nil => exact hrest
  | cons c gap =>
    rintro d ⟨⟩ hmark
    have hblank := h c List.mem_cons_self
    simp [isBlank, hmark] at hblank

/-- No byte order mark begins a line. -/
theorem head_chars_ne_mark (l : Line) {rest : List Char}
    (hrest : ∀ c ∈ rest.head?, c.toNat ≠ 0xFEFF) :
    ∀ c ∈ (l.chars ++ rest).head?, c.toNat ≠ 0xFEFF := by
  cases l with
  | blank gap hgap => exact head_append_ne_mark hgap.1 hrest
  | remark lead text hlead hinline =>
    rw [Line.chars, List.append_assoc]
    refine head_append_ne_mark hlead.1 ?_
    rintro c ⟨⟩
    decide
  | entry e =>
    obtain ⟨c, text, hbody, -, hc⟩ := exists_body e
    rw [Line.chars, Entry.chars, List.append_assoc, hbody]
    refine head_append_ne_mark e.lead_isGap.1 ?_
    rintro d ⟨⟩
    exact hc

end Line

/-! ## Files of lines -/

/-- An assignment file in which every line holds one statement at most. No line end follows the last
line, which may be blank. -/
structure Listing where
  /-- The lines before the last one, each with its end. -/
  ended : List (Line × LineEnd)
  /-- The last line. -/
  last : Line

namespace Listing

/-- The lines of a file. -/
def lines (f : Listing) : List Line := f.ended.map Prod.fst ++ [f.last]

/-- The text of a file. -/
def text (f : Listing) : String :=
  .ofList (f.ended.flatMap (fun p => p.1.chars ++ p.2.chars) ++ f.last.chars)

/-- The assignments that a file makes, one after another. -/
def assignments (f : Listing) : List Assignment := f.lines.filterMap Line.assignment?

theorem unifyLines_append {text : List Char} (h : Line.Inline text) (rest : List Char) :
    Assignment.unifyLines (text ++ rest) = text ++ Assignment.unifyLines rest := by
  induction text with
  | nil => rfl
  | cons c text ih =>
    obtain ⟨⟨-, hc⟩, htext⟩ := Line.inline_cons.1 h
    rw [List.cons_append, Assignment.unifyLines, if_neg hc, ih htext]
    · rfl
    · rintro rest' rfl
      exact absurd rfl hc

theorem unifyLines_lineEnd (x : LineEnd) (rest : List Char) :
    Assignment.unifyLines (x.chars ++ rest) = '\n' :: Assignment.unifyLines rest := by
  cases x <;> rfl

theorem dropMark_of_head {text : List Char} (h : ∀ c ∈ text.head?, c.toNat ≠ 0xFEFF) :
    Assignment.dropMark text = text := by
  cases text with
  | nil => rfl
  | cons c text => exact if_neg (h c rfl)

theorem head_text_ne_mark (f : Listing) : ∀ c ∈ f.text.toList.head?, c.toNat ≠ 0xFEFF := by
  obtain ⟨ended, last⟩ := f
  rw [text, String.toList_ofList]
  cases ended with
  | nil =>
    rw [List.flatMap_nil, List.nil_append, ← List.append_nil last.chars]
    exact last.head_chars_ne_mark (by simp)
  | cons p ended =>
    rw [List.flatMap_cons, List.append_assoc, List.append_assoc]
    refine p.1.head_chars_ne_mark ?_
    cases p.2 <;> simp [LineEnd.chars]

/-- The characters of a file are read as if every line ended with a line feed. -/
theorem characters_text (f : Listing) :
    Assignment.characters f.text =
      f.ended.flatMap (fun p => p.1.chars ++ ['\n']) ++ f.last.chars := by
  rw [Assignment.characters, dropMark_of_head f.head_text_ne_mark, text, String.toList_ofList]
  -- No line holds a line end of its own, so that only those behind the lines are unified.
  induction f.ended with
  | nil =>
    have hlast := unifyLines_append f.last.inline []
    rwa [List.append_nil, Assignment.unifyLines, List.append_nil] at hlast
  | cons p ended ih =>
    rw [List.flatMap_cons, List.append_assoc, List.append_assoc, unifyLines_append p.1.inline,
      unifyLines_lineEnd, ih]
    simp

/-- The statements of a file are those of its lines. -/
theorem listed_characters (f : Listing) :
    listed (Assignment.characters f.text) = f.lines.filterMap Line.statement? := by
  rw [characters_text, lines, List.filterMap_eq_flatMap_toList]
  induction f.ended with
  | nil =>
    have hcontinues : Line.Continues [] := by simp [Line.Continues]
    have hlast := Line.listed_chars f.last hcontinues
    have hnil : listed [] = [] := by
      rw [listed, all]
      rfl
    rw [List.append_nil, List.drop_nil, hnil] at hlast
    exact hlast
  | cons p ended ih =>
    have hcontinues : Line.Continues ('\n' :: (ended.flatMap (fun p => p.1.chars ++ ['\n']) ++
        f.last.chars)) := by
      rintro c ⟨⟩
      rfl
    have hline := p.1.listed_chars hcontinues
    rw [List.drop_one, List.tail_cons, ih] at hline
    rw [List.flatMap_cons, List.append_assoc, List.append_assoc]
    exact hline

/-- The assignments of a file are those of its lines. -/
theorem ofText_text (f : Listing) : Assignment.ofText f.text = f.assignments := by
  have hstatement (l : Line) : l.statement?.bind Assignment.ofStatement? = l.assignment? := by
    cases l <;> rfl
  have hlisted := congrArg (List.filterMap Assignment.ofStatement?) f.listed_characters
  rw [listed, List.filterMap_map, List.filterMap_filterMap] at hlisted
  simp only [hstatement] at hlisted
  exact hlisted

/-- There is no line that cannot be read. -/
theorem malformedLines_text (f : Listing) : Assignment.malformedLines f.text = [] := by
  rw [Assignment.malformedLines, List.map_eq_nil_iff, List.filter_eq_nil_iff]
  intro p hp
  have hlisted : p.2 ∈ f.lines.filterMap Line.statement? := by
    rw [← f.listed_characters]
    exact List.mem_map_of_mem hp
  obtain ⟨l, -, hl⟩ := List.mem_filterMap.1 hlisted
  cases l with
  | blank gap hgap => cases hl
  | remark lead text hlead hinline => simp [← Option.some.inj hl]
  | entry e => simp [← Option.some.inj hl]

end Listing

end StaticAccess
