/-!
# Code pages

A code page says which character every single byte stands for. A text that was stored in the
encoding of Unicode, where a character beyond ASCII takes several bytes, can be taken for a text in
a code page, and then has one character for each byte.

## Main definitions

- `CodePage`, `CodePage.ofName?`: the code pages with their names.
- `CodePage.char?`: the character that a byte stands for.
- `CodePage.reread`: a stored text taken for a text in a code page.

## Main results

- `CodePage.reread_eq_self`: a text of ASCII characters is the same in every code page.
-/

namespace StaticAccess.Text

/-- A code page. -/
inductive CodePage where
  | ascii
  | latin1
  | latin9
  | windows1252
  deriving DecidableEq, Repr

namespace CodePage

/-- All code pages. -/
def all : List CodePage := [.ascii, .latin1, .latin9, .windows1252]

/-- The names of a code page, in lower case and with underscores between the words. -/
def names : CodePage → List String
  | .ascii =>
    ["ascii", "646", "ansi_x3_4_1968", "ansi_x3_4_1986", "cp367", "csascii", "ibm367", "iso646_us",
      "iso_646_irv_1991", "iso_ir_6", "us", "us_ascii"]
  | .latin1 =>
    ["latin_1", "8859", "cp819", "csisolatin1", "ibm819", "iso8859", "iso8859_1", "iso_8859_1",
      "iso_8859_1_1987", "iso_ir_100", "l1", "latin", "latin1"]
  | .latin9 => ["iso8859_15", "iso_8859_15", "l9", "latin9"]
  | .windows1252 => ["cp1252", "1252", "windows_1252"]

/-- The words of a name, in lower case: its letters and digits, as far as they are neighbours. -/
def words (name : List Char) : List (List Char) :=
  ((name.map Char.toLower).splitBy fun c d => c.isAlphanum && d.isAlphanum).filter fun word =>
    word.any Char.isAlphanum

/-- The code page of a name. Letter case does not matter, nor what stands between the words. -/
def ofName? (name : String) : Option CodePage :=
  all.find? fun page => page.names.any fun known => words known.toList = words name.toList

/-- The characters of some bytes, as far as these are not the characters of the same numbers. -/
def exceptions : CodePage → List (Nat × Char)
  | .ascii => []
  | .latin1 => []
  | .latin9 =>
    [(0xA4, '€'), (0xA6, 'Š'), (0xA8, 'š'), (0xB4, 'Ž'), (0xB8, 'ž'), (0xBC, 'Œ'), (0xBD, 'œ'),
      (0xBE, 'Ÿ')]
  | .windows1252 =>
    [(0x80, '€'), (0x82, '‚'), (0x83, 'ƒ'), (0x84, '„'), (0x85, '…'), (0x86, '†'), (0x87, '‡'),
      (0x88, 'ˆ'), (0x89, '‰'), (0x8A, 'Š'), (0x8B, '‹'), (0x8C, 'Œ'), (0x8E, 'Ž'), (0x91, '‘'),
      (0x92, '’'), (0x93, '“'), (0x94, '”'), (0x95, '•'), (0x96, '–'), (0x97, '—'), (0x98, '˜'),
      (0x99, '™'), (0x9A, 'š'), (0x9B, '›'), (0x9C, 'œ'), (0x9E, 'ž'), (0x9F, 'Ÿ')]

/-- Whether a byte stands for no character. -/
def isUnused : CodePage → Nat → Bool
  | .ascii, byte => 128 ≤ byte
  | .windows1252, byte => byte ∈ [0x81, 0x8D, 0x8F, 0x90, 0x9D]
  | _, _ => false

/-- The character that a byte stands for. -/
def char? (page : CodePage) (byte : Nat) : Option Char :=
  if page.isUnused byte then none
  else some ((page.exceptions.lookup byte).getD (.ofNat byte))

/-- The characters that some bytes stand for, or the first byte that stands for none, and its
position. The first of the bytes has a given position. -/
def readBytes (page : CodePage) (position : Nat) : List Nat → Except (Nat × Nat) (List Char)
  | [] => .ok []
  | byte :: bytes =>
    match page.char? byte with
    | none => .error (byte, position)
    | some c => (page.readBytes (position + 1) bytes).map (c :: ·)

/-- The bytes of a text in the encoding of Unicode. -/
def storedBytes (text : List Char) : List Nat :=
  (text.flatMap String.utf8EncodeChar).map UInt8.toNat

/-- A stored text taken for a text in a code page, or the first byte of it that stands for no
character, and its position. -/
def reread (page : CodePage) (text : String) : Except (Nat × Nat) String :=
  (page.readBytes 0 (storedBytes text.toList)).map String.ofList

/-- Below 128, a byte stands for the character of the same number. -/
theorem char?_of_lt (page : CodePage) {byte : Nat} (h : byte < 128) :
    page.char? byte = some (.ofNat byte) := by
  revert byte
  cases page <;> decide

/-- A character of ASCII is stored as one byte. -/
theorem storedBytes_cons {c : Char} (h : c.toNat < 128) (text : List Char) :
    storedBytes (c :: text) = c.toNat :: storedBytes text := by
  have hc (n : Nat) (hn : n < 128) :
      (String.utf8EncodeChar (.ofNat n)).map UInt8.toNat = [n] := by
    revert n
    decide
  have hs := hc c.toNat h
  rw [Char.ofNat_toNat] at hs
  rw [storedBytes, List.flatMap_cons, List.map_append, hs]
  rfl

/-- A text of ASCII characters is the same in every code page. -/
theorem reread_eq_self (page : CodePage) {text : String} (h : ∀ c ∈ text.toList, c.toNat < 128) :
    page.reread text = .ok text := by
  have hr (chars : List Char) (position : Nat) (hc : ∀ c ∈ chars, c.toNat < 128) :
      page.readBytes position (storedBytes chars) = .ok chars := by
    induction chars generalizing position with
    | nil => rfl
    | cons c chars ih =>
      rw [List.forall_mem_cons] at hc
      rw [storedBytes_cons hc.1, readBytes, page.char?_of_lt hc.1]
      simp only [ih _ hc.2, Char.ofNat_toNat]
      rfl
  rw [reread, hr _ _ h]
  simp only [Except.map, String.ofList_toList]

end CodePage

end StaticAccess.Text
