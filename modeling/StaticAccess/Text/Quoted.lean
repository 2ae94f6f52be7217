import StaticAccess.Text.Printable

/-!
# Quoted text

The quoted form of a text stands in quotes and shows every character that is not printable by an
escape. Single quotes enclose it unless the text holds a single quote and no double one. Inside,
a backslash escapes the enclosing quote and the backslash; line feed, carriage return and tab have
escapes of one letter; any other character that is not printable is written by its code point, in
two, four or eight hexadecimal digits, whichever is the first that suffices.

## Main definitions

- `Quoted.encode`: the quoted form of a text.
- `Quoted.decode`: the text that a quoted form stands for.
- `quoted`: the quoted form of a string.
-/

namespace StaticAccess.Text.Quoted

/-- The quote that encloses a text. -/
def enclosing (s : List Char) : Char := if '\'' ∈ s ∧ '"' ∉ s then '"' else '\''

/-- The last `width` hexadecimal digits of a number, most significant first. -/
def hexDigits : (width : Nat) → Nat → List Char
  | 0, _ => []
  | width + 1, n => hexDigits width (n / 16) ++ [Nat.digitChar (n % 16)]

/-- How a character is written between quotes of the given kind. -/
def escape (quote c : Char) : List Char :=
  if c = quote ∨ c = '\\' then ['\\', c]
  else if c = '\n' then ['\\', 'n']
  else if c = '\r' then ['\\', 'r']
  else if c = '\t' then ['\\', 't']
  else if isPrintable c then [c]
  else if c.toNat < 0x100 then '\\' :: 'x' :: hexDigits 2 c.toNat
  else if c.toNat < 0x10000 then '\\' :: 'u' :: hexDigits 4 c.toNat
  else '\\' :: 'U' :: hexDigits 8 c.toNat

/-- The quoted form of a text. -/
def encode (s : List Char) : List Char :=
  enclosing s :: s.flatMap (escape (enclosing s)) ++ [enclosing s]

/-- The value of a hexadecimal digit. -/
def digitValue? (c : Char) : Option Nat :=
  if '0' ≤ c ∧ c ≤ '9' then some (c.toNat - '0'.toNat)
  else if 'a' ≤ c ∧ c ≤ 'f' then some (c.toNat - 'a'.toNat + 10)
  else none

/-- The number that hexadecimal digits write, continued from the digits before them. -/
def hexValue? (before : Nat) : List Char → Option Nat
  | [] => some before
  | c :: digits => (digitValue? c).bind fun d => hexValue? (16 * before + d) digits

/-- The character whose code point hexadecimal digits write. -/
def charOfHex? (digits : List Char) : Option Char := (hexValue? 0 digits).map Char.ofNat

/-- The text that stands up to the closing quote, which has to come last. -/
def decodeBody (quote : Char) : List Char → Option (List Char)
  | [] => none
  | c :: rest =>
    if c = quote then if rest = [] then some [] else none
    else if c ≠ '\\' then (decodeBody quote rest).map (c :: ·)
    else match rest with
      | 'n' :: rest => (decodeBody quote rest).map ('\n' :: ·)
      | 'r' :: rest => (decodeBody quote rest).map ('\r' :: ·)
      | 't' :: rest => (decodeBody quote rest).map ('\t' :: ·)
      | 'x' :: a :: b :: rest => do
        return (← charOfHex? [a, b]) :: (← decodeBody quote rest)
      | 'u' :: a :: b :: c :: d :: rest => do
        return (← charOfHex? [a, b, c, d]) :: (← decodeBody quote rest)
      | 'U' :: a :: b :: c :: d :: e :: f :: g :: h :: rest => do
        return (← charOfHex? [a, b, c, d, e, f, g, h]) :: (← decodeBody quote rest)
      | c :: rest => (decodeBody quote rest).map (c :: ·)
      | [] => none

/-- The text that a quoted form stands for. -/
def decode : List Char → Option (List Char)
  | [] => none
  | quote :: body => decodeBody quote body

end StaticAccess.Text.Quoted

namespace StaticAccess

/-- The quoted form of a string. -/
def quoted (s : String) : String := String.ofList (Text.Quoted.encode s.toList)

end StaticAccess
