import StaticAccess.Number.Binary64

/-!
# Shortest decimal text

A floating-point number is written with the fewest decimal digits that read back as the same
number, and of those with the digits nearest to it. The decimal point is placed in the digits
when their first stands from the fourth place behind the point to the sixteenth before it;
otherwise the text has an exponent.

## Main definitions

- `Binary64.shortest`: the digits and the place of the decimal point.
- `Binary64.text`: the text of a number.
-/

namespace StaticAccess.Binary64

/-- An interval of positive quotients with a common denominator, around the quotient `mid`. -/
structure Span where
  /-- The numerator of the lower end. -/
  low : Nat
  /-- The numerator of the number itself. -/
  mid : Nat
  /-- The numerator of the upper end. -/
  high : Nat
  /-- The common denominator. -/
  den : Nat
  /-- Whether the two ends belong to the interval. -/
  closed : Bool

/-- The numbers that round to a positive floating-point number: those no farther from it than
half the way to its neighbours. The neighbour below a power of two is only half as far. -/
def span (m : Nat) (e : Int) : Span :=
  let scale := Nat.pow 2 (e - 2).toNat
  let below := if m = Nat.pow 2 52 ∧ minExponent < e then 1 else 2
  { low := (4 * m - below) * scale
    mid := 4 * m * scale
    high := (4 * m + 2) * scale
    den := Nat.pow 2 (2 - e).toNat
    closed := m % 2 = 0 }

/-- Whether a quotient over the common denominator lies in the interval. -/
def Span.holds (s : Span) (num : Nat) : Bool :=
  if s.closed then s.low ≤ num && num ≤ s.high else s.low < num && num < s.high

/-- The interval with its quotients multiplied by a power of ten. -/
def Span.shift (s : Span) (k : Int) : Span :=
  let up := Nat.pow 10 k.toNat
  { s with low := s.low * up, mid := s.mid * up, high := s.high * up,
           den := s.den * Nat.pow 10 (-k).toNat }

/-- The integer in an interval that is nearest to its middle, tried among the two neighbours of
the middle; of two equally near ones the even one. -/
def Span.nearest? (s : Span) : Option Nat :=
  let d := s.mid / s.den
  let lower := s.holds (d * s.den)
  let upper := s.holds ((d + 1) * s.den)
  if lower && upper then some (roundDiv s.mid s.den)
  else if lower then some d
  else if upper then some (d + 1)
  else none

/-- The number of digits before the decimal point, negative by the number of zeros behind it. -/
def Span.pointOf (s : Span) : Int := (digitCount (s.mid * Nat.pow 10 400 / s.den) : Int) - 400

/-- The first count of digits, from `count` on, with which some integer of that many digits
stands for the number; and that integer with the power of ten that it is multiplied by. -/
def Span.search (s : Span) (point : Int) : (left : Nat) → (count : Nat) → Nat × Int
  | 0, count => ((s.shift (count - point)).mid / (s.shift (count - point)).den, point - count)
  | left + 1, count =>
    match (s.shift (count - point)).nearest? with
    | some n => (n, point - count)
    | none => s.search point left (count + 1)

/-- A number without the zeros at its end, and how many they were. -/
def dropZeros : (left : Nat) → Nat → Nat × Nat
  | 0, n => (n, 0)
  | left + 1, n =>
    if n % 10 = 0 then
      let (n, zeros) := dropZeros left (n / 10)
      (n, zeros + 1)
    else (n, 0)

/-- The shortest digits of a positive number, and how many of them stand before the decimal
point; this count is negative by the zeros between the point and the digits. -/
def shortest (m : Nat) (e : Int) : List Char × Int :=
  let s := span m e
  let (n, power) := s.search s.pointOf 17 1
  let (n, zeros) := dropZeros 17 n
  let digits := Nat.toDigits 10 n
  (digits, digits.length + power + zeros)

/-- Digits with the decimal point after the first `point` of them. -/
def positional (digits : List Char) (point : Int) : List Char :=
  if point ≤ 0 then '0' :: '.' :: List.replicate (-point).toNat '0' ++ digits
  else if digits.length ≤ point.toNat then
    digits ++ List.replicate (point.toNat - digits.length) '0' ++ ['.', '0']
  else digits.take point.toNat ++ '.' :: digits.drop point.toNat

/-- Digits with the point after the first, and the exponent with a sign and at least two
digits. -/
def scientific (digits : List Char) (point : Int) : List Char :=
  let exponent := Nat.toDigits 10 (point - 1).natAbs
  let padded := List.replicate (2 - exponent.length) '0' ++ exponent
  let fraction := if digits.length ≤ 1 then [] else '.' :: digits.drop 1
  digits.take 1 ++ fraction ++ 'e' :: (if point ≤ 0 then '-' else '+') :: padded

/-- The text of a number. -/
def text (x : Binary64) : String :=
  let sign (negative : Bool) (s : List Char) := String.ofList (if negative then '-' :: s else s)
  match x with
  | .notNumber => "nan"
  | .infinite negative => sign negative ['i', 'n', 'f']
  | .finite negative m e =>
    if m = 0 then sign negative ['0', '.', '0']
    else
      let (digits, point) := shortest m e
      if -4 < point ∧ point ≤ 16 then sign negative (positional digits point)
      else sign negative (scientific digits point)

end StaticAccess.Binary64
