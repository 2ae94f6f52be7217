/-!
# Binary floating-point numbers

Numbers of 53 significant bits, as a sign, a significand and a power of two, with the two
infinities beyond them and the value that is no number. All arithmetic is exact arithmetic on
natural numbers.

## Main definitions

- `Binary64`: a floating-point number.
- `roundDiv`: the nearest integer to a quotient, a tie going to the even one.
- `Binary64.ofDecimal`: the number nearest to a decimal one.
- `Binary64.toInt?`: the integer that a number is equal to.

## Main results

- `roundDiv_near`: rounding a quotient errs by at most a half.
-/

namespace StaticAccess

/-- A binary floating-point number of 53 significant bits. -/
inductive Binary64 where
  /-- The number `significand * 2 ^ exponent`, or its negative. -/
  | finite (negative : Bool) (significand : Nat) (exponent : Int)
  /-- A number too large to be finite. -/
  | infinite (negative : Bool)
  /-- What is no number. -/
  | notNumber
  deriving DecidableEq, Repr

/-- The nearest integer to a quotient; of two equally near ones the even one. -/
def roundDiv (num den : Nat) : Nat :=
  let q := num / den
  let r := num % den
  if den < 2 * r ∨ (2 * r = den ∧ q % 2 = 1) then q + 1 else q

/-- A rounded quotient is at most a half away from the exact one. -/
theorem roundDiv_near (num : Nat) {den : Nat} (hden : 0 < den) :
    2 * (roundDiv num den * den) ≤ 2 * num + den ∧
      2 * num ≤ 2 * (roundDiv num den * den) + den := by
  have hdiv : den * (num / den) + num % den = num := Nat.div_add_mod num den
  have hlt : num % den < den := Nat.mod_lt _ hden
  have hcomm : num / den * den = den * (num / den) := Nat.mul_comm _ _
  simp only [roundDiv]
  split
  · rw [Nat.add_mul]
    omega
  · omega

namespace Binary64

/-- The least exponent of a number. -/
def minExponent : Int := -1074

/-- The greatest exponent of a finite number. -/
def maxExponent : Int := 971

/-- Zero, with a sign. -/
def zero (negative : Bool) : Binary64 := .finite negative 0 minExponent

/-- A significand of at most 53 bits with its exponent; one that rounding has made too long by a
bit is halved. -/
def normal (negative : Bool) (m : Nat) (e : Int) : Binary64 :=
  let (m, e) := if Nat.pow 2 53 ≤ m then (m / 2, e + 1) else (m, e)
  if maxExponent < e then .infinite negative else .finite negative m e

/-- The quotient `num / (den * 2 ^ e)` rounded to the nearest integer. -/
def significandAt (num den : Nat) (e : Int) : Nat :=
  roundDiv (num * Nat.pow 2 (-e).toNat) (den * Nat.pow 2 e.toNat)

/-- The number nearest to the quotient of two positive numbers. The exponent is the least one
that leaves at most 53 bits before the binary point. -/
def ofQuotient (negative : Bool) (num den : Nat) : Binary64 :=
  let e : Int := (num.log2 : Int) - den.log2 - 53
  let wide := Nat.pow 2 53 * (den * Nat.pow 2 e.toNat) ≤ num * Nat.pow 2 (-e).toNat
  let e := max (if wide then e + 1 else e) minExponent
  normal negative (significandAt num den e) e

/-- The number of decimal digits of a number. -/
def digitCount (n : Nat) : Nat := (Nat.toDigits 10 n).length

/-- The number nearest to `coefficient * 10 ^ exponent`. What has more than 310 digits before the
decimal point is infinite, and what has more than 330 zeros behind it is zero. -/
def ofDecimal (negative : Bool) (coefficient : Nat) (exponent : Int) : Binary64 :=
  let magnitude := digitCount coefficient + exponent
  if coefficient = 0 ∨ magnitude < -330 then zero negative
  else if 310 < magnitude then .infinite negative
  else ofQuotient negative (coefficient * Nat.pow 10 exponent.toNat) (Nat.pow 10 (-exponent).toNat)

/-- The integer that a number is equal to, if it is equal to one. -/
def toInt? : Binary64 → Option Int
  | .infinite _ => none
  | .notNumber => none
  | .finite negative m e =>
    let signed (n : Nat) : Int := if negative then -n else n
    if 0 ≤ e then some (signed (m * Nat.pow 2 e.toNat))
    else if m % Nat.pow 2 (-e).toNat = 0 then some (signed (m / Nat.pow 2 (-e).toNat))
    else none

/-- Whether a number is one of the two zeros. -/
def isZero : Binary64 → Bool
  | .finite _ m _ => m = 0
  | .infinite _ => false
  | .notNumber => false

end Binary64

end StaticAccess
