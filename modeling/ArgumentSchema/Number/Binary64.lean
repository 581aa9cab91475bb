/-!
# Binary floating point numbers

The numbers of the 64-bit binary format, described by sign, mantissa and exponent: a finite number
is `± mantissa · 2 ^ exponent` with `mantissa < 2 ^ 53` and `-1074 ≤ exponent ≤ 971`, and the
mantissa has 53 bits unless the exponent is the least one. `ofRatio` rounds a fraction to the
nearest such number, a tie to the even mantissa; `ofDecimal` rounds `digits · 10 ^ exponent`. All of
it is exact arithmetic on natural numbers.
-/

namespace ArgumentSchema

/-- A number of the 64-bit binary format. -/
inductive Binary64 where
  | nan
  | infinity (negative : Bool)
  | finite (negative : Bool) (mantissa : Nat) (exponent : Int)
deriving DecidableEq, Repr, Inhabited

namespace Binary64

/-- The exponent of the least positive number. -/
def minExponent : Int := -1074

/-- The exponent of the greatest numbers. -/
def maxExponent : Int := 971

/-- Zero with a sign. -/
def zero (negative : Bool) : Binary64 := .finite negative 0 minExponent

/-- The quotient of two numbers rounded to the nearest integer, a tie to the even one. -/
def divideToEven (num den : Nat) : Nat :=
  let q := num / den
  let r := num % den
  if 2 * r < den then q
  else if den < 2 * r then q + 1
  else if q % 2 = 0 then q else q + 1

/-- A number times a power of two, as a fraction: numerator and denominator. -/
def scale (num den : Nat) (exponent : Int) : Nat × Nat :=
  if 0 ≤ exponent then (num * Nat.pow 2 exponent.toNat, den)
  else (num, den * Nat.pow 2 (-exponent).toNat)

/-- The greatest `l` with `2 ^ l ≤ num / den`, for positive numbers. -/
def floorLog2 (num den : Nat) : Int :=
  let guess : Int := (Nat.log2 num : Int) - (Nat.log2 den : Int)
  let (a, b) := scale num den (-guess)
  if b ≤ a then guess else guess - 1

/-- The number nearest to a fraction, a tie to the even mantissa. -/
def ofRatio (negative : Bool) (num den : Nat) : Binary64 :=
  if num = 0 then zero negative
  else
    let exponent := max (floorLog2 num den - 52) minExponent
    let (a, b) := scale num den (-exponent)
    let mantissa := divideToEven a b
    let (mantissa, exponent) :=
      if mantissa = Nat.pow 2 53 then (Nat.pow 2 52, exponent + 1) else (mantissa, exponent)
    if maxExponent < exponent then .infinity negative
    else if mantissa = 0 then zero negative
    else .finite negative mantissa exponent

/-- The count of decimal digits of a number, at least one. -/
def decimalLength (n : Nat) : Nat := (Nat.toDigits 10 n).length

/-- The number nearest to `± digits · 10 ^ exponent`. A decimal beyond the range on either side is
told by its order of magnitude, before any power is taken. -/
def ofDecimal (negative : Bool) (digits : Nat) (exponent : Int) : Binary64 :=
  let magnitude : Int := (decimalLength digits : Int) + exponent
  if digits = 0 ∨ magnitude < -330 then zero negative
  else if 330 < magnitude then .infinity negative
  else if 0 ≤ exponent then ofRatio negative (digits * Nat.pow 10 exponent.toNat) 1
  else ofRatio negative digits (Nat.pow 10 (-exponent).toNat)

/-- Whether a number is neither zero nor not-a-number. -/
def isNonzero : Binary64 → Bool
  | .nan => true
  | .infinity _ => true
  | .finite _ m _ => m != 0

/-- Whether a number is greater than zero. -/
def isPositive : Binary64 → Bool
  | .nan => false
  | .infinity negative => !negative
  | .finite negative m _ => !negative && m != 0

/-- Twice a number: exact, or an infinity where the range ends. -/
def double : Binary64 → Binary64
  | .nan => .nan
  | .infinity negative => .infinity negative
  | .finite negative m e =>
    let (a, b) := scale m 1 (e + 1)
    ofRatio negative a b

/-- The fraction that a finite number is, as a signed numerator over a positive denominator. -/
def toRatio? : Binary64 → Option (Int × Nat)
  | .finite negative m e =>
    let (a, b) := scale m 1 e
    some (if negative then -(a : Int) else a, b)
  | _ => none

/-- Whether two numbers are equal in value: zeros of both signs are, and nothing equals
not-a-number. -/
def sameValue : Binary64 → Binary64 → Bool
  | .nan, _ => false
  | _, .nan => false
  | .infinity a, .infinity b => a == b
  | .finite a m e, .finite b n f => (m == 0 && n == 0) || (a == b && m == n && e == f)
  | _, _ => false

/-- Whether a number equals an integer in value. -/
def equalsInt (x : Binary64) (i : Int) : Bool :=
  match x.toRatio? with
  | some (num, den) => num == i * den
  | none => false

end Binary64

end ArgumentSchema
