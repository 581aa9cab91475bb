import ArgumentSchema.Number.Shortest

/-!
# How a floating point number is written

A `NumberFormat` fixes every decision of a written form: between which magnitudes the point is
placed without an exponent, how many digits the exponent has at least, and the words for the
infinities and for not-a-number. `Binary64.write` writes the shortest decimal in such a format.
Whole numbers keep one zero behind the point, and a positive exponent carries its sign.
-/

namespace ArgumentSchema

/-- The decisions of a written form of floating point numbers. -/
structure NumberFormat where
  /-- The point is placed without exponent when the value is `0.digits · 10 ^ p` with
  `minPoint ≤ p ≤ maxPoint`. -/
  minPoint : Int
  maxPoint : Int
  /-- The exponent is padded with zeros to this many digits. -/
  exponentDigits : Nat
  infinity : String
  negativeInfinity : String
  nan : String
deriving Repr

namespace Binary64

/-- Zeros in front of a row of digits, up to a width. -/
def padZeros (width : Nat) (cs : List Char) : List Char :=
  List.replicate (width - cs.length) '0' ++ cs

/-- A decimal without sign. -/
def writeDecimal (f : NumberFormat) (d : Decimal) : List Char :=
  let ds := Nat.toDigits 10 d.digits
  let n : Int := ds.length
  if f.minPoint ≤ d.point ∧ d.point ≤ f.maxPoint then
    if d.point ≤ 0 then '0' :: '.' :: (List.replicate (-d.point).toNat '0' ++ ds)
    else if n ≤ d.point then ds ++ List.replicate (d.point - n).toNat '0' ++ ['.', '0']
    else ds.take d.point.toNat ++ '.' :: ds.drop d.point.toNat
  else
    let exponent := d.point - 1
    let mantissa := match ds with
      | [] => []
      | [c] => [c]
      | c :: rest => c :: '.' :: rest
    let sign := if exponent < 0 then '-' else '+'
    mantissa ++ 'e' :: sign :: padZeros f.exponentDigits (Nat.toDigits 10 exponent.natAbs)

/-- A floating point number in a written form. -/
def write (f : NumberFormat) : Binary64 → String
  | .nan => f.nan
  | .infinity negative => if negative then f.negativeInfinity else f.infinity
  | .finite negative m e =>
    let body := if m = 0 then ['0', '.', '0'] else writeDecimal f (shortest m e)
    String.ofList (if negative then '-' :: body else body)

end Binary64

/-- The form in messages and in dumps of values: an exponent from `10 ^ 16` up and below
`10 ^ -4`, with at least two digits. -/
def NumberFormat.plain : NumberFormat := ⟨-3, 16, 2, "inf", "-inf", "nan"⟩

/-- The form of `plain` with the words that JSON readers commonly accept. -/
def NumberFormat.looseJson : NumberFormat := ⟨-3, 16, 2, "Infinity", "-Infinity", "NaN"⟩

/-- The form in strict JSON, which has no word for the infinities and not-a-number: an exponent
from `10 ^ 16` up and below `10 ^ -5`, without padding. -/
def NumberFormat.strictJson : NumberFormat := ⟨-4, 16, 1, "null", "null", "null"⟩

end ArgumentSchema
