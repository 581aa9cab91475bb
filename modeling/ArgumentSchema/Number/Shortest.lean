import ArgumentSchema.Number.Binary64

/-!
# The fewest digits that read back

`shortest m e` is the decimal with the fewest digits among those that round to the number
`m · 2 ^ e`, and of those the nearest to it. The reals that round to the number form an interval
around it, whose ends belong to it exactly when the mantissa is even; on the decimal grid of one
digit, two digits and so on, only the two neighbours of the number can lie in that interval. All
comparisons are exact.
-/

namespace ArgumentSchema.Binary64

/-- A positive decimal: its digits as a number, and the place of its point, so that the value is
`0.digits · 10 ^ point`. -/
structure Decimal where
  digits : Nat
  point : Int
deriving DecidableEq, Repr

/-- A number times a power of ten, as a fraction. -/
def scaleTen (num den : Nat) (exponent : Int) : Nat × Nat :=
  if 0 ≤ exponent then (num * Nat.pow 10 exponent.toNat, den)
  else (num, den * Nat.pow 10 (-exponent).toNat)

/-- Whether `n · 10 ^ grid` lies in the interval of reals that round to `m · 2 ^ e`, in quarters of
the last place. -/
def roundsTo (m : Nat) (e : Int) (n : Nat) (grid : Int) : Bool :=
  let below := if m = Nat.pow 2 52 ∧ minExponent < e then 1 else 2
  -- compare `n · 10 ^ grid` with `(4 m ± …) · 2 ^ (e - 2)` after clearing denominators
  let (x, d) := scaleTen n 1 grid
  let (lo, b) := scale (4 * m - below) 1 (e - 2)
  let (hi, _) := scale (4 * m + 2) 1 (e - 2)
  if m % 2 = 0 then lo * d ≤ x * b && x * b ≤ hi * d
  else lo * d < x * b && x * b < hi * d

/-- The neighbours of `num / den` on the grid `10 ^ grid`: the one below, and whether the one above
is nearer; a tie goes to the even one. -/
def neighbours (num den : Nat) (grid : Int) : Nat × Bool :=
  let (a, b) := scaleTen num den (-grid)
  let lo := a / b
  let r := a % b
  (lo, b < 2 * r || (2 * r == b && lo % 2 == 1))

/-- The greatest `k` with `10 ^ k ≤ num / den`, found from a guess by at most `fuel` steps. -/
def floorLog10From (num den : Nat) : Nat → Int → Int
  | 0, k => k
  | fuel + 1, k =>
    let (a, b) := scaleTen num den (-k)
    if a < b then floorLog10From num den fuel (k - 1)
    else if 10 * b ≤ a then floorLog10From num den fuel (k + 1)
    else k

/-- The greatest `k` with `10 ^ k ≤ num / den`. The guess from the binary logarithm is at most two
off. -/
def floorLog10 (num den : Nat) : Int :=
  floorLog10From num den 8 (floorLog2 num den * 30103 / 100000)

/-- The first of the grids with `k, k + 1, …` digits that has a neighbour in the interval. -/
def shortestFrom (m : Nat) (e : Int) (num den : Nat) (top : Int) : Nat → Nat → Decimal
  | 0, k => ⟨num / den, k⟩
  | fuel + 1, k =>
    let grid := top - k
    let (lo, up) := neighbours num den grid
    let loIn := lo != 0 && roundsTo m e lo grid
    let hiIn := roundsTo m e (lo + 1) grid
    if loIn && (!up || !hiIn) then ⟨lo, top⟩
    else if hiIn then
      if lo + 1 = Nat.pow 10 k then ⟨1, top + 1⟩ else ⟨lo + 1, top⟩
    else shortestFrom m e num den top fuel (k + 1)

/-- Drops the zeros at the end of a number. -/
def dropZeros : Nat → Nat → Nat
  | 0, n => n
  | fuel + 1, n => if n ≠ 0 ∧ n % 10 = 0 then dropZeros fuel (n / 10) else n

/-- The shortest decimal that reads back as the positive number `m · 2 ^ e`. -/
def shortest (m : Nat) (e : Int) : Decimal :=
  let (num, den) := scale m 1 e
  let top := floorLog10 num den + 1
  let d := shortestFrom m e num den top 17 1
  ⟨dropZeros 17 d.digits, d.point⟩

end ArgumentSchema.Binary64
