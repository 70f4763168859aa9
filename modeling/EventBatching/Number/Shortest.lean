import EventBatching.Number.Binary64

/-!
# Shortest decimal text

The text of a floating point number has the fewest digits that read back as the number, and of those
the digits nearest to it. The search is exact: a positive number `s * 2 ^ e` is read back from every
decimal in an interval around it. Seventeen digits are always enough, so the interval is measured in
units of the seventeenth digit; the coarsest grid of decimals is taken that has a point between its
ends, and on that grid the two neighbours of the number are tested.

* `Decimal.shortest` finds the digits.
* `Binary64.text` lays them out: plainly for decimal exponents from `-5` to `15`, and otherwise with
  one digit before the point and a written exponent.
-/

namespace EventBatching

/-- A positive decimal `digits * 10 ^ exponent`. -/
structure Decimal where
  /-- The digits, read as a natural number. -/
  digits : Nat
  /-- The power of ten that the last digit counts. -/
  exponent : Int
  deriving Repr, DecidableEq

/-- The interval of numbers that are rounded to one positive floating point number, in units of
`2 ^ unit`. -/
structure RoundingInterval where
  /-- The lower end. -/
  lower : Nat
  /-- The number itself. -/
  centre : Nat
  /-- The upper end. -/
  upper : Nat
  /-- Whether the ends belong to the interval. -/
  closed : Bool
  /-- The exponent of two of the unit. -/
  unit : Int

namespace RoundingInterval

/-- The interval of a floating point number. Its ends are the midpoints to the two neighbouring
numbers, and the neighbour below a power of two is only half as far away as the one above. -/
def of (x : Binary64) : RoundingInterval :=
  let centre := 4 * x.significand
  let below := if x.significand = Binary64.hiddenBit ∧ Binary64.minExponent < x.exponent then 1 else 2
  { lower := centre - below
    centre := centre
    upper := centre + 2
    closed := x.significand % 2 = 0
    unit := x.exponent - 2 }

/-- Whether `value` lies in the interval from `low` to `high`, all in one unit. -/
def admits (i : RoundingInterval) (low high value : Nat) : Bool :=
  if i.closed then low ≤ value && value ≤ high else low < value && value < high

end RoundingInterval

namespace Decimal

/-- The exponent of the first digit: the greatest `k` with `10 ^ k ≤ num / den`, for a positive
quotient. -/
def leadingExponent (num den : Nat) : Int :=
  let atMost (k : Int) : Bool := den * Nat.pow 10 k.toNat ≤ num * Nat.pow 10 (-k).toNat
  let guess : Int := ((num.log2 : Int) - (den.log2 : Int)) * 30103 / 100000
  if atMost (guess + 1) then guess + 1
  else if atMost guess then guess
  else if atMost (guess - 1) then guess - 1
  else guess - 2

/-- The decimal on the grid of multiples of `10 ^ exponent` that lies in the interval and is nearest
to its centre; a tie goes to the even digit. -/
def onGrid? (i : RoundingInterval) (exponent : Int) : Option Decimal :=
  let scale := Nat.pow 2 i.unit.toNat * Nat.pow 10 (-exponent).toNat
  let step := Nat.pow 2 (-i.unit).toNat * Nat.pow 10 exponent.toNat
  let below := i.centre * scale / step
  let excess := i.centre * scale % step
  let admitted (digits : Nat) : Bool := i.admits (i.lower * scale) (i.upper * scale) (digits * step)
  let nearer :=
    if step < 2 * excess ∨ (2 * excess = step ∧ below % 2 = 1) then below + 1 else below
  if admitted nearer then some ⟨nearer, exponent⟩
  else if admitted below then some ⟨below, exponent⟩
  else if admitted (below + 1) then some ⟨below + 1, exponent⟩
  else none

/-- The least and the greatest multiple of `10 ^ exponent` that lie in the interval, in units of
`10 ^ exponent`. -/
def multiplesWithin (i : RoundingInterval) (exponent : Int) : Nat × Nat :=
  let scale := Nat.pow 2 i.unit.toNat * Nat.pow 10 (-exponent).toNat
  let step := Nat.pow 2 (-i.unit).toNat * Nat.pow 10 exponent.toNat
  let low := i.lower * scale
  let high := i.upper * scale
  if i.closed then ((low + step - 1) / step, high / step)
  else (low / step + 1, (high - 1) / step)

/-- How many digits at the end can be spared, up to a number of them: the greatest `n` such that a
multiple of `10 ^ n` lies between `low` and `high`. -/
def spareDigits (low high : Nat) : (limit : Nat) → Nat
  | 0 => 0
  | limit + 1 =>
    if low ≤ high / Nat.pow 10 (limit + 1) * Nat.pow 10 (limit + 1) then limit + 1
    else spareDigits low high limit

/-- The decimal with the fewest digits that reads back as the magnitude of `x`, which is not zero.
-/
def shortest (x : Binary64) : Decimal :=
  let i := RoundingInterval.of x
  let finest := leadingExponent x.numerator x.denominator - 16
  let (low, high) := multiplesWithin i finest
  (onGrid? i (finest + spareDigits low high 16)).getD ⟨0, finest⟩

end Decimal

namespace Binary64

/-- The significant digits as characters, without zeros at the end. -/
def significantDigits (d : Decimal) : List Char :=
  ((Nat.toDigits 10 d.digits).reverse.dropWhile (· == '0')).reverse

/-- Digits laid out around the decimal point, with `leading` the exponent of the first digit. -/
def plain (leading : Int) (digits : List Char) : List Char :=
  if leading < 0 then
    '0' :: '.' :: (List.replicate (-leading - 1).toNat '0' ++ digits)
  else
    let whole := leading.toNat + 1
    let fraction := digits.drop whole
    digits.take whole ++ List.replicate (whole - digits.length) '0' ++ '.' ::
      (if fraction.isEmpty then ['0'] else fraction)

/-- Digits with the point after the first one, followed by the exponent and its sign. -/
def scientific (leading : Int) (digits : List Char) : List Char :=
  let fraction := digits.drop 1
  digits.take 1 ++ (if fraction.isEmpty then [] else '.' :: fraction) ++
    'e' :: (if leading < 0 then '-' else '+') :: Nat.toDigits 10 leading.natAbs

/-- The magnitude of a number as text. -/
def magnitudeText (x : Binary64) : List Char :=
  if x.isZero then ['0', '.', '0']
  else
    let d := Decimal.shortest x
    let leading := d.exponent + (Nat.toDigits 10 d.digits).length - 1
    let digits := significantDigits d
    if -5 ≤ leading ∧ leading ≤ 15 then plain leading digits else scientific leading digits

/-- The text of a number: the shortest digits that read back, always with a fraction or an exponent,
so that it is never taken for an integer. -/
def text (x : Binary64) : List Char :=
  if x.negative then '-' :: x.magnitudeText else x.magnitudeText

end Binary64

end EventBatching
