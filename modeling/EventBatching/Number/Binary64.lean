/-!
# Finite 64-bit binary floating point numbers

A payload may hold a number that no 64-bit integer can represent. Such a number is kept as a finite
binary floating point value: a sign, a significand below `2 ^ 53` and an exponent of two between
`-1074` and `971`. All arithmetic here is exact arithmetic on naturals followed by one rounding to
the nearest value, ties to the even significand, so that every result is a plain computation that
can be evaluated and reasoned about.

* `Binary64.ofRatio?` rounds a quotient of naturals; it has no answer when the quotient is too
  large.
* `Binary64.mul?` and `Binary64.div?` are the two operations that reading a decimal numeral needs.
-/

namespace EventBatching

/-- A finite binary floating point number: `± significand * 2 ^ exponent`. A significand below
`2 ^ 52` occurs only with the least exponent `-1074`. -/
structure Binary64 where
  /-- Whether the sign bit is set. Zero has a sign too. -/
  negative : Bool
  /-- The significand, below `2 ^ 53`. -/
  significand : Nat
  /-- The exponent of two, between `-1074` and `971`. -/
  exponent : Int
  deriving Repr, DecidableEq, Inhabited

namespace Binary64

/-- The least exponent of two. -/
def minExponent : Int := -1074

/-- The greatest exponent of two. -/
def maxExponent : Int := 971

/-- The significand of a power of two: its first binary digit. -/
def hiddenBit : Nat := 0x10000000000000

/-- The end of the significands. -/
def significandEnd : Nat := 0x20000000000000

/-- Zero with the given sign. -/
def zero (negative : Bool) : Binary64 := ⟨negative, 0, minExponent⟩

/-- Both zeros, the positive and the negative one. -/
def isZero (x : Binary64) : Bool := x.significand == 0

/-- The same magnitude with the opposite sign. -/
def neg (x : Binary64) : Binary64 := { x with negative := !x.negative }

/-- The numerator of the magnitude as a quotient of naturals. -/
def numerator (x : Binary64) : Nat := x.significand * Nat.pow 2 x.exponent.toNat

/-- The denominator of the magnitude as a quotient of naturals. -/
def denominator (x : Binary64) : Nat := Nat.pow 2 (-x.exponent).toNat

/-- `num / den` rounded to an integer, a half going to the even neighbour. -/
def divideToEven (num den : Nat) : Nat :=
  let quotient := num / den
  let twice := 2 * (num % den)
  if den < twice ∨ (twice = den ∧ quotient % 2 = 1) then quotient + 1 else quotient

/-- `num / (den * 2 ^ exponent)` without a negative power: the pair of its numerator and
denominator. -/
def scaledRatio (num den : Nat) (exponent : Int) : Nat × Nat :=
  (num * Nat.pow 2 (-exponent).toNat, den * Nat.pow 2 exponent.toNat)

/-- The exponent at which `num / den` has a whole part of 53 binary digits. -/
def ratioExponent (num den : Nat) : Int :=
  let guess : Int := (num.log2 : Int) - (den.log2 : Int) - 52
  let (scaledNum, scaledDen) := scaledRatio num den guess
  if scaledNum / scaledDen < hiddenBit then guess - 1 else guess

/-- The value nearest to `num / den`, ties to the even significand; none when the magnitude rounds
above the greatest finite value. -/
def ofRatio? (negative : Bool) (num den : Nat) : Option Binary64 :=
  if num = 0 then some (zero negative)
  else
    let exponent := max minExponent (ratioExponent num den)
    let (scaledNum, scaledDen) := scaledRatio num den exponent
    let significand := divideToEven scaledNum scaledDen
    let rounded : Binary64 :=
      if significand = significandEnd then ⟨negative, hiddenBit, exponent + 1⟩
      else ⟨negative, significand, exponent⟩
    if maxExponent < rounded.exponent then none else some rounded

/-- The value nearest to a natural. Every natural below `2 ^ 1023` has one; a natural that is too
large gives the greatest finite value. -/
def ofNat (num : Nat) : Binary64 :=
  (ofRatio? false num 1).getD ⟨false, significandEnd - 1, maxExponent⟩

/-- The product, rounded once; none when it is too large. -/
def mul? (x y : Binary64) : Option Binary64 :=
  ofRatio? (x.negative != y.negative) (x.numerator * y.numerator) (x.denominator * y.denominator)

/-- The quotient by a nonzero value, rounded once; none when it is too large. -/
def div? (x y : Binary64) : Option Binary64 :=
  ofRatio? (x.negative != y.negative) (x.numerator * y.denominator) (x.denominator * y.numerator)

/-- The value nearest to the power of ten `10 ^ n`, for `n` up to `308`. -/
def powerOfTen (n : Nat) : Binary64 := ofNat (Nat.pow 10 n)

end Binary64

end EventBatching
