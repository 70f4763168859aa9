import EventBatching.Number.Binary64
import Mathlib.Algebra.Order.Field.Power
import Mathlib.Algebra.Order.Field.Rat
import Mathlib.Tactic.FieldSimp
import Mathlib.Tactic.Linarith
import Mathlib.Tactic.NormNum
import Mathlib.Tactic.Positivity
import Mathlib.Tactic.Ring

/-!
# Rounding to floating point numbers

A quotient of naturals is rounded in two steps: the exponent is found at which its whole part has 53
binary digits, and the whole part is rounded there. The result is at most half a unit of its last
digit away, and there is no result exactly where the numbers end. Everything is said about
magnitudes as rational numbers.

* `Binary64.ratioExponent_bounds` says that the exponent is the right one.
* `Binary64.ofRatio?_cases` is what rounding a quotient comes to.
* `Binary64.ofNat_bounds`, `Binary64.mul?_of_lt` and `Binary64.div?_of_lt` are what the readers of
  numerals need of it.
-/

namespace EventBatching.Binary64

/-! ## Magnitudes -/

/-- The magnitude of a floating point number. -/
def magnitude (x : Binary64) : ℚ := x.significand * 2 ^ x.exponent

/-- The significand and the exponent of a number are where they should be. -/
structure InRange (x : Binary64) : Prop where
  /-- The significand has at most 53 digits. -/
  significand_lt : x.significand < significandEnd
  /-- The exponent is not below the least one. -/
  le_exponent : minExponent ≤ x.exponent
  /-- The exponent is not above the greatest one. -/
  exponent_le : x.exponent ≤ maxExponent

theorem magnitude_nonneg (x : Binary64) : 0 ≤ x.magnitude := by
  rw [magnitude]
  positivity

theorem magnitude_pos {x : Binary64} (nonzero : 0 < x.significand) : 0 < x.magnitude := by
  have hcast : (0 : ℚ) < x.significand := by exact_mod_cast nonzero
  rw [magnitude]
  positivity

/-- A power is a quotient of powers with natural exponents. -/
theorem pow_toNat_div {b : ℚ} (hb : b ≠ 0) (k : ℤ) : b ^ k.toNat / b ^ (-k).toNat = b ^ k := by
  rw [← zpow_natCast, ← zpow_natCast, ← zpow_sub₀ hb]
  congr 1
  omega

theorem numerator_div_denominator (x : Binary64) :
    (x.numerator : ℚ) / x.denominator = x.magnitude := by
  have hpow := pow_toNat_div (b := 2) (by norm_num) x.exponent
  have hnum : (x.numerator : ℚ) = x.significand * 2 ^ x.exponent.toNat := by
    rw [numerator, Nat.pow_eq]; push_cast; rfl
  have hden : (x.denominator : ℚ) = 2 ^ (-x.exponent).toNat := by
    rw [denominator, Nat.pow_eq]; push_cast; rfl
  rw [hnum, hden, mul_div_assoc, hpow, magnitude]

theorem denominator_pos (x : Binary64) : 0 < x.denominator := Nat.pow_pos (by decide)

theorem scaledRatio_div (num den : ℕ) (e : ℤ) :
    ((scaledRatio num den e).1 : ℚ) / (scaledRatio num den e).2 = num / den / 2 ^ e := by
  have hpow := pow_toNat_div (b := 2) (by norm_num) e
  have hfst : ((scaledRatio num den e).1 : ℚ) = num * 2 ^ (-e).toNat := by
    simp only [scaledRatio, Nat.pow_eq]; push_cast; rfl
  have hsnd : ((scaledRatio num den e).2 : ℚ) = den * 2 ^ e.toNat := by
    simp only [scaledRatio, Nat.pow_eq]; push_cast; rfl
  rw [hfst, hsnd, ← hpow]
  field_simp

theorem scaledRatio_snd_pos (num : ℕ) {den : ℕ} (hden : 0 < den) (e : ℤ) :
    0 < (scaledRatio num den e).2 := Nat.mul_pos hden (Nat.pow_pos (by decide))

/-! ## Rounding to an integer -/

theorem divideToEven_cases (num den : ℕ) :
    (divideToEven num den = num / den ∧ 2 * (num % den) ≤ den) ∨
      (divideToEven num den = num / den + 1 ∧ den ≤ 2 * (num % den)) := by
  rw [divideToEven]
  split
  · next h => exact .inr ⟨rfl, by omega⟩
  · next h => exact .inl ⟨rfl, by omega⟩

/-- An integer is at most a half away from what it is rounded from. -/
theorem divideToEven_near (num : ℕ) {den : ℕ} (hden : 0 < den) :
    (num / den : ℚ) - 1 / 2 ≤ divideToEven num den ∧
      (divideToEven num den : ℚ) ≤ num / den + 1 / 2 := by
  have hpos : (0 : ℚ) < den := by exact_mod_cast hden
  have hsplit : (num : ℚ) = den * (num / den : ℕ) + (num % den : ℕ) := by
    exact_mod_cast (Nat.div_add_mod num den).symm
  have hless : ((num % den : ℕ) : ℚ) < den := by exact_mod_cast Nat.mod_lt num hden
  have hnonneg : (0 : ℚ) ≤ ((num % den : ℕ) : ℚ) := by positivity
  have hquot : (num : ℚ) / den = (num / den : ℕ) + (num % den : ℕ) / den := by
    rw [hsplit]
    field_simp
  have hunit : ((num % den : ℕ) : ℚ) / den < 1 := (div_lt_one hpos).2 hless
  have hzero : (0 : ℚ) ≤ ((num % den : ℕ) : ℚ) / den := by positivity
  rcases divideToEven_cases num den with ⟨heven, hhalf⟩ | ⟨heven, hhalf⟩
  · have hle : ((num % den : ℕ) : ℚ) / den ≤ 1 / 2 := by
      rw [div_le_div_iff₀ hpos (by norm_num)]
      have : (2 * (num % den : ℕ) : ℚ) ≤ den := by exact_mod_cast hhalf
      linarith
    rw [heven, hquot]
    constructor <;> linarith
  · have hle : (1 : ℚ) / 2 ≤ ((num % den : ℕ) : ℚ) / den := by
      rw [div_le_div_iff₀ (by norm_num) hpos]
      have : (den : ℚ) ≤ 2 * (num % den : ℕ) := by exact_mod_cast hhalf
      linarith
    rw [heven, hquot]
    push_cast
    constructor <;> linarith

theorem half_mul_two_zpow (e : ℤ) : (1 / 2 : ℚ) * 2 ^ e = 2 ^ (e - 1) := by
  rw [zpow_sub_one₀ (by norm_num)]
  ring

/-- Rounded to a multiple of a power of two, a quotient moves by at most half of the power. -/
theorem divideToEven_scaled (num : ℕ) {den : ℕ} (hden : 0 < den) (e : ℤ) :
    (num / den : ℚ) ≤ divideToEven (scaledRatio num den e).1 (scaledRatio num den e).2 * 2 ^ e +
        2 ^ (e - 1) ∧
      divideToEven (scaledRatio num den e).1 (scaledRatio num den e).2 * 2 ^ e ≤
        (num / den : ℚ) + 2 ^ (e - 1) := by
  have hpow : (0 : ℚ) < 2 ^ e := by positivity
  obtain ⟨hdown, hup⟩ := divideToEven_near (scaledRatio num den e).1
    (scaledRatio_snd_pos num hden e)
  rw [scaledRatio_div] at hdown hup
  have hlow := mul_le_mul_of_nonneg_right hdown hpow.le
  have hhigh := mul_le_mul_of_nonneg_right hup hpow.le
  rw [sub_mul, div_mul_cancel₀ _ hpow.ne', half_mul_two_zpow] at hlow
  rw [add_mul, div_mul_cancel₀ _ hpow.ne', half_mul_two_zpow] at hhigh
  exact ⟨by linarith, hhigh⟩

/-! ## The place of the first digit -/

section Ratio

variable {num den : ℕ}

theorem two_pow_log2_le {n : ℕ} (hn : 0 < n) : (2 : ℚ) ^ (n.log2 : ℤ) ≤ n := by
  rw [zpow_natCast]
  exact_mod_cast Nat.log2_self_le (Nat.pos_iff_ne_zero.1 hn)

theorem lt_two_pow_log2 (n : ℕ) : (n : ℚ) < 2 ^ ((n.log2 : ℤ) + 1) := by
  have h : n < 2 ^ (n.log2 + 1) := Nat.lt_log2_self
  exact_mod_cast h

/-- A quotient lies within a factor of two of the quotient of the first digits. -/
theorem ratio_bounds (hnum : 0 < num) (hden : 0 < den) :
    (2 : ℚ) ^ ((num.log2 : ℤ) - den.log2 - 1) < num / den ∧
      (num / den : ℚ) < 2 ^ ((num.log2 : ℤ) - den.log2 + 1) := by
  have hpos : (0 : ℚ) < den := by exact_mod_cast hden
  have hnpos : (0 : ℚ) < num := by exact_mod_cast hnum
  have hlow := two_pow_log2_le hnum
  have hhigh := lt_two_pow_log2 num
  have hdlow := two_pow_log2_le hden
  have hdhigh := lt_two_pow_log2 den
  constructor
  · rw [lt_div_iff₀ hpos]
    calc (2 : ℚ) ^ ((num.log2 : ℤ) - den.log2 - 1) * den
        < 2 ^ ((num.log2 : ℤ) - den.log2 - 1) * 2 ^ ((den.log2 : ℤ) + 1) := by gcongr
      _ = 2 ^ (num.log2 : ℤ) := by
        rw [← zpow_add₀ (by norm_num)]
        congr 1
        omega
      _ ≤ num := hlow
  · rw [div_lt_iff₀ hpos]
    calc (num : ℚ) < 2 ^ ((num.log2 : ℤ) + 1) := hhigh
      _ = 2 ^ ((num.log2 : ℤ) - den.log2 + 1) * 2 ^ (den.log2 : ℤ) := by
        rw [← zpow_add₀ (by norm_num)]
        congr 1
        omega
      _ ≤ 2 ^ ((num.log2 : ℤ) - den.log2 + 1) * den := by gcongr

theorem hiddenBit_cast : ((hiddenBit : ℕ) : ℚ) = 2 ^ (52 : ℤ) := by norm_num [hiddenBit]

theorem significandEnd_cast : ((significandEnd : ℕ) : ℚ) = 2 ^ (53 : ℤ) := by
  norm_num [significandEnd]

theorem le_nat_div_iff {a n d : ℕ} (hd : 0 < d) : a ≤ n / d ↔ (a : ℚ) ≤ n / d := by
  have hpos : (0 : ℚ) < d := by exact_mod_cast hd
  rw [Nat.le_div_iff_mul_le hd, le_div_iff₀ hpos]
  exact_mod_cast Iff.rfl

/-- At the exponent of a quotient, its whole part has 53 digits. -/
theorem ratioExponent_bounds (hnum : 0 < num) (hden : 0 < den) :
    (2 : ℚ) ^ (52 : ℤ) * 2 ^ ratioExponent num den ≤ num / den ∧
      (num / den : ℚ) < 2 ^ (53 : ℤ) * 2 ^ ratioExponent num den := by
  obtain ⟨hlow, hhigh⟩ := ratio_bounds hnum hden
  set guess : ℤ := (num.log2 : ℤ) - (den.log2 : ℤ) - 52 with hguess
  have hpow : (0 : ℚ) < 2 ^ guess := by positivity
  have hscaled := scaledRatio_div num den guess
  have hpos := scaledRatio_snd_pos num hden guess
  have htest : (scaledRatio num den guess).1 / (scaledRatio num den guess).2 < hiddenBit ↔
      (num / den : ℚ) < 2 ^ (52 : ℤ) * 2 ^ guess := by
    rw [← not_le, le_nat_div_iff hpos, hscaled, not_le, hiddenBit_cast, div_lt_iff₀ hpow]
  rw [ratioExponent]
  simp only [← hguess]
  by_cases hsmall : (num / den : ℚ) < 2 ^ (52 : ℤ) * 2 ^ guess
  · rw [if_pos (htest.2 hsmall)]
    rw [← zpow_add₀ (by norm_num)] at hsmall ⊢
    rw [← zpow_add₀ (by norm_num)]
    have h1 : (52 : ℤ) + (guess - 1) = num.log2 - den.log2 - 1 := by omega
    have h2 : (53 : ℤ) + (guess - 1) = 52 + guess := by omega
    rw [h1, h2]
    exact ⟨hlow.le, hsmall⟩
  · rw [if_neg (mt htest.1 hsmall)]
    rw [← zpow_add₀ (by norm_num), not_lt] at hsmall
    rw [← zpow_add₀ (by norm_num), ← zpow_add₀ (by norm_num)]
    have h2 : (53 : ℤ) + guess = num.log2 - den.log2 + 1 := by omega
    rw [h2]
    exact ⟨hsmall, hhigh⟩

/-- The exponent at which a quotient is rounded. -/
def ratioStep (num den : ℕ) : ℤ := max minExponent (ratioExponent num den)

theorem lt_ratioStep (hnum : 0 < num) (hden : 0 < den) :
    (num / den : ℚ) < 2 ^ (53 : ℤ) * 2 ^ ratioStep num den := by
  have hle : (2 : ℚ) ^ ratioExponent num den ≤ 2 ^ ratioStep num den :=
    zpow_le_zpow_right₀ (by norm_num) (le_max_right ..)
  exact (ratioExponent_bounds hnum hden).2.trans_le (by gcongr)

/-- A quotient has 53 digits before the place where it is rounded, or the place is the last one. -/
theorem ratioStep_cases (hnum : 0 < num) (hden : 0 < den) :
    2 ^ (52 : ℤ) * 2 ^ ratioStep num den ≤ (num / den : ℚ) ∨
      ratioStep num den = minExponent ∧
        (num / den : ℚ) < 2 ^ (53 : ℤ) * 2 ^ ratioStep num den := by
  rcases max_choice minExponent (ratioExponent num den) with h | h
  · exact .inr ⟨h, lt_ratioStep hnum hden⟩
  · have hstep : ratioStep num den = ratioExponent num den := h
    rw [hstep]
    exact .inl (ratioExponent_bounds hnum hden).1

/-- The significand has at most one digit too many. -/
theorem divideToEven_le (hnum : 0 < num) (hden : 0 < den) :
    divideToEven (scaledRatio num den (ratioStep num den)).1
      (scaledRatio num den (ratioStep num den)).2 ≤ significandEnd := by
  have hpow : (0 : ℚ) < 2 ^ ratioStep num den := by positivity
  have hup := (divideToEven_near (scaledRatio num den (ratioStep num den)).1
    (scaledRatio_snd_pos num hden (ratioStep num den))).2
  have hdiv : (num / den : ℚ) / 2 ^ ratioStep num den < significandEnd := by
    rw [significandEnd_cast]
    exact (div_lt_iff₀ hpow).2 (lt_ratioStep hnum hden)
  rw [scaledRatio_div] at hup
  have hlt : (divideToEven (scaledRatio num den (ratioStep num den)).1
      (scaledRatio num den (ratioStep num den)).2 : ℚ) < (significandEnd + 1 : ℕ) := by
    push_cast
    linarith
  exact Nat.le_of_lt_succ (Nat.cast_lt.1 hlt)

end Ratio

/-! ## Rounding a quotient -/

/-- The end of the quotients that are rounded to a number: the middle between the greatest number
and the power of two above it. -/
def overflowEnd : ℚ := (2 ^ 54 - 1) * 2 ^ (970 : ℤ)

/-- A number is what a quotient is rounded to, in steps of a power of two. -/
structure RoundsTo (q : ℚ) (step : ℤ) (y : Binary64) : Prop where
  /-- It is in range. -/
  inRange : y.InRange
  /-- It is at most half a step below the quotient. -/
  le_add : q ≤ y.magnitude + 2 ^ (step - 1)
  /-- It is at most half a step above the quotient. -/
  le : y.magnitude ≤ q + 2 ^ (step - 1)
  /-- The step is the least one, or the quotient has 53 digits before it. -/
  step_le : 2 ^ (52 : ℤ) * 2 ^ step ≤ q ∨ step = minExponent ∧ q < 2 ^ (53 : ℤ) * 2 ^ step

/-- A number whose significand came out one digit too long gets the next exponent. -/
def carry (x : Binary64) : Binary64 :=
  if x.significand = significandEnd then ⟨x.negative, hiddenBit, x.exponent + 1⟩ else x

theorem magnitude_carry (x : Binary64) : (carry x).magnitude = x.magnitude := by
  rw [carry]
  split
  · next h =>
    rw [magnitude, magnitude, h, zpow_add_one₀ (by norm_num)]
    norm_num [significandEnd, hiddenBit]
    ring
  · rfl

theorem carry_significand_lt {x : Binary64} (h : x.significand ≤ significandEnd) :
    (carry x).significand < significandEnd := by
  rw [carry]
  split
  · show hiddenBit < significandEnd
    decide
  · next hne => exact lt_of_le_of_ne h hne

theorem le_carry_exponent (x : Binary64) : x.exponent ≤ (carry x).exponent := by
  rw [carry]
  split
  · exact Int.le_of_lt (Int.lt_succ _)
  · exact le_rfl

/-- A quotient whose number has too large an exponent is too large itself. -/
theorem overflowEnd_le {q : ℚ} {x : Binary64} (large : maxExponent < (carry x).exponent)
    (scale : 2 ^ (52 : ℤ) * 2 ^ x.exponent ≤ q ∨
      x.exponent = minExponent ∧ q < 2 ^ (53 : ℤ) * 2 ^ x.exponent)
    (near : x.magnitude ≤ q + 2 ^ (x.exponent - 1)) : overflowEnd ≤ q := by
  rw [carry] at large
  split at large
  · next hend =>
    have hstep : (2 : ℚ) ^ (971 : ℤ) ≤ 2 ^ x.exponent :=
      zpow_le_zpow_right₀ (by norm_num) (by simp only [maxExponent] at large; omega)
    rw [magnitude, hend, significandEnd_cast, ← half_mul_two_zpow] at near
    have hend : overflowEnd = (2 ^ (53 : ℤ) - 1 / 2) * 2 ^ (971 : ℤ) := by
      have hsucc : (2 : ℚ) ^ (971 : ℤ) = 2 ^ (970 : ℤ) * 2 := zpow_add_one₀ (by norm_num) 970
      rw [overflowEnd, hsucc]
      generalize (2 : ℚ) ^ (970 : ℤ) = unit
      ring
    have hfactor : (0 : ℚ) ≤ 2 ^ (53 : ℤ) - 1 / 2 := by norm_num
    have hmul := mul_le_mul_of_nonneg_left hstep hfactor
    rw [hend]
    linarith
  · have hexponent : (972 : ℤ) ≤ x.exponent := by simp only [maxExponent] at large; omega
    rcases scale with hscale | ⟨hmin, -⟩
    · have hstep : (2 : ℚ) ^ (972 : ℤ) ≤ 2 ^ x.exponent :=
        zpow_le_zpow_right₀ (by norm_num) hexponent
      have hend : overflowEnd ≤ 2 ^ (52 : ℤ) * 2 ^ (972 : ℤ) := by
        have hsplit : (2 : ℚ) ^ (972 : ℤ) = 2 ^ (970 : ℤ) * 2 ^ (2 : ℤ) :=
          zpow_add₀ (by norm_num) 970 2
        have hpos : (0 : ℚ) < 2 ^ (970 : ℤ) := by positivity
        rw [overflowEnd, hsplit]
        generalize (2 : ℚ) ^ (970 : ℤ) = unit at hpos
        norm_num
        linarith
      have hfactor : (0 : ℚ) ≤ 2 ^ (52 : ℤ) := by norm_num
      exact hend.trans ((mul_le_mul_of_nonneg_left hstep hfactor).trans hscale)
    · rw [hmin, minExponent] at hexponent
      omega

/-- A quotient is rounded to a number, unless it is too large. -/
theorem ofRatio?_cases (negative : Bool) {num den : ℕ} (hnum : 0 < num) (hden : 0 < den) :
    (ofRatio? negative num den = none ∧ overflowEnd ≤ num / den) ∨
      ∃ y step, ofRatio? negative num den = some y ∧ RoundsTo (num / den) step y := by
  set step : ℤ := ratioStep num den with hstep
  set x : Binary64 :=
    ⟨negative, divideToEven (scaledRatio num den step).1 (scaledRatio num den step).2, step⟩
  obtain ⟨hdown, hup⟩ : (num / den : ℚ) ≤ x.magnitude + 2 ^ (step - 1) ∧
      x.magnitude ≤ num / den + 2 ^ (step - 1) := divideToEven_scaled num hden step
  have hscale := ratioStep_cases hnum hden
  rw [← hstep] at hscale
  have hround : ofRatio? negative num den =
      if maxExponent < (carry x).exponent then none else some (carry x) := by
    rw [ofRatio?, if_neg (Nat.pos_iff_ne_zero.1 hnum)]
    rfl
  rw [hround]
  -- the exponent is too large after the carry, which may be the only reason for it
  by_cases hlarge : maxExponent < (carry x).exponent
  · rw [if_pos hlarge]
    exact .inl ⟨rfl, overflowEnd_le hlarge hscale hup⟩
  · have hinRange : (carry x).InRange :=
      ⟨carry_significand_lt (divideToEven_le hnum hden),
        (le_max_left minExponent _).trans (le_carry_exponent x), not_lt.1 hlarge⟩
    rw [if_neg hlarge]
    rw [← magnitude_carry x] at hdown hup
    exact .inr ⟨carry x, step, rfl, hinRange, hdown, hup, hscale⟩

theorem zero_inRange (negative : Bool) : (zero negative).InRange :=
  ⟨by show 0 < significandEnd; decide, le_rfl, by show minExponent ≤ maxExponent; decide⟩

theorem ofRatio?_zero (negative : Bool) (den : ℕ) :
    ofRatio? negative 0 den = some (zero negative) := if_pos rfl

namespace RoundsTo

variable {q : ℚ} {step : ℤ} {y : Binary64}

theorem half_step_le (h : RoundsTo q step y) (nonneg : 0 ≤ q) : (2 : ℚ) ^ (step - 1) ≤ q + 1 := by
  have hpow : (0 : ℚ) < 2 ^ step := by positivity
  rw [← half_mul_two_zpow]
  rcases h.step_le with hle | ⟨hmin, -⟩
  · norm_num at hle
    linarith
  · have hone : (2 : ℚ) ^ step ≤ 1 := by
      rw [hmin]
      exact zpow_le_one_of_nonpos₀ (by norm_num) (by decide)
    linarith

/-- For a quotient of at least one, half a step is a small part of it. -/
theorem half_step_le_mul (h : RoundsTo q step y) (one_le : 1 ≤ q) :
    (2 : ℚ) ^ (step - 1) ≤ q / 2 ^ (53 : ℤ) := by
  have hpow : (0 : ℚ) < 2 ^ step := by positivity
  rcases h.step_le with hle | ⟨hmin, hlt⟩
  · rw [← half_mul_two_zpow, le_div_iff₀ (by positivity)]
    norm_num at hle ⊢
    linarith
  · have hone : (2 : ℚ) ^ (53 : ℤ) * 2 ^ step ≤ 1 := by
      rw [← zpow_add₀ (by norm_num), hmin]
      exact zpow_le_one_of_nonpos₀ (by norm_num) (by decide)
    exact absurd hlt (not_lt.2 (hone.trans one_le))

/-- Rounding at most doubles a quotient, and then adds at most one. -/
theorem le_double (h : RoundsTo q step y) (nonneg : 0 ≤ q) : y.magnitude ≤ 2 * q + 1 := by
  have hle := h.le
  have hstep := h.half_step_le nonneg
  linarith

end RoundsTo

/-- What is not too large is rounded to a number. -/
theorem ofRatio?_of_lt (negative : Bool) {num den : ℕ} (hden : 0 < den)
    (small : (num / den : ℚ) < overflowEnd) :
    ∃ y, ofRatio? negative num den = some y ∧ y.InRange ∧ y.magnitude ≤ 2 * (num / den) + 1 := by
  rcases Nat.eq_zero_or_pos num with rfl | hnum
  · refine ⟨zero negative, ofRatio?_zero negative den, zero_inRange negative, ?_⟩
    simp [magnitude, zero]
  · rcases ofRatio?_cases negative hnum hden with ⟨-, hlarge⟩ | ⟨y, step, hy, hround⟩
    · exact absurd small (not_lt.2 hlarge)
    · exact ⟨y, hy, hround.inRange, hround.le_double (by positivity)⟩

theorem inRange_of_ofRatio? {negative : Bool} {num den : ℕ} {y : Binary64} (hden : 0 < den)
    (h : ofRatio? negative num den = some y) : y.InRange := by
  rcases Nat.eq_zero_or_pos num with rfl | hnum
  · rw [ofRatio?_zero] at h
    exact Option.some.inj h ▸ zero_inRange negative
  · rcases ofRatio?_cases negative hnum hden with ⟨hnone, -⟩ | ⟨y', step, hy, hround⟩
    · rw [hnone] at h
      exact absurd h nofun
    · rw [hy] at h
      exact Option.some.inj h ▸ hround.inRange

/-! ## Naturals and powers of ten -/

theorem ofNat_inRange (n : ℕ) : (ofNat n).InRange := by
  rw [ofNat]
  cases h : ofRatio? false n 1 with
  | none =>
    exact ⟨by show significandEnd - 1 < significandEnd; decide,
      by show minExponent ≤ maxExponent; decide, le_rfl⟩
  | some y => exact inRange_of_ofRatio? Nat.one_pos h

/-- A natural is rounded by a small part of it. -/
theorem ofNat_bounds {n : ℕ} (hn : 0 < n) (small : (n : ℚ) < overflowEnd) :
    (n : ℚ) * (1 - 1 / 2 ^ (53 : ℤ)) ≤ (ofNat n).magnitude ∧
      (ofNat n).magnitude ≤ n * (1 + 1 / 2 ^ (53 : ℤ)) := by
  have hone : (1 : ℚ) ≤ n := by exact_mod_cast hn
  have hcast : (n : ℚ) / (1 : ℕ) = n := by simp
  rcases ofRatio?_cases false hn Nat.one_pos with ⟨-, hlarge⟩ | ⟨y, step, hy, hround⟩
  · rw [hcast] at hlarge
    exact absurd small (not_lt.2 hlarge)
  · rw [hcast] at hround
    have hstep := hround.half_step_le_mul hone
    have hle := hround.le
    have hge := hround.le_add
    have hsplit : (n : ℚ) * (1 / 2 ^ (53 : ℤ)) = n / 2 ^ (53 : ℤ) := by ring
    rw [ofNat, hy, Option.getD_some, mul_sub, mul_add, hsplit, mul_one]
    constructor <;> linarith

theorem ten_pow_lt_overflowEnd {n : ℕ} (h : n ≤ 308) : ((10 ^ n : ℕ) : ℚ) < overflowEnd := by
  have hpow : 10 ^ n ≤ 10 ^ 308 := pow_le_pow_right₀ (by decide) h
  have hend : 10 ^ 308 < (2 ^ 54 - 1) * 2 ^ 970 := by decide +kernel
  have hlt := Nat.lt_of_le_of_lt hpow hend
  have hcast : (((2 ^ 54 - 1) * 2 ^ 970 : ℕ) : ℚ) = overflowEnd := by
    have hfactor : ((2 ^ 54 - 1 : ℕ) : ℚ) = 2 ^ 54 - 1 := by norm_num
    rw [overflowEnd, Nat.cast_mul, hfactor, Nat.cast_pow, zpow_ofNat, Nat.cast_ofNat]
  rw [← hcast]
  exact_mod_cast hlt

/-- A power of ten is rounded by less than half of it. -/
theorem five_le_powerOfTen {n : ℕ} (pos : 0 < n) (h : n ≤ 308) :
    5 ≤ (powerOfTen n).magnitude := by
  have hten : 10 ≤ 10 ^ n := Nat.le_self_pow (Nat.pos_iff_ne_zero.1 pos) 10
  have hcast : (10 : ℚ) ≤ (10 ^ n : ℕ) := by exact_mod_cast hten
  have hfactor : (1 / 2 : ℚ) ≤ 1 - 1 / 2 ^ (53 : ℤ) := by norm_num
  rw [powerOfTen, Nat.pow_eq]
  calc (5 : ℚ) = 10 * (1 / 2) := by norm_num
    _ ≤ (10 ^ n : ℕ) * (1 - 1 / 2 ^ (53 : ℤ)) := by gcongr
    _ ≤ _ := (ofNat_bounds (Nat.pow_pos (by decide)) (ten_pow_lt_overflowEnd h)).1

/-! ## Products and quotients -/

theorem inRange_of_mul? {x y z : Binary64} (h : x.mul? y = some z) : z.InRange :=
  inRange_of_ofRatio? (Nat.mul_pos x.denominator_pos y.denominator_pos) h

/-- A product that is not too large is rounded to a number. -/
theorem mul?_of_lt {x y : Binary64} (small : x.magnitude * y.magnitude < overflowEnd) :
    ∃ z, x.mul? y = some z := by
  have hratio : ((x.numerator * y.numerator : ℕ) : ℚ) / (x.denominator * y.denominator : ℕ) =
      x.magnitude * y.magnitude := by
    push_cast
    rw [mul_div_mul_comm, numerator_div_denominator, numerator_div_denominator]
  have hden := Nat.mul_pos x.denominator_pos y.denominator_pos
  obtain ⟨z, hz, -⟩ := ofRatio?_of_lt (x.negative != y.negative) hden (hratio ▸ small)
  exact ⟨z, hz⟩

theorem numerator_pos {x : Binary64} (h : 0 < x.magnitude) : 0 < x.numerator := by
  rw [← numerator_div_denominator] at h
  by_contra hzero
  rw [Nat.eq_zero_of_not_pos hzero] at h
  simp at h

theorem inRange_of_div? {x y z : Binary64} (hy : 0 < y.magnitude) (h : x.div? y = some z) :
    z.InRange :=
  inRange_of_ofRatio? (Nat.mul_pos x.denominator_pos (numerator_pos hy)) h

/-- A quotient that is not too large is rounded to a number. -/
theorem div?_of_lt {x y : Binary64} (hy : 0 < y.magnitude)
    (small : x.magnitude / y.magnitude < overflowEnd) :
    ∃ z, x.div? y = some z ∧ z.magnitude ≤ 2 * (x.magnitude / y.magnitude) + 1 := by
  have hratio : ((x.numerator * y.denominator : ℕ) : ℚ) / (x.denominator * y.numerator : ℕ) =
      x.magnitude / y.magnitude := by
    rw [← numerator_div_denominator, ← numerator_div_denominator, div_div_div_eq]
    push_cast
    rfl
  have hden := Nat.mul_pos x.denominator_pos (numerator_pos hy)
  obtain ⟨z, hz, -, hle⟩ := ofRatio?_of_lt (x.negative != y.negative) hden (hratio ▸ small)
  exact ⟨z, hz, hratio ▸ hle⟩

end EventBatching.Binary64
