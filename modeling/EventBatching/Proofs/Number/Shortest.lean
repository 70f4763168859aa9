import EventBatching.Number.Shortest
import EventBatching.Proofs.Number.Rounding
import Mathlib.Algebra.Order.Floor.Ring
import Mathlib.Data.Rat.Floor

/-!
# Shortest decimals are close

The search for the shortest digits of a number ends with a decimal in the interval of the numbers
that are rounded to it: the finest grid of decimals has a point there, since it is finer than the
interval is wide, and every coarser grid is only taken if it has one. So the fallback of the search
is never used, and the decimal is at most half a step above the number.

* `Decimal.leadingExponent_bounds` says that the exponent of the first digit is found, by two
  rational approximations to the logarithm of two.
* `RoundingInterval.Holds` is the interval, `Decimal.holds_iff_multiplesWithin` what it has of a
  grid, and `Decimal.onGrid?_of_holds` that such a decimal is found.
* `Decimal.shortest_bounds` is what is needed of the shortest decimal.
-/

namespace EventBatching

/-! ## Powers of two and of ten -/

section Powers

variable {a k : ℤ}

theorem zpow_pow_comm (b : ℚ) (a : ℤ) (n : ℕ) : (b ^ a) ^ n = (b ^ n) ^ a := by
  rw [← zpow_natCast, ← zpow_natCast, ← zpow_mul, ← zpow_mul, mul_comm]

theorem two_pow_zpow_le {a : ℤ} (pos : 0 ≤ a) : ((2 : ℚ) ^ 93) ^ a ≤ (10 ^ 28) ^ a :=
  zpow_le_zpow_left₀ pos (by norm_num) (by norm_num)

theorem two_pow_zpow_le_of_neg {a : ℤ} (neg : a ≤ 0) : ((2 : ℚ) ^ 196) ^ a ≤ (10 ^ 59) ^ a := by
  have h : ((10 : ℚ) ^ 59) ^ (-a) ≤ (2 ^ 196) ^ (-a) :=
    zpow_le_zpow_left₀ (by omega) (by norm_num) (by norm_num)
  rw [zpow_neg, zpow_neg] at h
  exact (inv_le_inv₀ (by positivity) (by positivity)).1 h

/-- A power of two is at most a power of ten, by two approximations to the logarithm: one for
positive and one for negative exponents. -/
theorem two_zpow_le_ten_zpow (above : 28 * a ≤ 93 * k) (below : 59 * a ≤ 196 * k) :
    (2 : ℚ) ^ a ≤ 10 ^ k := by
  rcases le_total 0 a with ha | ha
  · refine le_of_pow_le_pow_left₀ (n := 93) (by decide) (by positivity) ?_
    rw [zpow_pow_comm, zpow_pow_comm]
    refine (two_pow_zpow_le ha).trans ?_
    rw [← zpow_natCast, ← zpow_natCast, ← zpow_mul, ← zpow_mul]
    exact zpow_le_zpow_right₀ (by norm_num) above
  · refine le_of_pow_le_pow_left₀ (n := 196) (by decide) (by positivity) ?_
    rw [zpow_pow_comm, zpow_pow_comm]
    refine (two_pow_zpow_le_of_neg ha).trans ?_
    rw [← zpow_natCast, ← zpow_natCast, ← zpow_mul, ← zpow_mul]
    exact zpow_le_zpow_right₀ (by norm_num) below

/-- A power of ten is at most a power of two, by the same approximations. -/
theorem ten_zpow_le_two_zpow (above : 93 * k ≤ 28 * a) (below : 196 * k ≤ 59 * a) :
    (10 : ℚ) ^ k ≤ 2 ^ a := by
  have h := two_zpow_le_ten_zpow (a := -a) (k := -k) (by omega) (by omega)
  rw [zpow_neg, zpow_neg] at h
  exact (inv_le_inv₀ (by positivity) (by positivity)).1 h

end Powers

namespace Decimal

/-! ## The exponent of the first digit -/

section Leading

variable {num den : ℕ}

theorem ten_zpow_le_iff (hden : 0 < den) (k : ℤ) :
    den * Nat.pow 10 k.toNat ≤ num * Nat.pow 10 (-k).toNat ↔ (10 : ℚ) ^ k ≤ num / den := by
  have hpow := Binary64.pow_toNat_div (b := 10) (by norm_num) k
  have hpos : (0 : ℚ) < den := by exact_mod_cast hden
  rw [← hpow, div_le_div_iff₀ (by positivity) hpos, Nat.pow_eq, Nat.pow_eq, mul_comm den]
  exact_mod_cast Iff.rfl

/-- The first digit of a quotient that is not extreme has the exponent that is found. -/
theorem leadingExponent_bounds (hnum : 0 < num) (hden : 0 < den)
    (low : -5000 ≤ (num.log2 : ℤ) - den.log2) (high : (num.log2 : ℤ) - den.log2 ≤ 5000) :
    (10 : ℚ) ^ leadingExponent num den ≤ num / den ∧
      (num / den : ℚ) < 10 ^ (leadingExponent num den + 1) := by
  obtain ⟨hbelow, habove⟩ := Binary64.ratio_bounds hnum hden
  rw [leadingExponent]
  simp only [decide_eq_true_eq, ten_zpow_le_iff hden]
  set guess : ℤ := ((num.log2 : ℤ) - den.log2) * 30103 / 100000 with hguess
  -- the guess is off by at most two, so that the tests of the search settle it
  have hleast : (10 : ℚ) ^ (guess - 2) ≤ num / den :=
    (ten_zpow_le_two_zpow (by omega) (by omega)).trans hbelow.le
  have hmost : (num / den : ℚ) < 10 ^ (guess + 2) :=
    habove.trans_le (two_zpow_le_ten_zpow (by omega) (by omega))
  by_cases hfirst : (10 : ℚ) ^ (guess + 1) ≤ num / den
  · rw [if_pos hfirst]
    exact ⟨hfirst, by rwa [add_assoc]⟩
  rw [if_neg hfirst]
  by_cases hsecond : (10 : ℚ) ^ guess ≤ num / den
  · rw [if_pos hsecond]
    exact ⟨hsecond, not_le.1 hfirst⟩
  rw [if_neg hsecond]
  by_cases hthird : (10 : ℚ) ^ (guess - 1) ≤ num / den
  · rw [if_pos hthird, sub_add_cancel]
    exact ⟨hthird, not_le.1 hsecond⟩
  rw [if_neg hthird]
  have hnext : guess - 2 + 1 = guess - 1 := by omega
  rw [hnext]
  exact ⟨hleast, not_le.1 hthird⟩

end Leading

end Decimal

namespace RoundingInterval

/-! ## Decimals in an interval -/

/-- The interval holds a rational number. -/
def Holds (i : RoundingInterval) (q : ℚ) : Prop :=
  if i.closed then i.lower * 2 ^ i.unit ≤ q ∧ q ≤ i.upper * 2 ^ i.unit
  else i.lower * 2 ^ i.unit < q ∧ q < i.upper * 2 ^ i.unit

/-- The unit of the interval on the grid of multiples of a power of ten. -/
def gridScale (i : RoundingInterval) (e : ℤ) : ℕ := Nat.pow 2 i.unit.toNat * Nat.pow 10 (-e).toNat

/-- The distance of two multiples. -/
def gridStep (i : RoundingInterval) (e : ℤ) : ℕ := Nat.pow 2 (-i.unit).toNat * Nat.pow 10 e.toNat

/-- The greatest multiple that is not above the centre. -/
def below (i : RoundingInterval) (e : ℤ) : ℕ := i.centre * i.gridScale e / i.gridStep e

/-- The test whether a multiple lies in the interval. -/
def admitsMultiple (i : RoundingInterval) (e : ℤ) (m : ℕ) : Bool :=
  i.admits (i.lower * i.gridScale e) (i.upper * i.gridScale e) (m * i.gridStep e)

variable (i : RoundingInterval) (e : ℤ)

theorem gridStep_pos : 0 < i.gridStep e :=
  Nat.mul_pos (Nat.pow_pos (by decide)) (Nat.pow_pos (by decide))

theorem gridScale_pos : 0 < i.gridScale e :=
  Nat.mul_pos (Nat.pow_pos (by decide)) (Nat.pow_pos (by decide))

/-- Distances on the grid are distances of rational numbers. -/
theorem gridScale_div_gridStep : (i.gridScale e : ℚ) / i.gridStep e = 2 ^ i.unit / 10 ^ e := by
  have htwo := Binary64.pow_toNat_div (b := 2) (by norm_num) i.unit
  have hten := Binary64.pow_toNat_div (b := 10) (by norm_num) e
  rw [gridScale, gridStep, Nat.pow_eq, Nat.pow_eq, Nat.pow_eq, Nat.pow_eq, ← htwo, ← hten]
  push_cast
  field_simp

theorem mul_gridScale_le_iff {n m : ℕ} :
    n * i.gridScale e ≤ m * i.gridStep e ↔ (n * 2 ^ i.unit : ℚ) ≤ m * 10 ^ e := by
  have hstep : (0 : ℚ) < i.gridStep e := by exact_mod_cast i.gridStep_pos e
  have hten : (0 : ℚ) < 10 ^ e := by positivity
  rw [← div_le_iff₀ hten, mul_div_assoc, ← gridScale_div_gridStep, ← mul_div_assoc,
    div_le_iff₀ hstep]
  exact_mod_cast Iff.rfl

theorem mul_gridStep_le_iff {n m : ℕ} :
    m * i.gridStep e ≤ n * i.gridScale e ↔ (m * 10 ^ e : ℚ) ≤ n * 2 ^ i.unit := by
  have hstep : (0 : ℚ) < i.gridStep e := by exact_mod_cast i.gridStep_pos e
  have hten : (0 : ℚ) < 10 ^ e := by positivity
  rw [← le_div_iff₀ hten, mul_div_assoc, ← gridScale_div_gridStep, ← mul_div_assoc,
    le_div_iff₀ hstep]
  exact_mod_cast Iff.rfl

/-- The test on the grid is whether the interval holds the decimal. -/
theorem admitsMultiple_iff {m : ℕ} : i.admitsMultiple e m = true ↔ i.Holds (m * 10 ^ e) := by
  have hlow := i.mul_gridScale_le_iff e (n := i.lower) (m := m)
  have hhigh := i.mul_gridStep_le_iff e (n := i.upper) (m := m)
  have hlow' := not_congr (i.mul_gridStep_le_iff e (n := i.lower) (m := m))
  have hhigh' := not_congr (i.mul_gridScale_le_iff e (n := i.upper) (m := m))
  rw [not_le, not_le] at hlow' hhigh'
  rw [admitsMultiple, admits, Holds]
  cases i.closed with
  | true => simp [hlow, hhigh]
  | false => simp [hlow', hhigh']

variable {i e}

theorem Holds.bounds {q : ℚ} (h : i.Holds q) :
    i.lower * 2 ^ i.unit ≤ q ∧ q ≤ i.upper * 2 ^ i.unit := by
  rw [Holds] at h
  split at h
  · exact h
  · exact ⟨h.1.le, h.2.le⟩

theorem Holds.up {p q : ℚ} (h : i.Holds p) (lt_upper : i.centre < i.upper) (le : p ≤ q)
    (le_centre : q ≤ i.centre * 2 ^ i.unit) : i.Holds q := by
  have hlt : (i.centre : ℚ) < i.upper := by exact_mod_cast lt_upper
  have hupper : q < i.upper * 2 ^ i.unit := le_centre.trans_lt (by gcongr)
  rw [Holds] at h ⊢
  by_cases hclosed : i.closed = true
  · rw [if_pos hclosed] at h ⊢
    exact ⟨h.1.trans le, hupper.le⟩
  · rw [if_neg hclosed] at h ⊢
    exact ⟨h.1.trans_le le, hupper⟩

theorem Holds.down {p q : ℚ} (h : i.Holds p) (lower_lt : i.lower < i.centre) (le : q ≤ p)
    (centre_le : i.centre * 2 ^ i.unit ≤ q) : i.Holds q := by
  have hlt : (i.lower : ℚ) < i.centre := by exact_mod_cast lower_lt
  have hlower : i.lower * 2 ^ i.unit < q := lt_of_lt_of_le (by gcongr) centre_le
  rw [Holds] at h ⊢
  by_cases hclosed : i.closed = true
  · rw [if_pos hclosed] at h ⊢
    exact ⟨hlower.le, le.trans h.2⟩
  · rw [if_neg hclosed] at h ⊢
    exact ⟨hlower, le.trans_lt h.2⟩

/-- Of the two multiples around the centre, the one on the side of a multiple that the interval
holds is held too. -/
theorem Holds.beside {m : ℕ} (h : i.Holds (m * 10 ^ e)) (lower_lt : i.lower < i.centre)
    (lt_upper : i.centre < i.upper) :
    i.Holds (i.below e * 10 ^ e) ∨
      i.Holds ((i.below e + 1 : ℕ) * 10 ^ e) := by
  have hbelow : i.below e * i.gridStep e ≤
      i.centre * i.gridScale e := Nat.div_mul_le_self _ _
  have habove : i.centre * i.gridScale e ≤
      (i.below e + 1) * i.gridStep e :=
    (Nat.lt_mul_of_div_lt (Nat.lt_succ_self _) (i.gridStep_pos e)).le
  rw [mul_gridStep_le_iff] at hbelow
  rw [mul_gridScale_le_iff] at habove
  rcases Nat.lt_or_ge (i.below e) m with hlt | hge
  · refine .inr (h.down lower_lt ?_ habove)
    have hcast : ((i.below e + 1 : ℕ) : ℚ) ≤ m := by
      exact_mod_cast hlt
    gcongr
  · refine .inl (h.up lt_upper ?_ hbelow)
    have hcast : (m : ℚ) ≤ i.below e := by exact_mod_cast hge
    gcongr

end RoundingInterval

namespace Decimal

variable {i : RoundingInterval} {e : ℤ}

/-! ## The nearest decimal on a grid -/

theorem onGrid?_eq (i : RoundingInterval) (e : ℤ) :
    ∃ nearer, onGrid? i e =
      if i.admitsMultiple e nearer then some ⟨nearer, e⟩
      else if i.admitsMultiple e (i.below e) then some ⟨i.below e, e⟩
      else if i.admitsMultiple e (i.below e + 1) then some ⟨i.below e + 1, e⟩
      else none := ⟨_, rfl⟩

/-- The decimal that is found lies in the interval. -/
theorem holds_of_onGrid? {d : Decimal} (h : onGrid? i e = some d) :
    d.exponent = e ∧ i.Holds (d.digits * 10 ^ e) := by
  obtain ⟨nearer, heq⟩ := onGrid?_eq i e
  have hfound : ∀ {m : ℕ}, i.admitsMultiple e m = true → some ⟨m, e⟩ = some d →
      d.exponent = e ∧ i.Holds (d.digits * 10 ^ e) := by
    intro m hadmits hd
    obtain rfl := Option.some.inj hd
    exact ⟨rfl, (i.admitsMultiple_iff e).1 hadmits⟩
  rw [heq] at h
  by_cases hnearer : i.admitsMultiple e nearer = true
  · rw [if_pos hnearer] at h
    exact hfound hnearer h
  rw [if_neg hnearer] at h
  by_cases hbelow : i.admitsMultiple e (i.below e) = true
  · rw [if_pos hbelow] at h
    exact hfound hbelow h
  rw [if_neg hbelow] at h
  by_cases habove : i.admitsMultiple e (i.below e + 1) = true
  · rw [if_pos habove] at h
    exact hfound habove h
  · rw [if_neg habove] at h
    exact absurd h nofun

/-- A decimal is found if there is one. -/
theorem onGrid?_of_holds {m : ℕ} (h : i.Holds (m * 10 ^ e)) (lower_lt : i.lower < i.centre)
    (lt_upper : i.centre < i.upper) : ∃ d, onGrid? i e = some d := by
  obtain ⟨nearer, heq⟩ := onGrid?_eq i e
  have hbeside := h.beside lower_lt lt_upper
  rw [← i.admitsMultiple_iff, ← i.admitsMultiple_iff] at hbeside
  rw [heq]
  split
  · exact ⟨_, rfl⟩
  · rcases hbeside with hbelow | habove
    · rw [if_pos hbelow]
      exact ⟨_, rfl⟩
    · rw [if_pos habove]
      split
      · exact ⟨_, rfl⟩
      · exact ⟨_, rfl⟩

/-! ## Digits that can be spared -/

theorem le_spareDigits {low high : ℕ} (h : low ≤ high) (limit : ℕ) :
    low ≤ high / 10 ^ spareDigits low high limit * 10 ^ spareDigits low high limit := by
  induction limit with
  | zero => simpa [spareDigits] using h
  | succ limit ih =>
    rw [spareDigits]
    split
    · next hspare => exact hspare
    · exact ih

/-- The multiples in the interval are those from the least to the greatest. -/
theorem holds_iff_multiplesWithin (pos : 0 < i.upper) {m : ℕ} :
    i.Holds (m * 10 ^ e) ↔
      (multiplesWithin i e).1 ≤ m ∧ m ≤ (multiplesWithin i e).2 := by
  have hstep := i.gridStep_pos e
  have hscale := i.gridScale_pos e
  have hpos : 0 < i.upper * i.gridScale e := Nat.mul_pos pos hscale
  rw [← i.admitsMultiple_iff, RoundingInterval.admitsMultiple, RoundingInterval.admits]
  have hdef : multiplesWithin i e =
      if i.closed then ((i.lower * i.gridScale e + i.gridStep e - 1) / i.gridStep e,
        i.upper * i.gridScale e / i.gridStep e)
      else (i.lower * i.gridScale e / i.gridStep e + 1,
        (i.upper * i.gridScale e - 1) / i.gridStep e) := rfl
  rw [hdef]
  cases i.closed with
  | true =>
    simp only [if_true, Bool.and_eq_true, decide_eq_true_eq]
    rw [Nat.div_le_iff_le_mul_add_pred hstep, Nat.le_div_iff_mul_le hstep,
      Nat.mul_comm (i.gridStep e) m]
    omega
  | false =>
    simp only [Bool.false_eq_true, if_false, Bool.and_eq_true, decide_eq_true_eq]
    rw [Nat.succ_le_iff, Nat.div_lt_iff_lt_mul hstep, Nat.le_div_iff_mul_le hstep]
    omega

/-! ## The shortest decimal -/

theorem two_zpow_le_magnitude {x : Binary64} (nonzero : 0 < x.significand) :
    (2 : ℚ) ^ x.exponent ≤ x.magnitude := by
  have hone : (1 : ℚ) ≤ x.significand := by exact_mod_cast nonzero
  have hpow : (0 : ℚ) < 2 ^ x.exponent := by positivity
  rw [Binary64.magnitude]
  nlinarith

/-- The first digit of a number has the exponent that is found. -/
theorem leadingExponent_spec {x : Binary64} (inRange : x.InRange) (nonzero : 0 < x.significand) :
    (10 : ℚ) ^ leadingExponent x.numerator x.denominator ≤ x.magnitude ∧
      x.magnitude < 10 ^ (leadingExponent x.numerator x.denominator + 1) := by
  have hnum := Binary64.numerator_pos (Binary64.magnitude_pos nonzero)
  obtain ⟨hbelow, habove⟩ := Binary64.ratio_bounds hnum x.denominator_pos
  have hend : (x.significand : ℚ) < 2 ^ (53 : ℤ) := by
    rw [← Binary64.significandEnd_cast]
    exact_mod_cast inRange.significand_lt
  have hlow := two_zpow_le_magnitude nonzero
  have hhigh : x.magnitude < 2 ^ (53 + x.exponent) := by
    rw [Binary64.magnitude, zpow_add₀ (by norm_num)]
    gcongr
  rw [Binary64.numerator_div_denominator] at hbelow habove
  have hfirst := (zpow_lt_zpow_iff_right₀ (by norm_num)).1 (hbelow.trans hhigh)
  have hlast := (zpow_lt_zpow_iff_right₀ (by norm_num)).1 (hlow.trans_lt habove)
  have hmin := inRange.le_exponent
  have hmax := inRange.exponent_le
  rw [Binary64.minExponent] at hmin
  rw [Binary64.maxExponent] at hmax
  rw [← Binary64.numerator_div_denominator]
  exact leadingExponent_bounds hnum x.denominator_pos (by omega) (by omega)

theorem exists_multiple_between {a b d : ℚ} (nonneg : 0 ≤ a) (pos : 0 < d) (wide : a + d < b) :
    ∃ m : ℕ, a < m * d ∧ m * d < b := by
  have hle := Nat.floor_le (div_nonneg nonneg pos.le)
  have hlt := Nat.lt_floor_add_one (a / d)
  rw [le_div_iff₀ pos] at hle
  rw [div_lt_iff₀ pos] at hlt
  refine ⟨⌊a / d⌋₊ + 1, by push_cast; exact hlt, ?_⟩
  push_cast
  linarith

theorem of_lower (x : Binary64) : (RoundingInterval.of x).lower = 4 * x.significand - 2 ∨
    x.significand = Binary64.hiddenBit ∧
      (RoundingInterval.of x).lower = 4 * x.significand - 1 := by
  simp only [RoundingInterval.of]
  split
  · next h => exact .inr ⟨h.1, rfl⟩
  · exact .inl rfl

/-- The interval of a number is wider than a small part of the number. -/
theorem of_wide {x : Binary64} (inRange : x.InRange) (nonzero : 0 < x.significand) :
    ((RoundingInterval.of x).lower : ℚ) + 4 * x.significand / 10 ^ 16 <
      (RoundingInterval.of x).upper := by
  have hend : (x.significand : ℚ) < 2 ^ 53 := by
    have hlt := inRange.significand_lt
    rw [Binary64.significandEnd] at hlt
    exact_mod_cast hlt
  have hupper : ((RoundingInterval.of x).upper : ℚ) = 4 * x.significand + 2 := by
    simp [RoundingInterval.of]
  rw [hupper]
  rcases of_lower x with hlower | ⟨hhidden, hlower⟩
  · have hcast : ((RoundingInterval.of x).lower : ℚ) = 4 * x.significand - 2 := by
      rw [hlower, Nat.cast_sub (by omega)]
      push_cast
      rfl
    rw [hcast]
    linarith
  · rw [hlower, hhidden]
    norm_num [Binary64.hiddenBit]

/-- A multiple on the finest grid lies in the interval of a number. -/
theorem exists_holds {x : Binary64} (inRange : x.InRange) (nonzero : 0 < x.significand) :
    ∃ m : ℕ, (RoundingInterval.of x).Holds
      (m * 10 ^ (leadingExponent x.numerator x.denominator - 16)) := by
  obtain ⟨hleading, -⟩ := leadingExponent_spec inRange nonzero
  have hwide := of_wide inRange nonzero
  set i := RoundingInterval.of x with hi
  set leading := leadingExponent x.numerator x.denominator
  have hpow : (0 : ℚ) < 2 ^ i.unit := by positivity
  have hmagnitude : x.magnitude = 4 * x.significand * 2 ^ i.unit := by
    have hexponent : x.exponent = i.unit + 2 := by simp [hi, RoundingInterval.of]
    rw [Binary64.magnitude, hexponent, zpow_add₀ (by norm_num)]
    norm_num
    ring
  have hfinest : (10 : ℚ) ^ (leading - 16) ≤ 4 * x.significand / 10 ^ 16 * 2 ^ i.unit := by
    have hsplit : (10 : ℚ) ^ (leading - 16) = 10 ^ leading / 10 ^ 16 := by
      rw [zpow_sub₀ (by norm_num)]
      norm_num
    rw [hsplit, div_mul_eq_mul_div, ← hmagnitude]
    gcongr
  have hbetween : (i.lower : ℚ) * 2 ^ i.unit + 10 ^ (leading - 16) < i.upper * 2 ^ i.unit := by
    have hmul := mul_lt_mul_of_pos_right hwide hpow
    rw [add_mul] at hmul
    linarith
  obtain ⟨m, hlow, hhigh⟩ := exists_multiple_between (by positivity) (by positivity) hbetween
  refine ⟨m, ?_⟩
  rw [RoundingInterval.Holds]
  split
  · exact ⟨hlow.le, hhigh.le⟩
  · exact ⟨hlow, hhigh⟩

/-- The shortest decimal lies in the interval of the number, on a grid that is not finer than the
finest. -/
theorem shortest_holds {x : Binary64} (inRange : x.InRange) (nonzero : 0 < x.significand) :
    (RoundingInterval.of x).Holds ((shortest x).digits * 10 ^ (shortest x).exponent) ∧
      leadingExponent x.numerator x.denominator - 16 ≤ (shortest x).exponent := by
  obtain ⟨m, hm⟩ := exists_holds inRange nonzero
  have hlower : (RoundingInterval.of x).lower < (RoundingInterval.of x).centre := by
    rcases of_lower x with h | ⟨-, h⟩ <;> rw [h] <;> simp only [RoundingInterval.of] <;> omega
  have hupper : (RoundingInterval.of x).centre < (RoundingInterval.of x).upper := by
    simp [RoundingInterval.of]
  rw [shortest]
  simp only
  set i := RoundingInterval.of x
  set finest := leadingExponent x.numerator x.denominator - 16
  have hpos : 0 < i.upper := Nat.zero_lt_of_lt hupper
  rw [holds_iff_multiplesWithin hpos] at hm
  have hspare := le_spareDigits (hm.1.trans hm.2) 16
  set spared := spareDigits (multiplesWithin i finest).1 (multiplesWithin i finest).2 16
  have hmultiple := (holds_iff_multiplesWithin hpos).2 ⟨hspare, Nat.div_mul_le_self _ _⟩
  have hcoarse : i.Holds (((multiplesWithin i finest).2 / 10 ^ spared : ℕ) *
      10 ^ (finest + spared)) := by
    have hsplit : (10 : ℚ) ^ (finest + spared) = 10 ^ spared * 10 ^ finest := by
      rw [zpow_add₀ (by norm_num), zpow_natCast, mul_comm]
    rw [hsplit, ← mul_assoc]
    exact_mod_cast hmultiple
  -- the coarse grid has a point in the interval, so the fallback of the search is not used
  obtain ⟨d, hd⟩ := onGrid?_of_holds hcoarse hlower hupper
  obtain ⟨hexponent, hholds⟩ := holds_of_onGrid? hd
  rw [hd, Option.getD_some, hexponent]
  exact ⟨hholds, by omega⟩

/-- The upper end of the interval of a number is half a step above it. -/
theorem of_upper (x : Binary64) :
    ((RoundingInterval.of x).upper : ℚ) * 2 ^ (RoundingInterval.of x).unit =
      x.magnitude + 2 ^ (x.exponent - 1) := by
  have hunit : (2 : ℚ) ^ x.exponent = 4 * 2 ^ (x.exponent - 2) := by
    rw [zpow_sub₀ (by norm_num)]
    norm_num
    ring
  have hhalf : (2 : ℚ) ^ (x.exponent - 1) = 2 * 2 ^ (x.exponent - 2) := by
    rw [← Binary64.half_mul_two_zpow, hunit]
    ring
  rw [Binary64.magnitude, hunit, hhalf]
  simp only [RoundingInterval.of]
  push_cast
  ring

theorem lt_two_zpow {x : Binary64} (inRange : x.InRange) :
    x.magnitude + 2 ^ (x.exponent - 1) < 2 ^ (1024 : ℤ) := by
  have hsignificand : (x.significand : ℚ) + 1 ≤ 2 ^ (53 : ℤ) := by
    rw [← Binary64.significandEnd_cast]
    exact_mod_cast inRange.significand_lt
  have hpow : (0 : ℚ) < 2 ^ x.exponent := by positivity
  have hmax : (2 : ℚ) ^ x.exponent ≤ 2 ^ (971 : ℤ) :=
    zpow_le_zpow_right₀ (by norm_num) inRange.exponent_le
  have hend : (2 : ℚ) ^ (53 : ℤ) * 2 ^ (971 : ℤ) = 2 ^ (1024 : ℤ) :=
    (zpow_add₀ (by norm_num) 53 971).symm
  have hmul := mul_le_mul hsignificand hmax hpow.le (by positivity)
  rw [hend, add_mul] at hmul
  rw [Binary64.magnitude, ← Binary64.half_mul_two_zpow]
  linarith

/-- A multiple of a power of ten below the end of the numbers has no great power. -/
theorem exponent_lt {x : Binary64} (inRange : x.InRange) {n : ℕ} (pos : 0 < n) {e : ℤ}
    (close : (n : ℚ) * 10 ^ e ≤ x.magnitude + 2 ^ (x.exponent - 1)) : e < 309 := by
  have hone : (1 : ℚ) ≤ n := by exact_mod_cast pos
  refine (zpow_lt_zpow_iff_right₀ (by norm_num : (1 : ℚ) < 10)).1 ?_
  calc (10 : ℚ) ^ e = 1 * 10 ^ e := (one_mul _).symm
    _ ≤ n * 10 ^ e := by gcongr
    _ < 2 ^ (1024 : ℤ) := close.trans_lt (lt_two_zpow inRange)
    _ ≤ 10 ^ (309 : ℤ) := two_zpow_le_ten_zpow (by decide) (by decide)

/-- **The shortest decimal of a number is close to it**: it has digits, but not too many, its
exponent is not extreme, and it is at most half a step above the number. -/
theorem shortest_bounds {x : Binary64} (inRange : x.InRange) (nonzero : 0 < x.significand) :
    0 < (shortest x).digits ∧ (shortest x).digits < 10 ^ 18 ∧ -340 ≤ (shortest x).exponent ∧
      ((shortest x).digits : ℚ) * 10 ^ (shortest x).exponent ≤
        x.magnitude + 2 ^ (x.exponent - 1) := by
  obtain ⟨hholds, hfinest⟩ := shortest_holds inRange nonzero
  obtain ⟨hleading, hnext⟩ := leadingExponent_spec inRange nonzero
  obtain ⟨hlow, hhigh⟩ := hholds.bounds
  rw [of_upper] at hhigh
  set d := shortest x
  set leading := leadingExponent x.numerator x.denominator
  have hten : (0 : ℚ) < 10 ^ d.exponent := by positivity
  have hstep := two_zpow_le_magnitude nonzero
  refine ⟨?_, ?_, ?_, hhigh⟩
  · have hlower : 0 < (RoundingInterval.of x).lower := by
      rcases of_lower x with h | ⟨-, h⟩ <;> omega
    have hcast : (0 : ℚ) < (RoundingInterval.of x).lower := by exact_mod_cast hlower
    have hpos : (0 : ℚ) < d.digits * 10 ^ d.exponent := lt_of_lt_of_le (by positivity) hlow
    exact_mod_cast pos_of_mul_pos_left hpos hten.le
  · have hhalf : (2 : ℚ) ^ (x.exponent - 1) ≤ x.magnitude := by
      rw [← Binary64.half_mul_two_zpow]
      have hpow : (0 : ℚ) < 2 ^ x.exponent := by positivity
      linarith
    have hgrid : (10 : ℚ) ^ (leading + 1) ≤ 10 ^ (17 : ℤ) * 10 ^ d.exponent := by
      rw [← zpow_add₀ (by norm_num)]
      exact zpow_le_zpow_right₀ (by norm_num) (by omega)
    have hmul : (d.digits : ℚ) * 10 ^ d.exponent < 2 * 10 ^ (17 : ℤ) * 10 ^ d.exponent := by
      linarith
    have hlt := lt_of_mul_lt_mul_right hmul hten.le
    have hcast : (d.digits : ℚ) < (10 ^ 18 : ℕ) := hlt.trans (by norm_num)
    exact_mod_cast hcast
  · have hleast : (10 : ℚ) ^ (-324 : ℤ) ≤ 2 ^ x.exponent :=
      (ten_zpow_le_two_zpow (by decide) (by decide)).trans
        (zpow_le_zpow_right₀ (by norm_num) inRange.le_exponent)
    have hless := (zpow_lt_zpow_iff_right₀ (by norm_num)).1
      ((hleast.trans hstep).trans_lt hnext)
    omega

end Decimal

end EventBatching
