import EventBatching.Json.Number
import EventBatching.Proofs.Number.Rounding

/-!
# The magnitude of a numeral

A numeral has a magnitude unless it is too large. One that is scaled down always has one, since its
significand is a word; for one that is scaled up it is enough that it stays below the end of the
floating point numbers by as much as its two roundings may add.

* `Json.Numeral.magnitude_of_neg` and `Json.Numeral.magnitude_of_nonneg` are the two cases.
* `Json.Numeral.inRange_of_magnitude` says that a magnitude is a number in range.
-/

namespace EventBatching.Json.Numeral

open Binary64 (overflowEnd)

/-! ## Numerals that are scaled down -/

theorem lt_overflowEnd {q : ℚ} (h : q ≤ 2 ^ (65 : ℤ)) : q < overflowEnd := by
  have hpow : (1 : ℚ) ≤ 2 ^ (900 : ℤ) := one_le_zpow₀ (by norm_num) (by decide)
  have hsplit : (2 : ℚ) ^ (970 : ℤ) = 2 ^ (70 : ℤ) * 2 ^ (900 : ℤ) :=
    zpow_add₀ (by norm_num) 70 900
  rw [overflowEnd, hsplit]
  generalize (2 : ℚ) ^ (900 : ℤ) = unit at hpow
  norm_num at h ⊢
  linarith

/-- A small number that is divided by a power of ten gives a small number. -/
theorem div_powerOfTen {x : Binary64} {power : ℕ} (pos : 0 < power) (le : power ≤ stepLimit)
    (small : x.magnitude ≤ 2 ^ (65 : ℤ)) :
    ∃ y, x.div? (Binary64.powerOfTen power) = some y ∧ y.magnitude ≤ 2 ^ (65 : ℤ) := by
  have hfive := Binary64.five_le_powerOfTen pos le
  have hpos : 0 < (Binary64.powerOfTen power).magnitude := by linarith
  have hnonneg := x.magnitude_nonneg
  have hquot : x.magnitude / (Binary64.powerOfTen power).magnitude ≤ x.magnitude / 5 := by gcongr
  obtain ⟨y, hy, hle⟩ := Binary64.div?_of_lt hpos (lt_overflowEnd (hquot.trans (by linarith)))
  refine ⟨y, hy, ?_⟩
  norm_num at small ⊢
  linarith

/-- Scaling down keeps a number small. -/
theorem scaleDown_small (steps : ℕ) {x : Binary64} (small : x.magnitude ≤ 2 ^ (65 : ℤ)) :
    (scaleDown steps x).magnitude ≤ 2 ^ (65 : ℤ) := by
  induction steps generalizing x with
  | zero => exact small
  | succ steps ih =>
    rw [scaleDown]
    by_cases hzero : x.isZero = true
    · rw [if_pos hzero]
      exact small
    · obtain ⟨y, hy, hle⟩ := div_powerOfTen (by decide) le_rfl small
      rw [if_neg hzero, hy]
      exact ih hle

theorem cast_le_of_fits {s : ℕ} (fits : s ≤ maxWord) : (s : ℚ) ≤ 2 ^ (64 : ℤ) := by
  have hle : (s : ℚ) ≤ (maxWord : ℕ) := by exact_mod_cast fits
  refine hle.trans ?_
  norm_num [maxWord]

/-- A word is rounded by a small part of it. -/
theorem ofNat_le {s : ℕ} (fits : s ≤ maxWord) :
    (Binary64.ofNat s).magnitude ≤ s * (1 + 1 / 2 ^ (53 : ℤ)) := by
  rcases Nat.eq_zero_or_pos s with rfl | hpos
  · have hzero : Binary64.ofNat 0 = .zero false := rfl
    rw [hzero]
    simp [Binary64.magnitude, Binary64.zero]
  · have hsmall : (s : ℚ) ≤ 2 ^ (65 : ℤ) := (cast_le_of_fits fits).trans (by norm_num)
    exact (Binary64.ofNat_bounds hpos (lt_overflowEnd hsmall)).2

theorem ofNat_small {s : ℕ} (fits : s ≤ maxWord) :
    (Binary64.ofNat s).magnitude ≤ 2 ^ (65 : ℤ) := by
  have hcast := cast_le_of_fits fits
  have hfactor : (1 : ℚ) + 1 / 2 ^ (53 : ℤ) ≤ 2 := by norm_num
  calc (Binary64.ofNat s).magnitude ≤ s * (1 + 1 / 2 ^ (53 : ℤ)) := ofNat_le fits
    _ ≤ 2 ^ (64 : ℤ) * 2 := by gcongr
    _ = 2 ^ (65 : ℤ) := by norm_num

/-- The last division is by a power of ten that is applied in one step. -/
theorem last_power {power : ℕ} (pos : 0 < power) :
    0 < power - (power - 1) / stepLimit * stepLimit ∧
      power - (power - 1) / stepLimit * stepLimit ≤ stepLimit := by
  rw [stepLimit]
  omega

/-- A numeral that is scaled down is not too large. -/
theorem magnitude_of_neg {n : Numeral} (fits : n.significand ≤ maxWord) (down : n.exponent < 0) :
    ∃ y, n.magnitude = some y := by
  have hsmall := scaleDown_small ((n.exponent.natAbs - 1) / stepLimit) (ofNat_small fits)
  simp only [magnitude]
  rw [if_neg (not_le.2 down)]
  split
  · exact ⟨_, rfl⟩
  · obtain ⟨hpos, hle⟩ := last_power (Int.natAbs_pos.2 down.ne)
    exact (div_powerOfTen hpos hle hsmall).imp fun _ h => h.1

/-! ## Numerals that are scaled up -/

/-- A numeral that is scaled up is a number if the roundings of its parts do not lift it over the
end. -/
theorem magnitude_of_nonneg {n : Numeral} (fits : n.significand ≤ maxWord)
    (up : 0 ≤ n.exponent) (le : n.exponent.natAbs ≤ stepLimit)
    (small : (n.significand * 10 ^ n.exponent.natAbs : ℚ) * (1 + 1 / 2 ^ (53 : ℤ)) ^ 2 <
      overflowEnd) :
    ∃ y, n.magnitude = some y := by
  have hpow : (Binary64.powerOfTen n.exponent.natAbs).magnitude ≤
      10 ^ n.exponent.natAbs * (1 + 1 / 2 ^ (53 : ℤ)) := by
    have hle := (Binary64.ofNat_bounds (Nat.pow_pos (n := n.exponent.natAbs) (by decide : 0 < 10))
      (Binary64.ten_pow_lt_overflowEnd le)).2
    rw [Binary64.powerOfTen, Nat.pow_eq]
    exact_mod_cast hle
  simp only [magnitude]
  rw [if_pos up, if_pos le]
  refine Binary64.mul?_of_lt (lt_of_le_of_lt ?_ small)
  have hsig := ofNat_le fits
  have hnonneg := (Binary64.powerOfTen n.exponent.natAbs).magnitude_nonneg
  calc (Binary64.ofNat n.significand).magnitude *
        (Binary64.powerOfTen n.exponent.natAbs).magnitude
      ≤ n.significand * (1 + 1 / 2 ^ (53 : ℤ)) *
        (10 ^ n.exponent.natAbs * (1 + 1 / 2 ^ (53 : ℤ))) := by gcongr
    _ = _ := by ring

/-! ## The range of a magnitude -/

theorem inRange_of_div_powerOfTen {x y : Binary64} {power : ℕ} (pos : 0 < power)
    (le : power ≤ stepLimit) (h : x.div? (Binary64.powerOfTen power) = some y) : y.InRange := by
  have hfive := Binary64.five_le_powerOfTen pos le
  exact Binary64.inRange_of_div? (by linarith) h

theorem scaleDown_inRange (steps : ℕ) {x : Binary64} (inRange : x.InRange) :
    (scaleDown steps x).InRange := by
  induction steps generalizing x with
  | zero => exact inRange
  | succ steps ih =>
    rw [scaleDown]
    split
    · exact inRange
    · cases h : x.div? (Binary64.powerOfTen stepLimit) with
      | none => exact ih inRange
      | some y => exact ih (inRange_of_div_powerOfTen (by decide) le_rfl h)

/-- The magnitude of a numeral is in range. -/
theorem inRange_of_magnitude {n : Numeral} {y : Binary64} (h : n.magnitude = some y) :
    y.InRange := by
  simp only [magnitude] at h
  split at h
  · split at h
    · exact Binary64.inRange_of_mul? h
    · split at h
      · exact Option.some.inj h ▸ Binary64.ofNat_inRange n.significand
      · exact absurd h nofun
  · next hdown =>
    split at h
    · exact Option.some.inj h ▸ scaleDown_inRange _ (Binary64.ofNat_inRange n.significand)
    · obtain ⟨hpos, hle⟩ := last_power (Int.natAbs_pos.2 (not_le.1 hdown).ne)
      exact inRange_of_div_powerOfTen hpos hle h

end EventBatching.Json.Numeral
