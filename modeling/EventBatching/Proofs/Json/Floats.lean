import EventBatching.Proofs.Json.Magnitude
import EventBatching.Proofs.Json.RoundTrip
import EventBatching.Proofs.Number.Shortest

/-!
# Floating point numbers are read back as numbers

The text of a floating point number is laid out with a fraction or with an exponent, and reading it
takes the digits together again: the significand is a word, since there are at most eighteen digits,
and a written exponent only says where they are. What is read may be another number, since reading
rounds more than once; but it is a number, since the shortest decimal is close enough to the number
that it was made from. For the two greatest numbers close enough is not enough, and the decimals
themselves are tried.

* `Json.readNumber_point` and `Json.readNumber_scientific` read the two layouts.
* `Json.value_of_shortest` says that the numeral is not too large.
* `Json.numeralFor_text` is the result.
-/

namespace EventBatching.Json

/-! ## Reading the parts of a numeral -/

/-- As many digits as there are make a number below that power of ten. -/
theorem ofDigitChars_lt {digits : List Char} (all : ∀ c ∈ digits, c.isDigit = true) :
    Nat.ofDigitChars 10 digits 0 < 10 ^ digits.length := by
  induction digits with
  | nil => exact Nat.one_pos
  | cons c digits ih =>
    obtain ⟨hc, hdigits⟩ := List.forall_mem_cons.1 all
    have hrest := ih hdigits
    have hdigit : c.toNat - '0'.toNat ≤ 9 := by
      have hle : c.toNat ≤ '9'.toNat := by
        simp only [Char.isDigit, Bool.and_eq_true, decide_eq_true_eq] at hc
        exact hc.2
      exact Nat.sub_le_sub_right hle _
    rw [Nat.ofDigitChars_cons, Nat.ofDigitChars_eq_ofDigitChars_zero, List.length_cons, pow_succ]
    have hmul : 10 ^ digits.length * (10 * 0 + (c.toNat - '0'.toNat)) ≤ 10 ^ digits.length * 9 :=
      Nat.mul_le_mul_left _ (by omega)
    omega

/-- Few digits fit into a word. -/
theorem fits_of_length {digits : List Char} (all : ∀ c ∈ digits, c.isDigit = true)
    (short : digits.length ≤ 19) : Nat.ofDigitChars 10 digits 0 ≤ maxWord := by
  have hlt := ofDigitChars_lt all
  have hpow : 10 ^ digits.length ≤ 10 ^ 19 := Nat.pow_le_pow_right (by decide) short
  have hword : 10 ^ 19 ≤ maxWord := by decide
  omega

theorem readScale_closing (n : Numeral) {rest : List Char} (closing : Closing rest) :
    readScale n rest = finishFloat n rest := by
  cases rest with
  | nil => rfl
  | cons c rest => rcases closing c rfl with rfl | rfl | rfl <;> rfl

theorem readFraction_digits {n : Numeral} {fraction rest : List Char}
    (all : ∀ c ∈ fraction, c.isDigit = true) (some : fraction ≠ []) (ends : NoDigit rest)
    (fits : Nat.ofDigitChars 10 fraction n.significand ≤ maxWord) :
    readFraction n (fraction ++ rest) =
      readScale ⟨n.negative, Nat.ofDigitChars 10 fraction n.significand,
        n.exponent - fraction.length⟩ rest := by
  have hfold := foldDigits_of_fits all ends fits 0
  obtain ⟨c, cs, rfl⟩ := List.exists_cons_of_ne_nil some
  have hc : c.isDigit = true := all c (List.mem_cons_self ..)
  rw [List.cons_append] at hfold ⊢
  rw [readFraction, if_pos hc, hfold]
  simp only [ends.dropWhile, Nat.zero_add]

/-- A written exponent is added or subtracted. -/
theorem readExponent_toDigits (n : Numeral) {power : ℤ} (small : power.natAbs ≤ maxExponent)
    {rest : List Char} (closing : Closing rest) :
    readExponent n ((if power < 0 then '-' else '+') :: (Nat.toDigits 10 power.natAbs ++ rest)) =
      finishFloat { n with
        exponent := max (-(maxExponent : ℤ) - 1) (min maxExponent (n.exponent + power)) } rest := by
  have hvalue : Nat.ofDigitChars 10 (Nat.toDigits 10 power.natAbs) 0 = power.natAbs :=
    Nat.ofDigitChars_ten_toDigits
  have hfold := foldDigits_of_fits (fun _ => isDigit_of_mem_decimal) closing.noDigit
    (hvalue.trans_le small) 0
  rw [hvalue] at hfold
  obtain ⟨c, cs, hdigits, hc⟩ := exists_toDigits power.natAbs
  rw [hdigits, List.cons_append] at hfold ⊢
  by_cases hneg : power < 0
  · have hexponent : n.exponent - (power.natAbs : ℤ) = n.exponent + power := by omega
    rw [if_pos hneg, readExponent]
    simp only [hc, if_true]
    rw [readExponentDigits, hfold]
    simp only [closing.noDigit.head, Bool.false_eq_true, if_false, if_true, hexponent]
  · have hexponent : n.exponent + (power.natAbs : ℤ) = n.exponent + power := by omega
    rw [if_neg hneg, readExponent]
    simp only [hc, if_true]
    rw [readExponentDigits, hfold]
    simp only [closing.noDigit.head, Bool.false_eq_true, if_false, hexponent]

/-! ## The significant digits -/

/-- Significant digits are digits, at most eighteen of them, and the first one is not zero. -/
structure Significant (digits : List Char) : Prop where
  /-- They are digits. -/
  all : ∀ c ∈ digits, c.isDigit = true
  /-- The first one is not zero. -/
  head : ∃ c rest, digits = c :: rest ∧ c ≠ '0'
  /-- There are not too many. -/
  short : digits.length ≤ 18

theorem Significant.ne_nil {digits : List Char} (h : Significant digits) : digits ≠ [] := by
  obtain ⟨c, rest, rfl, -⟩ := h.head
  exact List.cons_ne_nil c rest

/-- The digits of a decimal are its significant digits and zeros. -/
theorem significantDigits_append (d : Decimal) :
    ∃ zeros, Nat.toDigits 10 d.digits =
      Binary64.significantDigits d ++ List.replicate zeros '0' := by
  have hsplit := List.takeWhile_append_dropWhile (p := (· == '0'))
    (l := (Nat.toDigits 10 d.digits).reverse)
  have hzeros : (Nat.toDigits 10 d.digits).reverse.takeWhile (· == '0') =
      List.replicate ((Nat.toDigits 10 d.digits).reverse.takeWhile (· == '0')).length '0' :=
    List.eq_replicate_of_mem fun c hc => by
      simpa using List.all_eq_true.1 List.all_takeWhile c hc
  refine ⟨((Nat.toDigits 10 d.digits).reverse.takeWhile (· == '0')).length, ?_⟩
  rw [Binary64.significantDigits, ← List.reverse_replicate, ← hzeros, ← List.reverse_append, hsplit,
    List.reverse_reverse]

theorem significant_of_pos {d : Decimal} (pos : 0 < d.digits) (small : d.digits < 10 ^ 18) :
    Significant (Binary64.significantDigits d) := by
  obtain ⟨zeros, hzeros⟩ := significantDigits_append d
  have hall : ∀ c ∈ Binary64.significantDigits d, c.isDigit = true := fun c hc =>
    isDigit_of_mem_decimal (hzeros ▸ List.mem_append_left _ hc)
  have hlength : (Nat.toDigits 10 d.digits).length ≤ 18 :=
    (Nat.length_toDigits_le_iff (by decide) (by decide)).2 small
  obtain ⟨c, rest, hdigits, hc⟩ := toDigits_of_pos pos
  rw [hzeros] at hdigits hlength
  refine ⟨hall, ?_, ?_⟩
  · cases hsome : Binary64.significantDigits d with
    | nil =>
      rw [hsome, List.nil_append] at hdigits
      have hmem : c ∈ List.replicate zeros '0' := hdigits ▸ List.mem_cons_self ..
      exact absurd (List.eq_of_mem_replicate hmem) hc
    | cons first more =>
      rw [hsome, List.cons_append] at hdigits
      exact ⟨first, more, rfl, (List.cons.inj hdigits).1 ▸ hc⟩
  · rw [List.length_append] at hlength
    omega

/-! ## Reading a numeral that is laid out -/

section Layout

variable {digits : List Char} {leading : ℤ}

/-- A numeral with a fraction is read up to the end of the fraction. -/
theorem readNumber_point (negative : Bool) {whole fraction tail : List Char}
    (all : ∀ c ∈ whole ++ fraction, c.isDigit = true) (plain : Plain whole)
    (some : fraction ≠ []) (fits : Nat.ofDigitChars 10 (whole ++ fraction) 0 ≤ maxWord)
    (ends : NoDigit tail) :
    readNumber negative (whole ++ '.' :: (fraction ++ tail)) =
      readScale ⟨negative, Nat.ofDigitChars 10 (whole ++ fraction) 0, -(fraction.length : ℤ)⟩
        tail := by
  obtain ⟨hwhole, hfraction⟩ := List.forall_mem_append.1 all
  rw [Nat.ofDigitChars_append] at fits ⊢
  rw [readNumber_digits negative hwhole plain (by rintro _ ⟨⟩; rfl)
    ((le_ofDigitChars _ fraction).trans fits)]
  show readFraction ⟨negative, _, 0⟩ (fraction ++ tail) = _
  rw [readFraction_digits hfraction some ends fits, zero_sub]

/-- A text is a whole part and a fraction whose digits make a word. -/
structure PlainParts (text whole fraction : List Char) : Prop where
  /-- They have a point between them. -/
  text_eq : text = whole ++ '.' :: fraction
  /-- They are digits. -/
  all : ∀ c ∈ whole ++ fraction, c.isDigit = true
  /-- The whole part does not start with a zero that could be left out. -/
  plain : Plain whole
  /-- There is a fraction. -/
  some : fraction ≠ []
  /-- All the digits together make a word. -/
  fits : Nat.ofDigitChars 10 (whole ++ fraction) 0 ≤ maxWord

theorem isDigit_of_mem_zeros {n : ℕ} {c : Char} (h : c ∈ List.replicate n '0') :
    c.isDigit = true := List.eq_of_mem_replicate h ▸ rfl

/-- A numeral below one has its digits in the fraction, behind zeros. -/
theorem plainParts_of_neg (significant : Significant digits) (below : leading < 0) :
    PlainParts (Binary64.plain leading digits) ['0']
      (List.replicate (-leading - 1).toNat '0' ++ digits) where
  text_eq := by rw [Binary64.plain, if_pos below]; rfl
  all := List.forall_mem_append.2 ⟨List.forall_mem_singleton.2 rfl,
    List.forall_mem_append.2 ⟨fun _ => isDigit_of_mem_zeros, significant.all⟩⟩
  plain := .inl rfl
  some := List.append_ne_nil_of_right_ne_nil _ significant.ne_nil
  fits := by
    have hvalue : Nat.ofDigitChars 10
        (['0'] ++ (List.replicate (-leading - 1).toNat '0' ++ digits)) 0 =
          Nat.ofDigitChars 10 digits 0 := by
      rw [Nat.ofDigitChars_append, Nat.ofDigitChars_append, Nat.ofDigitChars_replicate_zero]
      rfl
    rw [hvalue]
    exact fits_of_length significant.all (significant.short.trans (by decide))

/-- The fraction that is written: a zero if no digits are left for it. -/
def fractionOf (digits : List Char) : List Char := if digits.isEmpty then ['0'] else digits

theorem fractionOf_cases (digits : List Char) :
    fractionOf digits = ['0'] ∨ digits ≠ [] ∧ fractionOf digits = digits := by
  cases digits with
  | nil => exact .inl rfl
  | cons c cs => exact .inr ⟨List.cons_ne_nil c cs, rfl⟩

/-- A numeral of at least one has its digits on both sides of the point. -/
theorem plainParts_of_nonneg (significant : Significant digits) (up : 0 ≤ leading)
    (high : leading ≤ 15) :
    PlainParts (Binary64.plain leading digits)
      (digits.take (leading.toNat + 1) ++ List.replicate (leading.toNat + 1 - digits.length) '0')
      (fractionOf (digits.drop (leading.toNat + 1))) := by
  have hshort := significant.short
  have hwhole : ∀ c ∈ digits.take (leading.toNat + 1) ++
      List.replicate (leading.toNat + 1 - digits.length) '0', c.isDigit = true :=
    List.forall_mem_append.2
      ⟨fun c hc => significant.all c (List.mem_of_mem_take hc), fun _ => isDigit_of_mem_zeros⟩
  obtain ⟨hfraction, hsome, hlength⟩ :
      (∀ c ∈ fractionOf (digits.drop (leading.toNat + 1)), c.isDigit = true) ∧
        fractionOf (digits.drop (leading.toNat + 1)) ≠ [] ∧
        (fractionOf (digits.drop (leading.toNat + 1))).length ≤
          max 1 (digits.length - (leading.toNat + 1)) := by
    rcases fractionOf_cases (digits.drop (leading.toNat + 1)) with h | ⟨hmore, h⟩
    · rw [h]
      exact ⟨List.forall_mem_singleton.2 rfl, List.cons_ne_nil _ _, Nat.le_max_left ..⟩
    · rw [h, List.length_drop]
      exact ⟨fun c hc => significant.all c (List.mem_of_mem_drop hc), hmore, Nat.le_max_right ..⟩
  have hall := List.forall_mem_append.2 ⟨hwhole, hfraction⟩
  refine ⟨by rw [Binary64.plain, if_neg (not_lt.2 up)]; rfl, hall, ?_, hsome,
    fits_of_length hall ?_⟩
  · obtain ⟨c, cs, hdigits, hc⟩ := significant.head
    rw [hdigits, List.take_succ_cons]
    exact .inr ⟨c, _, rfl, hc⟩
  · simp only [List.length_append, List.length_take, List.length_replicate]
    omega

/-- A plain numeral is a whole part and a fraction. -/
theorem plain_parts (significant : Significant digits) (high : leading ≤ 15) :
    ∃ whole fraction, PlainParts (Binary64.plain leading digits) whole fraction := by
  rcases lt_or_ge leading 0 with hdown | hup
  · exact ⟨_, _, plainParts_of_neg significant hdown⟩
  · exact ⟨_, _, plainParts_of_nonneg significant hup high⟩

/-- An exponent that is not extreme is left as it is. -/
theorem bounded_exponent {exponent : ℤ} (small : exponent.natAbs ≤ maxExponent) :
    max (-(maxExponent : ℤ) - 1) (min maxExponent exponent) = exponent := by omega

/-- A numeral with an exponent is read exactly. -/
theorem readNumber_scientific (negative : Bool) (significant : Significant digits)
    (small : leading.natAbs ≤ 1000) {rest : List Char} (closing : Closing rest) :
    readNumber negative (Binary64.scientific leading digits ++ rest) =
      finishFloat ⟨negative, Nat.ofDigitChars 10 digits 0, leading - (digits.length - 1)⟩ rest := by
  have hlimit : leading.natAbs ≤ maxExponent := small.trans (by decide)
  have hfits := fits_of_length significant.all (significant.short.trans (by decide))
  have hshort := significant.short
  obtain ⟨c, cs, rfl, hc⟩ := significant.head
  have hplain : Plain [c] := .inr ⟨c, [], rfl, hc⟩
  set tail : List Char :=
    'e' :: (if leading < 0 then '-' else '+') :: (Nat.toDigits 10 leading.natAbs ++ rest) with htail
  have hends : NoDigit tail := by rintro _ ⟨⟩; rfl
  cases cs with
  | nil =>
    have htext : Binary64.scientific leading [c] ++ rest = [c] ++ tail := by
      simp [Binary64.scientific, htail]
    rw [htext, readNumber_digits negative significant.all hplain hends hfits]
    show readExponent ⟨negative, _, 0⟩ _ = _
    rw [readExponent_toDigits _ hlimit closing]
    simp only [zero_add, bounded_exponent hlimit, List.length_singleton]
    simp
  | cons c' cs =>
    have htext : Binary64.scientific leading (c :: c' :: cs) ++ rest =
        [c] ++ '.' :: ((c' :: cs) ++ tail) := by
      simp [Binary64.scientific, htail]
    have hexponent : -((c' :: cs).length : ℤ) + leading =
        leading - ((c :: c' :: cs).length - 1) := by
      simp only [List.length_cons]
      push_cast
      omega
    have hbounded : (leading - ((c :: c' :: cs).length - 1) : ℤ).natAbs ≤ maxExponent := by
      simp only [maxExponent]
      omega
    rw [htext, readNumber_point negative significant.all hplain (List.cons_ne_nil _ _) hfits hends]
    show readExponent ⟨negative, _, -((c' :: cs).length : ℤ)⟩ _ = _
    rw [readExponent_toDigits _ hlimit closing]
    simp only [hexponent, bounded_exponent hbounded]
    rfl

end Layout

/-! ## Numbers near the end -/

theorem shortest_top (negative : Bool) :
    Decimal.shortest ⟨negative, Binary64.significandEnd - 1, Binary64.maxExponent⟩ =
        ⟨17976931348623157, 292⟩ ∧
      Decimal.shortest ⟨negative, Binary64.significandEnd - 2, Binary64.maxExponent⟩ =
        ⟨17976931348623155, 292⟩ := by
  cases negative <;> decide +kernel

theorem magnitude_top (negative : Bool) :
    (Numeral.magnitude ⟨negative, 17976931348623157, 292⟩).isSome = true ∧
      (Numeral.magnitude ⟨negative, 17976931348623155, 292⟩).isSome = true := by
  cases negative <;> decide +kernel

/-- A number with a small enough significand leaves room for two roundings. -/
theorem lt_overflowEnd_of_le {x : Binary64} {most scale : ℚ} (significand : x.significand ≤ most)
    (unit : (2 : ℚ) ^ x.exponent ≤ scale * 2 ^ (970 : ℤ))
    (less : (most + 1 / 2) * scale * (1 + 1 / 2 ^ (53 : ℤ)) ^ 2 < 2 ^ 54 - 1) :
    (x.magnitude + 2 ^ (x.exponent - 1)) * (1 + 1 / 2 ^ (53 : ℤ)) ^ 2 < Binary64.overflowEnd := by
  have hsum : x.magnitude + 2 ^ (x.exponent - 1) = (x.significand + 1 / 2) * 2 ^ x.exponent := by
    rw [Binary64.magnitude, ← Binary64.half_mul_two_zpow, add_mul]
  have hmost : (0 : ℚ) ≤ most + 1 / 2 := by
    have hnonneg : (0 : ℚ) ≤ x.significand := Nat.cast_nonneg _
    linarith
  have hunit : (0 : ℚ) < 2 ^ (970 : ℤ) := by positivity
  calc (x.magnitude + 2 ^ (x.exponent - 1)) * (1 + 1 / 2 ^ (53 : ℤ)) ^ 2
      = (x.significand + 1 / 2) * 2 ^ x.exponent * (1 + 1 / 2 ^ (53 : ℤ)) ^ 2 := by rw [hsum]
    _ ≤ (most + 1 / 2) * (scale * 2 ^ (970 : ℤ)) * (1 + 1 / 2 ^ (53 : ℤ)) ^ 2 := by gcongr
    _ = (most + 1 / 2) * scale * (1 + 1 / 2 ^ (53 : ℤ)) ^ 2 * 2 ^ (970 : ℤ) := by ring
    _ < Binary64.overflowEnd := mul_lt_mul_of_pos_right less hunit

/-- A number that is not one of the two greatest leaves room for two roundings. -/
theorem lt_overflowEnd_or_top {x : Binary64} (inRange : x.InRange) :
    (x.magnitude + 2 ^ (x.exponent - 1)) * (1 + 1 / 2 ^ (53 : ℤ)) ^ 2 < Binary64.overflowEnd ∨
      x.exponent = Binary64.maxExponent ∧ (x.significand = Binary64.significandEnd - 1 ∨
        x.significand = Binary64.significandEnd - 2) := by
  have hsignificand := inRange.significand_lt
  have hexponent := inRange.exponent_le
  simp only [Binary64.significandEnd, Binary64.maxExponent] at hsignificand hexponent ⊢
  by_cases htop : x.exponent = 971
  · by_cases hgreat : x.significand ≤ 0x20000000000000 - 3
    · have hcast : (x.significand : ℚ) ≤ 9007199254740989 := by exact_mod_cast hgreat
      have hunit : (2 : ℚ) ^ x.exponent = 2 * 2 ^ (970 : ℤ) := by
        rw [htop, mul_comm]
        exact zpow_add_one₀ (by norm_num) 970
      exact .inl (lt_overflowEnd_of_le hcast hunit.le (by norm_num))
    · exact .inr ⟨htop, by omega⟩
  · have hcast : (x.significand : ℚ) ≤ 9007199254740991 := by
      exact_mod_cast Nat.le_of_lt_succ hsignificand
    have hunit : (2 : ℚ) ^ x.exponent ≤ 1 * 2 ^ (970 : ℤ) := by
      rw [one_mul]
      exact zpow_le_zpow_right₀ (by norm_num) (by omega)
    exact .inl (lt_overflowEnd_of_le hcast hunit (by norm_num))

/-! ## The text of a number -/

/-- The digits that are read are the digits of the decimal, in their place. -/
theorem significantDigits_value (d : Decimal) :
    ∃ zeros, Nat.ofDigitChars 10 (Binary64.significantDigits d) 0 * 10 ^ zeros = d.digits ∧
      (Nat.toDigits 10 d.digits).length = (Binary64.significantDigits d).length + zeros := by
  obtain ⟨zeros, hzeros⟩ := significantDigits_append d
  refine ⟨zeros, ?_, by rw [hzeros, List.length_append, List.length_replicate]⟩
  have hvalue : Nat.ofDigitChars 10 (Nat.toDigits 10 d.digits) 0 = d.digits :=
    Nat.ofDigitChars_ten_toDigits
  rw [hzeros, Nat.ofDigitChars_append, Nat.ofDigitChars_replicate_zero, Nat.mul_comm] at hvalue
  exact hvalue

theorem no_zeros {m n zeros : ℕ} (last : n % 10 ≠ 0) (h : m * 10 ^ zeros = n) :
    m = n ∧ zeros = 0 := by
  cases zeros with
  | zero => exact ⟨by simpa using h, rfl⟩
  | succ zeros =>
    rw [pow_succ, ← mul_assoc] at h
    omega

/-- No bound is close enough for the two greatest numbers, but there are only two of them. -/
theorem magnitude_of_top {x : Binary64} (top : x.exponent = Binary64.maxExponent)
    (great : x.significand = Binary64.significandEnd - 1 ∨
      x.significand = Binary64.significandEnd - 2) {n : Numeral} {zeros : ℕ}
    (digits : n.significand * 10 ^ zeros = (Decimal.shortest x).digits)
    (exponent : n.exponent = (Decimal.shortest x).exponent + zeros) :
    ∃ y, n.magnitude = some y := by
  obtain ⟨negative, significand, e⟩ := x
  obtain ⟨negative', significand', e'⟩ := n
  simp only at top great digits exponent ⊢
  subst top
  rcases great with rfl | rfl
  · rw [(shortest_top negative).1] at digits exponent
    obtain ⟨rfl, rfl⟩ := no_zeros (by decide) digits
    rw [exponent]
    exact Option.isSome_iff_exists.1 (magnitude_top negative').1
  · rw [(shortest_top negative).2] at digits exponent
    obtain ⟨rfl, rfl⟩ := no_zeros (by decide) digits
    rw [exponent]
    exact Option.isSome_iff_exists.1 (magnitude_top negative').2

/-- A numeral that is as large as the shortest decimal of a number is not too large. -/
theorem value_of_shortest {x : Binary64} (inRange : x.InRange) (nonzero : 0 < x.significand)
    {n : Numeral} (fits : n.significand ≤ maxWord) {zeros : ℕ}
    (digits : n.significand * 10 ^ zeros = (Decimal.shortest x).digits)
    (exponent : n.exponent = (Decimal.shortest x).exponent + zeros) :
    ∃ y, n.magnitude = some y := by
  obtain ⟨hpos, -, -, hclose⟩ := Decimal.shortest_bounds inRange nonzero
  rcases lt_or_ge n.exponent 0 with hdown | hup
  · exact Numeral.magnitude_of_neg fits hdown
  · have hsome : 0 < n.significand := Nat.pos_of_mul_pos_right (digits ▸ hpos)
    have hvalue : (n.significand : ℚ) * 10 ^ n.exponent.natAbs =
        (Decimal.shortest x).digits * 10 ^ (Decimal.shortest x).exponent := by
      have hpower : (10 : ℚ) ^ n.exponent.natAbs = 10 ^ n.exponent := by
        rw [← zpow_natCast, Int.natAbs_of_nonneg hup]
      rw [hpower, exponent, zpow_add₀ (by norm_num), zpow_natCast, ← digits]
      push_cast
      ring
    rw [← hvalue] at hclose
    have hstep : n.exponent.natAbs ≤ Numeral.stepLimit := by
      rw [← zpow_natCast] at hclose
      have hlt := Decimal.exponent_lt inRange hsome hclose
      rw [Numeral.stepLimit]
      omega
    -- the significand and the power are rounded, so there has to be room for two roundings
    rcases lt_overflowEnd_or_top inRange with hroom | ⟨htop, hgreat⟩
    · exact Numeral.magnitude_of_nonneg fits hup hstep
        (lt_of_le_of_lt (by gcongr) hroom)
    · exact magnitude_of_top htop hgreat digits exponent

/-- A text starts with a digit and is read as a number after its sign, whatever follows it that ends
a number. -/
structure ReadsFloat (negative : Bool) (text : List Char) : Prop where
  /-- It starts with a digit. -/
  starts : ∃ c cs, text = c :: cs ∧ c.isDigit = true
  /-- It is read. -/
  reads : ∃ y, ∀ rest, Closing rest → readNumber negative (text ++ rest) = .ok (.float y, rest)

theorem ReadsFloat.of_numeral {negative : Bool} {text : List Char} {n : Numeral}
    (starts : ∃ c cs, text = c :: cs ∧ c.isDigit = true) (value : ∃ y, n.magnitude = some y)
    (reads : ∀ rest, Closing rest → readNumber negative (text ++ rest) = finishFloat n rest) :
    ReadsFloat negative text := by
  obtain ⟨y, hy⟩ := value
  refine ⟨starts, if n.negative then y.neg else y, fun rest closing => ?_⟩
  rw [reads rest closing, finishFloat, Numeral.value, hy]
  rfl

theorem readsFloat_zero (negative : Bool) : ReadsFloat negative ['0', '.', '0'] := by
  have hzero : ∀ c ∈ ['0'], c.isDigit = true := List.forall_mem_singleton.2 rfl
  have hall : ∀ c ∈ ['0'] ++ ['0'], c.isDigit = true := List.forall_mem_append.2 ⟨hzero, hzero⟩
  have hdown : (-1 : ℤ) < 0 := by decide
  let n : Numeral := ⟨negative, 0, -1⟩
  have hvalue : ∃ y, n.magnitude = some y := Numeral.magnitude_of_neg (Nat.zero_le _) hdown
  refine .of_numeral ⟨'0', _, rfl, rfl⟩ hvalue fun rest closing => ?_
  exact (readNumber_point negative hall (.inl rfl) (List.cons_ne_nil _ _) (Nat.zero_le _)
    closing.noDigit).trans (readScale_closing _ closing)

theorem readsFloat_plain (negative : Bool) {digits : List Char} {leading : ℤ}
    (significant : Significant digits) (high : leading ≤ 15) :
    ReadsFloat negative (Binary64.plain leading digits) := by
  obtain ⟨whole, fraction, htext, hall, hplain, hsome, hfits⟩ := plain_parts significant high
  have hlength : 0 < fraction.length := List.length_pos_iff.2 hsome
  have hdown : -(fraction.length : ℤ) < 0 := by omega
  have hstarts : ∃ c cs, whole ++ '.' :: fraction = c :: cs ∧ c.isDigit = true := by
    rcases hplain with rfl | ⟨c, cs, rfl, -⟩
    · exact ⟨'0', _, rfl, rfl⟩
    · exact ⟨c, _, rfl, hall c (List.mem_append_left _ (List.mem_cons_self ..))⟩
  let n : Numeral :=
    ⟨negative, Nat.ofDigitChars 10 (whole ++ fraction) 0, -(fraction.length : ℤ)⟩
  have hvalue : ∃ y, n.magnitude = some y := Numeral.magnitude_of_neg hfits hdown
  rw [htext]
  refine .of_numeral hstarts hvalue fun rest closing => ?_
  rw [List.append_assoc, List.cons_append,
    readNumber_point negative hall hplain hsome hfits closing.noDigit, readScale_closing _ closing]

/-- The text of a magnitude is read as a number. -/
theorem readsFloat_magnitudeText {x : Binary64} (inRange : x.InRange) (negative : Bool) :
    ReadsFloat negative x.magnitudeText := by
  rw [Binary64.magnitudeText]
  by_cases hzero : x.isZero = true
  · rw [if_pos hzero]
    exact readsFloat_zero negative
  rw [if_neg hzero]
  have nonzero : 0 < x.significand := by
    refine Nat.pos_iff_ne_zero.2 fun h => hzero ?_
    rw [Binary64.isZero, h]
    rfl
  obtain ⟨hpos, hsmall, hleast, hclose⟩ := Decimal.shortest_bounds inRange nonzero
  have hmost := Decimal.exponent_lt inRange hpos hclose
  obtain ⟨zeros, hvalue, hlength⟩ := significantDigits_value (Decimal.shortest x)
  have hsignificant := significant_of_pos hpos hsmall
  have hshort : (Nat.toDigits 10 (Decimal.shortest x).digits).length ≤ 18 :=
    (Nat.length_toDigits_le_iff (by decide) (by decide)).2 hsmall
  have hsome : 0 < (Nat.toDigits 10 (Decimal.shortest x).digits).length :=
    Nat.length_toDigits_pos
  simp only
  split
  · next hplain => exact readsFloat_plain negative hsignificant hplain.2
  · have hfits := fits_of_length hsignificant.all (hsignificant.short.trans (by decide))
    have hstarts : ∃ c cs, Binary64.scientific ((Decimal.shortest x).exponent +
        (Nat.toDigits 10 (Decimal.shortest x).digits).length - 1)
        (Binary64.significantDigits (Decimal.shortest x)) = c :: cs ∧ c.isDigit = true := by
      obtain ⟨c, cs, hdigits, -⟩ := hsignificant.head
      have hc : c.isDigit = true := hsignificant.all c (hdigits ▸ List.mem_cons_self ..)
      rw [hdigits]
      exact ⟨c, _, rfl, hc⟩
    refine .of_numeral hstarts (value_of_shortest inRange nonzero hfits hvalue ?_)
      fun rest closing => readNumber_scientific negative hsignificant ?_ closing
    · simp only
      omega
    · omega

/-- **The text of a floating point number is read as a number**, though perhaps as another one. -/
theorem numeralFor_text {x : Binary64} (inRange : x.InRange) : ∃ y, NumeralFor x y := by
  obtain ⟨⟨c, cs, htext, hc⟩, y, hy⟩ := readsFloat_magnitudeText inRange x.negative
  refine ⟨y, ?_, fun steps room rest closing => ?_⟩
  · rw [Binary64.text]
    split
    · exact ⟨'-', _, rfl, .inr rfl⟩
    · exact ⟨c, cs, htext, .inl hc⟩
  · have hread := hy rest closing
    rw [Binary64.text]
    split
    · next hnegative =>
      rw [hnegative] at hread
      exact hread
    · next hnegative =>
      rw [Bool.not_eq_true] at hnegative
      rw [hnegative, htext, List.cons_append] at hread
      rw [htext, List.cons_append, readValue_digit steps room hc]
      exact hread

end EventBatching.Json
