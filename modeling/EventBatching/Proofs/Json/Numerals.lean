import EventBatching.Proofs.Json.Text

/-!
# Reading digits and strings back

A numeral is read digit by digit into a word, and a string character by character into a text. What
was written is what is read: digits that fit give their number, and an escaped character is itself.

* `Json.foldDigits_split` says where folding digits stops, and `Json.foldDigits_of_fits` that it
  does not stop early if the number fits.
* `Json.readNumber_digits` reads the integer part of a number, and `Json.readNumber_toDigits` a
  whole integer.
* `Json.readString_quoted` reads a string.
-/

namespace EventBatching.Json

/-! ## Digits -/

/-- A text does not start with a digit. -/
def NoDigit (text : List Char) : Prop := ∀ c ∈ text.head?, c.isDigit = false

theorem NoDigit.takeWhile {text : List Char} (h : NoDigit text) :
    text.takeWhile Char.isDigit = [] := by
  cases text with
  | nil => rfl
  | cons c rest => rw [List.takeWhile_cons, h c rfl]; rfl

theorem NoDigit.dropWhile {text : List Char} (h : NoDigit text) :
    text.dropWhile Char.isDigit = text := by
  cases text with
  | nil => rfl
  | cons c rest => rw [List.dropWhile_cons, h c rfl]; rfl

theorem NoDigit.head {text : List Char} (h : NoDigit text) :
    (text.head?.map Char.isDigit).getD false = false := by
  cases text with
  | nil => rfl
  | cons c rest => exact h c rfl

theorem isDigit_of_mem_decimal {n : Nat} {c : Char} (h : c ∈ Nat.toDigits 10 n) :
    c.isDigit = true := Nat.isDigit_of_mem_toDigits (by decide) (by decide) h

/-- More digits do not make a number smaller. -/
theorem le_ofDigitChars (value : Nat) (digits : List Char) :
    value ≤ Nat.ofDigitChars 10 digits value := by
  rw [Nat.ofDigitChars_eq_ofDigitChars_zero]
  calc value ≤ 10 ^ digits.length * value := Nat.le_mul_of_pos_left _ (Nat.pow_pos (by decide))
    _ ≤ _ := Nat.le_add_right ..

/-- Folding takes the first digits up to one that does not fit. -/
theorem foldDigits_split {limit value : Nat} {digits rest : List Char}
    (all : ∀ c ∈ digits, c.isDigit = true) (ends : NoDigit rest) (folded : Nat) :
    ∃ taken left, digits = taken ++ left ∧
      foldDigits limit value folded (digits ++ rest) =
        (Nat.ofDigitChars 10 taken value, folded + taken.length, left ++ rest) ∧
      (value ≤ limit → Nat.ofDigitChars 10 taken value ≤ limit) ∧
      (left ≠ [] → limit < Nat.ofDigitChars 10 digits value) := by
  induction digits generalizing value folded with
  | nil =>
    refine ⟨[], [], rfl, ?_, fun h => h, fun h => absurd rfl h⟩
    cases rest with
    | nil => rfl
    | cons c rest =>
      have hc : c.isDigit = false := ends c rfl
      simp [foldDigits, hc]
  | cons c digits ih =>
    obtain ⟨hc, hdigits⟩ := List.forall_mem_cons.1 all
    have hvalue : 10 * value + (c.toNat - '0'.toNat) = value * 10 + digitValue c := by
      rw [Nat.mul_comm]
      rfl
    by_cases hfits : value * 10 + digitValue c ≤ limit
    · obtain ⟨taken, left, rfl, hfold, hle, hleft⟩ :=
        @ih (value * 10 + digitValue c) hdigits (folded + 1)
      refine ⟨c :: taken, left, rfl, ?_, fun _ => ?_, fun hsome => ?_⟩
      · rw [List.cons_append, foldDigits, if_pos ⟨hc, hfits⟩, hfold, Nat.ofDigitChars_cons, hvalue,
          List.length_cons]
        simp only [Nat.add_assoc, Nat.add_comm 1]
      · rw [Nat.ofDigitChars_cons, hvalue]
        exact hle hfits
      · rw [Nat.ofDigitChars_cons, hvalue]
        exact hleft hsome
    · refine ⟨[], c :: digits, rfl, ?_, fun h => h, fun _ => ?_⟩
      · rw [List.cons_append, foldDigits, if_neg (fun h => hfits h.2)]
        rfl
      · rw [Nat.ofDigitChars_cons, hvalue]
        exact Nat.lt_of_lt_of_le (Nat.not_le.1 hfits) (le_ofDigitChars ..)

/-- Digits whose number fits are all taken. -/
theorem foldDigits_of_fits {limit value : Nat} {digits rest : List Char}
    (all : ∀ c ∈ digits, c.isDigit = true) (ends : NoDigit rest)
    (fits : Nat.ofDigitChars 10 digits value ≤ limit) (folded : Nat) :
    foldDigits limit value folded (digits ++ rest) =
      (Nat.ofDigitChars 10 digits value, folded + digits.length, rest) := by
  obtain ⟨taken, left, rfl, hfold, -, hleft⟩ :=
    @foldDigits_split limit value digits rest all ends folded
  have hnone : left = [] :=
    Decidable.byContradiction fun hsome => absurd fits (Nat.not_le.2 (hleft hsome))
  subst hnone
  rw [List.append_nil] at hfold ⊢
  exact hfold

/-! ## Integers -/

/-- An integer part is a single zero or does not start with one. -/
def Plain (digits : List Char) : Prop :=
  digits = ['0'] ∨ ∃ c rest, digits = c :: rest ∧ c ≠ '0'

/-- An integer part whose number fits into a word is read, whatever follows it. -/
theorem readNumber_digits (negative : Bool) {digits rest : List Char}
    (all : ∀ c ∈ digits, c.isDigit = true) (plain : Plain digits) (ends : NoDigit rest)
    (fits : Nat.ofDigitChars 10 digits 0 ≤ maxWord) :
    readNumber negative (digits ++ rest) =
      readAfterInteger negative (Nat.ofDigitChars 10 digits 0) 0 rest := by
  rcases plain with rfl | ⟨c, more, rfl, hc⟩
  · show (if (rest.head?.map Char.isDigit).getD false then _ else _) = _
    rw [ends.head, if_neg Bool.false_ne_true]
    rfl
  · have hfold := foldDigits_of_fits all ends fits 0
    have hdigit : c.isDigit = true := all c (List.mem_cons_self ..)
    have hread : readNumber negative (c :: more ++ rest) =
        if c.isDigit then
          let fold := foldDigits maxWord 0 0 (c :: more ++ rest)
          readAfterInteger negative fold.1 (fold.2.2.takeWhile Char.isDigit).length
            (fold.2.2.dropWhile Char.isDigit)
        else .error ⟨.invalidNumber, c :: more ++ rest, 1⟩ := by
      rw [List.cons_append, readNumber]
      exact hc
    rw [hread, if_pos hdigit, hfold]
    simp only [ends.takeWhile, ends.dropWhile, List.length_nil]

theorem digitChar_ne_zero {n : Nat} (positive : 0 < n) (small : n < 10) : n.digitChar ≠ '0' := by
  have hall : ∀ n < 10, 0 < n → n.digitChar ≠ '0' := by decide
  exact hall n small positive

/-- The digits of a number that is not zero do not start with one. -/
theorem toDigits_of_pos {n : Nat} (positive : 0 < n) :
    ∃ c rest, Nat.toDigits 10 n = c :: rest ∧ c ≠ '0' := by
  induction n using Nat.strongRecOn with
  | ind n ih =>
    rw [Nat.toDigits_eq_if (by decide)]
    by_cases hsmall : n < 10
    · rw [if_pos hsmall]
      exact ⟨n.digitChar, [], rfl, digitChar_ne_zero positive hsmall⟩
    · have hpositive : 0 < n / 10 := by omega
      obtain ⟨c, rest, hdigits, hc⟩ := ih (n / 10) (by omega) hpositive
      rw [if_neg hsmall, hdigits]
      exact ⟨c, rest ++ [(n % 10).digitChar], rfl, hc⟩

theorem plain_toDigits (n : Nat) : Plain (Nat.toDigits 10 n) := by
  rcases Nat.eq_zero_or_pos n with rfl | hpositive
  · exact .inl rfl
  · exact .inr (toDigits_of_pos hpositive)

/-- A text that may follow a number ends it. -/
def Closing (text : List Char) : Prop := ∀ c ∈ text.head?, c = ',' ∨ c = ']' ∨ c = '}'

theorem Closing.noDigit {text : List Char} (h : Closing text) : NoDigit text := by
  intro c hc
  rcases h c hc with rfl | rfl | rfl <;> decide

/-- A whole integer is read. -/
theorem readNumber_toDigits (negative : Bool) {n : Nat} (fits : n ≤ maxWord) {rest : List Char}
    (closing : Closing rest) :
    readNumber negative (Nat.toDigits 10 n ++ rest) = .ok (integer negative n, rest) := by
  have hvalue : Nat.ofDigitChars 10 (Nat.toDigits 10 n) 0 = n := Nat.ofDigitChars_ten_toDigits
  rw [readNumber_digits negative (fun _ => isDigit_of_mem_decimal) (plain_toDigits n)
    closing.noDigit (by rwa [hvalue]), hvalue]
  cases rest with
  | nil => rfl
  | cons c rest => rcases closing c rfl with rfl | rfl | rfl <;> rfl

theorem integer_natAbs (n : WordInt) :
    integer (decide (n.val < 0)) n.val.natAbs = .int n := by
  obtain ⟨n, lower, upper⟩ := n
  by_cases hneg : n < 0
  · have hsize : 0 < n.natAbs ∧ n.natAbs ≤ 0x8000000000000000 := by omega
    have hvalue : -(n.natAbs : Int) = n := by omega
    simp only [integer, hneg, decide_true, if_true, dif_pos hsize, hvalue]
  · have hsize : n.natAbs < 0x10000000000000000 := by omega
    have hvalue : (n.natAbs : Int) = n := by omega
    simp only [integer, hneg, decide_false, Bool.false_eq_true, if_false, dif_pos hsize, hvalue]

/-! ## Strings -/

theorem readStringTo_quoted {steps : Nat} {cs : List Char} (enough : cs.length < steps)
    (out : String) (rest : List Char) :
    readStringTo steps out (cs.flatMap escape ++ '"' :: rest) =
      .ok (out ++ String.ofList cs, rest) := by
  induction cs generalizing steps out with
  | nil =>
    obtain ⟨steps, rfl⟩ := Nat.exists_eq_succ_of_ne_zero (Nat.ne_of_gt enough)
    simp [readStringTo]
  | cons c cs ih =>
    obtain ⟨steps, rfl⟩ := Nat.exists_eq_succ_of_ne_zero (Nat.ne_of_gt (Nat.zero_lt_of_lt enough))
    have hrest := ih (Nat.lt_of_succ_lt_succ enough) (out.push c)
    have hout : out.push c ++ String.ofList cs = out ++ String.ofList (c :: cs) := by
      rw [← String.toList_inj]
      simp
    rw [List.flatMap_cons, List.append_assoc, ← hout, ← hrest]
    rcases escape_cases c with ⟨hself, hquote, hbackslash, hprinted⟩ | ⟨tail, htail, -, hread⟩
    · rw [hself, List.singleton_append, readStringTo, if_neg hquote, if_neg hbackslash,
        if_neg (Nat.not_lt.2 hprinted)]
    · rw [htail, List.cons_append, readStringTo, if_neg (by decide), if_pos rfl, hread]

/-- A string that was written is read back. -/
theorem readString_quoted {steps : Nat} {s : String} (enough : s.toList.length < steps)
    (rest : List Char) :
    readString steps (s.toList.flatMap escape ++ '"' :: rest) = .ok (s, rest) := by
  rw [readString, readStringTo_quoted enough]
  simp

end EventBatching.Json
