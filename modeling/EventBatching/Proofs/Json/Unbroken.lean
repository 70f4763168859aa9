import EventBatching.Json.Parser
import Mathlib.Data.List.Basic

/-!
# Line breaks between tokens

In a string a line break is escaped, and a word or a number has none. So if a text that is read has
line breaks, they stand between tokens, and with spaces in their places the text is read as the
same. What is read of a text in this way is not said for a text that is refused: a string with a
line break in it is refused, and one with a space is not.

* `Json.unbroken` puts spaces in the places of line breaks.
* `Json.Indifferent` says that a reader does not care, and `Json.readersIndifferent` that no reader
  does.
* `Json.parse_unbroken` is about whole texts.
-/

namespace EventBatching.Json

/-! ## Characters -/

/-- A character, a space if it is a line break. -/
def unbrokenChar (c : Char) : Char := if c = '\n' then ' ' else c

/-- A text with spaces in the places of its line breaks. -/
def unbroken (text : String) : String := String.ofList (text.toList.map unbrokenChar)

theorem unbrokenChar_of_ne {c : Char} (h : c ≠ '\n') : unbrokenChar c = c := if_neg h

/-- What is the same for a line break and a space does not change. -/
theorem apply_unbrokenChar {α : Type} {f : Char → α} (same : f ' ' = f '\n') (c : Char) :
    f (unbrokenChar c) = f c := by
  rw [unbrokenChar]
  split
  · next h => rw [h, same]
  · rfl

@[simp] theorem isBlank_unbrokenChar (c : Char) : isBlank (unbrokenChar c) = isBlank c :=
  apply_unbrokenChar rfl c

@[simp] theorem isDigit_unbrokenChar (c : Char) : (unbrokenChar c).isDigit = c.isDigit :=
  apply_unbrokenChar rfl c

@[simp] theorem hexDigit?_unbrokenChar (c : Char) : hexDigit? (unbrokenChar c) = hexDigit? c :=
  apply_unbrokenChar rfl c

theorem digit_unbrokenChar {c : Char} (digit : c.isDigit = true) : unbrokenChar c = c :=
  unbrokenChar_of_ne fun hbreak => absurd digit (by rw [hbreak]; decide)

theorem newline_notMem_unbroken (text : String) : '\n' ∉ (unbroken text).toList := by
  rw [unbroken, String.toList_ofList, List.mem_map]
  rintro ⟨c, -, hc⟩
  rw [unbrokenChar] at hc
  split at hc
  · exact absurd hc (by decide)
  · next h => exact h hc

/-! ## Texts -/

/-- No character but a space can have become the first of a text. -/
theorem not_head_unbroken {text rest : List Char} {d : Char} (space : d ≠ ' ')
    (other : ∀ left, text ≠ d :: left) : text.map unbrokenChar ≠ d :: rest := by
  intro h
  obtain ⟨c, left, rfl, hc, -⟩ := List.map_eq_cons_iff.1 h
  rw [unbrokenChar] at hc
  split at hc
  · exact space hc.symm
  · exact other left (by rw [hc])

theorem skipBlanks_unbroken (text : List Char) :
    skipBlanks (text.map unbrokenChar) = (skipBlanks text).map unbrokenChar := by
  have hsame : isBlank ∘ unbrokenChar = isBlank := funext isBlank_unbrokenChar
  rw [skipBlanks, List.dropWhile_map, hsame, skipBlanks]

theorem dropDigits_unbroken (text : List Char) :
    (text.map unbrokenChar).dropWhile Char.isDigit =
      (text.dropWhile Char.isDigit).map unbrokenChar := by
  have hsame : Char.isDigit ∘ unbrokenChar = Char.isDigit := funext isDigit_unbrokenChar
  rw [List.dropWhile_map, hsame]

theorem takeDigits_unbroken (text : List Char) :
    ((text.map unbrokenChar).takeWhile Char.isDigit).length =
      (text.takeWhile Char.isDigit).length := by
  have hsame : Char.isDigit ∘ unbrokenChar = Char.isDigit := funext isDigit_unbrokenChar
  rw [List.takeWhile_map, hsame, List.length_map]

theorem headDigit_unbroken (text : List Char) :
    ((text.map unbrokenChar).head?.map Char.isDigit).getD false =
      (text.head?.map Char.isDigit).getD false := by
  cases text with
  | nil => rfl
  | cons c rest => exact isDigit_unbrokenChar c

/-- What a reader takes off a text it also takes off the text with spaces for line breaks. -/
def Indifferent {α : Type} (read : List Char → Except Fault (α × List Char)) : Prop :=
  ∀ {text rest v}, read text = .ok (v, rest) →
    read (text.map unbrokenChar) = .ok (v, rest.map unbrokenChar)

/-! ## Numbers -/

theorem foldDigits_unbroken (limit value folded : ℕ) (text : List Char) :
    foldDigits limit value folded (text.map unbrokenChar) =
      ((foldDigits limit value folded text).1, (foldDigits limit value folded text).2.1,
        (foldDigits limit value folded text).2.2.map unbrokenChar) := by
  induction text generalizing value folded with
  | nil => rfl
  | cons c text ih =>
    rw [List.map_cons, foldDigits, foldDigits, isDigit_unbrokenChar]
    by_cases hdigit : c.isDigit = true
    · rw [digit_unbrokenChar hdigit]
      split
      · exact ih _ _
      · rw [List.map_cons, digit_unbrokenChar hdigit]
    · rw [if_neg fun hboth => hdigit hboth.1, if_neg fun hboth => hdigit hboth.1, List.map_cons]

theorem finishFloat_indifferent (n : Numeral) : Indifferent (finishFloat n) := by
  intro text rest v h
  rw [finishFloat] at h ⊢
  split at h
  · obtain ⟨rfl, rfl⟩ := Prod.mk.inj (Except.ok.inj h)
    rfl
  · cases h

theorem readExponentDigits_indifferent (n : Numeral) (down : Bool) :
    Indifferent (readExponentDigits n down) := by
  intro text rest v h
  simp only [readExponentDigits] at h
  simp only [readExponentDigits, foldDigits_unbroken, headDigit_unbroken]
  split at h
  · next hmore =>
    rw [if_pos hmore]
    split at h
    · cases h
    · next hsmall =>
      rw [if_neg hsmall, dropDigits_unbroken]
      obtain ⟨rfl, rfl⟩ := Prod.mk.inj (Except.ok.inj h)
      rfl
  · next hdone =>
    rw [if_neg hdone]
    exact finishFloat_indifferent _ h

/-- What may stand in front of the digits of an exponent, and whether it goes down then. -/
def Signs (signs : List Char) (down : Bool) : Prop :=
  signs = [] ∧ down = false ∨ signs = ['+'] ∧ down = false ∨ signs = ['-'] ∧ down = true

theorem readExponent_of_digit {n : Numeral} {signs : List Char} {down : Bool}
    (signed : Signs signs down) {c : Char} (digit : c.isDigit = true) (digits : List Char) :
    readExponent n (signs ++ c :: digits) = readExponentDigits n down (c :: digits) := by
  rcases signed with ⟨rfl, rfl⟩ | ⟨rfl, rfl⟩ | ⟨rfl, rfl⟩
  · have hplus : c ≠ '+' := fun h => absurd digit (by rw [h]; decide)
    have hminus : c ≠ '-' := fun h => absurd digit (by rw [h]; decide)
    simp [readExponent, hplus, hminus, digit]
  · exact if_pos digit
  · exact if_pos digit

/-- An exponent that is read has digits, which may have a sign in front of them. -/
theorem exists_of_readExponent {n : Numeral} {text rest : List Char} {v : Json}
    (h : readExponent n text = .ok (v, rest)) :
    ∃ signs down c digits, text = signs ++ c :: digits ∧ Signs signs down ∧ c.isDigit = true := by
  unfold readExponent at h
  split at h
  next down digits hsign =>
  split at h
  · cases h
  · next c more =>
    split at h
    · next hdigit =>
      split at hsign
      · obtain ⟨rfl, rfl⟩ := Prod.mk.inj hsign
        exact ⟨['+'], false, c, more, rfl, .inr (.inl ⟨rfl, rfl⟩), hdigit⟩
      · obtain ⟨rfl, rfl⟩ := Prod.mk.inj hsign
        exact ⟨['-'], true, c, more, rfl, .inr (.inr ⟨rfl, rfl⟩), hdigit⟩
      · obtain ⟨rfl, rfl⟩ := Prod.mk.inj hsign
        exact ⟨[], false, c, more, rfl, .inl ⟨rfl, rfl⟩, hdigit⟩
    · cases h

theorem readExponent_indifferent (n : Numeral) : Indifferent (readExponent n) := by
  intro text rest v h
  obtain ⟨signs, down, c, digits, rfl, hsigns, hdigit⟩ := exists_of_readExponent h
  have hsame : signs.map unbrokenChar = signs := by
    rcases hsigns with ⟨rfl, -⟩ | ⟨rfl, -⟩ | ⟨rfl, -⟩ <;> rfl
  rw [readExponent_of_digit hsigns hdigit] at h
  have hread := readExponentDigits_indifferent n down h
  rw [List.map_cons, digit_unbrokenChar hdigit] at hread
  rw [List.map_append, hsame, List.map_cons, digit_unbrokenChar hdigit,
    readExponent_of_digit hsigns hdigit, hread]

theorem readScale_indifferent (n : Numeral) : Indifferent (readScale n) := by
  intro text rest v h
  unfold readScale at h
  split at h
  · exact readExponent_indifferent n h
  · exact readExponent_indifferent n h
  · next hlower hupper =>
    unfold readScale
    split
    · next heq => exact absurd heq (not_head_unbroken (by decide) hlower)
    · next heq => exact absurd heq (not_head_unbroken (by decide) hupper)
    · exact finishFloat_indifferent n h

theorem readFraction_indifferent (n : Numeral) : Indifferent (readFraction n) := by
  intro text rest v h
  cases text with
  | nil => cases h
  | cons c text =>
    simp only [readFraction] at h
    split at h
    · next hdigit =>
      have hread := readScale_indifferent _ h
      rw [List.map_cons, readFraction]
      simp only [isDigit_unbrokenChar, hdigit, if_true]
      rw [← List.map_cons]
      simp only [foldDigits_unbroken, dropDigits_unbroken]
      exact hread
    · cases h

theorem readAfterInteger_indifferent (negative : Bool) (significand dropped : ℕ) :
    Indifferent (readAfterInteger negative significand dropped) := by
  intro text rest v h
  unfold readAfterInteger at h
  simp only at h
  split at h
  · exact readFraction_indifferent _ h
  · exact readExponent_indifferent _ h
  · exact readExponent_indifferent _ h
  · next hpoint hlower hupper =>
    unfold readAfterInteger
    simp only
    split
    · next heq => exact absurd heq (not_head_unbroken (by decide) hpoint)
    · next heq => exact absurd heq (not_head_unbroken (by decide) hlower)
    · next heq => exact absurd heq (not_head_unbroken (by decide) hupper)
    · split at h
      · next hwhole =>
        rw [if_pos hwhole]
        obtain ⟨rfl, rfl⟩ := Prod.mk.inj (Except.ok.inj h)
        rfl
      · next hmore =>
        rw [if_neg hmore]
        exact finishFloat_indifferent _ h

/-- An integer part that does not begin with a zero is folded. -/
theorem readNumber_of_digit (negative : Bool) {c : Char} (digit : c.isDigit = true)
    (nonzero : c ≠ '0') (text : List Char) :
    readNumber negative (c :: text) =
      readAfterInteger negative (foldDigits maxWord 0 0 (c :: text)).1
        ((foldDigits maxWord 0 0 (c :: text)).2.2.takeWhile Char.isDigit).length
        ((foldDigits maxWord 0 0 (c :: text)).2.2.dropWhile Char.isDigit) := by
  rw [readNumber, if_pos digit]
  exact nonzero

theorem readNumber_indifferent (negative : Bool) : Indifferent (readNumber negative) := by
  intro text rest v h
  cases text with
  | nil => cases h
  | cons c text =>
    by_cases hzero : c = '0'
    · subst hzero
      rw [readNumber] at h
      rw [List.map_cons, unbrokenChar_of_ne (by decide), readNumber, headDigit_unbroken]
      split at h
      · cases h
      · next hdone =>
        rw [if_neg hdone]
        exact readAfterInteger_indifferent _ _ _ h
    · by_cases hdigit : c.isDigit = true
      · rw [readNumber_of_digit negative hdigit hzero] at h
        rw [List.map_cons, digit_unbrokenChar hdigit, readNumber_of_digit negative hdigit hzero,
          ← digit_unbrokenChar hdigit, ← List.map_cons, foldDigits_unbroken,
          dropDigits_unbroken, takeDigits_unbroken]
        exact readAfterInteger_indifferent _ _ _ h
      · rw [readNumber, if_neg hdigit] at h
        · cases h
        · exact hzero

/-! ## Strings -/

theorem hexUnit?_unbroken {text rest : List Char} {unit : ℕ}
    (h : hexUnit? text = some (unit, rest)) :
    hexUnit? (text.map unbrokenChar) = some (unit, rest.map unbrokenChar) := by
  unfold hexUnit? at h
  split at h
  · simp only [List.map_cons, hexUnit?, hexDigit?_unbrokenChar]
    simp only [Option.bind_eq_bind, Option.bind_eq_some_iff] at h ⊢
    obtain ⟨a, ha, b, hb, c, hc, d, hd, hunit⟩ := h
    obtain ⟨rfl, rfl⟩ := Prod.mk.inj (Option.some.inj hunit)
    exact ⟨a, ha, b, hb, c, hc, d, hd, rfl⟩
  · cases h

theorem readUnit_indifferent : Indifferent readUnit := by
  intro text rest unit h
  rw [readUnit] at h
  split at h
  · next hunit =>
    obtain rfl := Except.ok.inj h
    rw [readUnit, hexUnit?_unbroken hunit]
  · split at h <;> cases h

theorem readTrailing_indifferent (leading : ℕ) : Indifferent (readTrailing leading) := by
  intro text rest c h
  unfold readTrailing at h
  split at h
  · cases h
  · cases h
  · next text =>
    split at h
    · cases h
    · next unit left hunit =>
      split at h
      · next htrailing =>
        obtain ⟨rfl, rfl⟩ := Prod.mk.inj (Except.ok.inj h)
        rw [List.map_cons, List.map_cons, unbrokenChar_of_ne (by decide),
          unbrokenChar_of_ne (by decide), readTrailing, readUnit_indifferent hunit]
        exact if_pos htrailing
      · cases h
  · cases h
  · cases h

theorem readNumbered_indifferent : Indifferent readNumbered := by
  intro text rest c h
  rw [readNumbered] at h
  split at h
  · cases h
  · next unit left hunit =>
    rw [readNumbered, readUnit_indifferent hunit]
    split at h
    · cases h
    · next htrailing =>
      simp only [htrailing]
      split at h
      · next hleading =>
        rw [if_neg Bool.false_ne_true, if_pos hleading]
        exact readTrailing_indifferent unit h
      · next hleading =>
        rw [if_neg Bool.false_ne_true, if_neg hleading]
        obtain ⟨rfl, rfl⟩ := Prod.mk.inj (Except.ok.inj h)
        rfl

theorem readEscape_indifferent : Indifferent readEscape := by
  intro text rest c h
  unfold readEscape at h
  split at h
  case h_1 => cases h
  case h_10 => exact readNumbered_indifferent h
  case h_11 => cases h
  -- the other letters stand for one character each
  all_goals
    obtain ⟨rfl, rfl⟩ := Prod.mk.inj (Except.ok.inj h)
    rfl

theorem readStringTo_indifferent (steps : ℕ) (out : String) :
    Indifferent (readStringTo steps out) := by
  induction steps generalizing out with
  | zero => exact nofun
  | succ steps ih =>
    intro text rest s h
    cases text with
    | nil => cases h
    | cons c text =>
      rw [readStringTo] at h
      split at h
      · next hquote =>
        obtain ⟨rfl, rfl⟩ := Prod.mk.inj (Except.ok.inj h)
        rw [List.map_cons, hquote, readStringTo]
        rfl
      · next hquote =>
        split at h
        · next hbackslash =>
          split at h
          · cases h
          · next escaped left hescape =>
            rw [List.map_cons, hbackslash, unbrokenChar_of_ne (by decide), readStringTo,
              if_neg (by decide), if_pos rfl, readEscape_indifferent hescape]
            exact ih _ h
        · next hbackslash =>
          split at h
          · cases h
          · next hprinted =>
            have hsame : unbrokenChar c = c :=
              unbrokenChar_of_ne fun hbreak => hprinted (by rw [hbreak]; decide)
            rw [List.map_cons, hsame, readStringTo, if_neg hquote, if_neg hbackslash,
              if_neg hprinted]
            exact ih _ h

theorem readString_indifferent (steps : ℕ) : Indifferent (readString steps) :=
  readStringTo_indifferent steps ""

/-! ## Values -/

theorem readWord_indifferent (value : Json) {letters : List Char} (whole : '\n' ∉ letters) :
    Indifferent (readWord value letters) := by
  intro text rest v h
  induction letters generalizing text with
  | nil =>
    obtain ⟨rfl, rfl⟩ := Prod.mk.inj (Except.ok.inj h)
    rfl
  | cons letter letters ih =>
    rw [List.mem_cons, not_or] at whole
    cases text with
    | nil => cases h
    | cons c text =>
      rw [readWord] at h
      split at h
      · next hletter =>
        subst hletter
        rw [List.map_cons, unbrokenChar_of_ne (Ne.symm whole.1), readWord, if_pos rfl]
        exact ih whole.2 h
      · cases h

/-- What the readers take off a text in a number of steps they also take off the text with spaces
for line breaks. -/
structure ReadersIndifferent (steps : ℕ) : Prop where
  /-- A value. -/
  value : ∀ room, Indifferent (readValue steps room)
  /-- An array. -/
  elements : ∀ room done, Indifferent (readElements steps room done)
  /-- An object. -/
  members : ∀ room done, Indifferent (readMembers steps room done)

namespace ReadersIndifferent

variable {steps : ℕ}

theorem value_succ (h : ReadersIndifferent steps) (room : ℕ) :
    Indifferent (readValue (steps + 1) room) := by
  intro text rest v read
  rw [readValue] at read
  rw [readValue, skipBlanks_unbroken]
  split at read
  · cases read
  · next c left hskip =>
    rw [hskip]
    split at read
    · exact readWord_indifferent .null (by decide) read
    · exact readWord_indifferent (.bool true) (by decide) read
    · exact readWord_indifferent (.bool false) (by decide) read
    · exact readNumber_indifferent true read
    · split at read
      · cases read
      · next hstring =>
        obtain ⟨rfl, rfl⟩ := Prod.mk.inj (Except.ok.inj read)
        rw [List.map_cons, unbrokenChar_of_ne (by decide)]
        simp only
        rw [readString_indifferent steps hstring]
    · rw [List.map_cons, unbrokenChar_of_ne (by decide)]
      simp only [skipBlanks_unbroken]
      split at read
      · cases read
      · split at read
        · cases read
        · next hclose =>
          obtain ⟨rfl, rfl⟩ := Prod.mk.inj (Except.ok.inj read)
          rw [hclose]
          rfl
        · next hnil hclose =>
          split
          · next heq => exact absurd (List.map_eq_nil_iff.1 heq) hnil
          · next heq => exact absurd heq (not_head_unbroken (by decide) hclose)
          · exact h.elements _ _ read
    · rw [List.map_cons, unbrokenChar_of_ne (by decide)]
      simp only [skipBlanks_unbroken]
      split at read
      · cases read
      · split at read
        · cases read
        · next hclose =>
          obtain ⟨rfl, rfl⟩ := Prod.mk.inj (Except.ok.inj read)
          rw [hclose]
          rfl
        · next hquote =>
          rw [hquote]
          exact h.members _ _ read
        · cases read
    · split at read
      · next hdigit =>
        have hread := readNumber_indifferent false read
        rw [List.map_cons, digit_unbrokenChar hdigit] at hread ⊢
        simp only
        rw [if_pos hdigit, hread]
      · cases read

theorem elements_succ (h : ReadersIndifferent steps) (room : ℕ) (done : List Json) :
    Indifferent (readElements (steps + 1) room done) := by
  intro text rest v read
  rw [readElements] at read
  split at read
  · cases read
  · next value left hvalue =>
    rw [readElements, h.value room hvalue]
    simp only [skipBlanks_unbroken]
    split at read
    · cases read
    · next hskip =>
      obtain ⟨rfl, rfl⟩ := Prod.mk.inj (Except.ok.inj read)
      rw [hskip]
      rfl
    · next more hskip =>
      rw [hskip, List.map_cons, unbrokenChar_of_ne (by decide)]
      simp only [skipBlanks_unbroken]
      split at read
      · cases read
      · cases read
      · next hnil hclose =>
        split
        · next heq => exact absurd (List.map_eq_nil_iff.1 heq) hnil
        · next heq => exact absurd heq (not_head_unbroken (by decide) hclose)
        · exact h.elements _ _ read
    · cases read

theorem members_succ (h : ReadersIndifferent steps) (room : ℕ) (done : List (String × Json)) :
    Indifferent (readMembers (steps + 1) room done) := by
  intro text rest v read
  rw [readMembers] at read
  split at read
  · cases read
  · next key left hkey =>
    rw [readMembers, readString_indifferent steps hkey]
    simp only [skipBlanks_unbroken]
    split at read
    · cases read
    · next hcolon =>
      rw [hcolon, List.map_cons, unbrokenChar_of_ne (by decide)]
      simp only
      split at read
      · cases read
      · next value left hvalue =>
        rw [h.value room hvalue]
        simp only [skipBlanks_unbroken]
        split at read
        · cases read
        · next hskip =>
          obtain ⟨rfl, rfl⟩ := Prod.mk.inj (Except.ok.inj read)
          rw [hskip]
          rfl
        · next more hskip =>
          rw [hskip, List.map_cons, unbrokenChar_of_ne (by decide)]
          simp only [skipBlanks_unbroken]
          split at read
          · cases read
          · next hquote =>
            rw [hquote]
            exact h.members _ _ read
          · cases read
          · cases read
        · cases read
    · cases read

end ReadersIndifferent

theorem readersIndifferent (steps : ℕ) : ReadersIndifferent steps := by
  induction steps with
  | zero => exact ⟨fun _ => nofun, fun _ _ => nofun, fun _ _ => nofun⟩
  | succ steps ih => exact ⟨ih.value_succ, ih.elements_succ, ih.members_succ⟩

/-- **Line breaks in a text that is read stand between tokens**: with spaces in their places it is
read as the same. -/
theorem parse_unbroken {text : String} {v : Json} (h : parse text = .ok v) :
    parse (unbroken text) = .ok v := by
  have hread (chars : List Char) : (readText chars).mapError (·.locate chars) = .ok v ↔
      readText chars = .ok v := by
    cases readText chars <;> simp [Except.mapError]
  rw [parse, hread, readText] at h
  rw [parse, hread, readText, unbroken, String.toList_ofList, List.length_map]
  split at h
  · cases h
  · next value left hvalue =>
    rw [(readersIndifferent _).value nestingLimit hvalue]
    simp only [skipBlanks_unbroken]
    split at h
    · next hdone =>
      rw [hdone]
      exact h
    · cases h

end EventBatching.Json
