import EventBatching.Journal

/-!
# JSON text as characters

A writer appends to the text that it is given, which is fast but hides what the text of a value is:
the characters of its parts, one after another. Here they are spelled out, and the writer is shown
to append just them.

* `Json.chars` are the characters of a value; `Json.toList_push` says that they are what the writer
  appends, and `Json.toList_print` that they are the text.
* `Json.newline_notMem_chars` says that there is no line break among them: in a string it is
  escaped, and nowhere else is there any.
-/

namespace EventBatching.Json

/-! ## The characters of a value -/

/-- The characters of a string with its quotes. -/
def quotedChars (s : String) : List Char := '"' :: (s.toList.flatMap escape ++ ['"'])

/-- The characters of an integer. -/
def intChars (n : Int) : List Char :=
  if n < 0 then '-' :: Nat.toDigits 10 n.natAbs else Nat.toDigits 10 n.natAbs

mutual

/-- The characters of the text of a value. -/
def chars : Json → List Char
  | .null => ['n', 'u', 'l', 'l']
  | .bool true => ['t', 'r', 'u', 'e']
  | .bool false => ['f', 'a', 'l', 's', 'e']
  | .int n => intChars n.val
  | .float x => x.text
  | .string s => quotedChars s
  | .array elements => '[' :: (elementsChars true elements ++ [']'])
  | .object members => '{' :: (membersChars true members ++ ['}'])

/-- The characters of elements with commas between them. -/
def elementsChars (first : Bool) : List Json → List Char
  | [] => []
  | v :: rest => (if first then [] else [',']) ++ v.chars ++ elementsChars false rest

/-- The characters of members with commas between them. -/
def membersChars (first : Bool) : List (String × Json) → List Char
  | [] => []
  | (key, v) :: rest =>
    (if first then [] else [',']) ++ quotedChars key ++ ':' :: v.chars ++ membersChars false rest

end

/-! ## The writer appends them -/

theorem toList_pushChars (out : String) (cs : List Char) :
    (pushChars out cs).toList = out.toList ++ cs := by
  induction cs generalizing out with
  | nil => exact (List.append_nil _).symm
  | cons c rest ih =>
    have hrest := ih (out.push c)
    rw [String.toList_push, List.append_assoc] at hrest
    exact hrest

theorem toList_foldl_escape (out : String) (cs : List Char) :
    (cs.foldl (fun out c => pushChars out (escape c)) out).toList =
      out.toList ++ cs.flatMap escape := by
  induction cs generalizing out with
  | nil => exact (List.append_nil _).symm
  | cons c rest ih =>
    rw [List.foldl_cons, ih, toList_pushChars, List.flatMap_cons, List.append_assoc]

theorem toList_pushQuoted (out : String) (s : String) :
    (pushQuoted out s).toList = out.toList ++ quotedChars s := by
  rw [pushQuoted, String.toList_push, toList_foldl_escape, String.toList_push, quotedChars]
  simp

theorem toList_quote (s : String) : (quote s).toList = quotedChars s := toList_pushQuoted "" s

theorem toList_toString_int (n : Int) : (toString n).toList = intChars n := by
  have hrepr : toString n = n.repr := rfl
  rw [hrepr, Int.repr_eq_if, intChars]
  by_cases hneg : n < 0
  · have hnat : (-n).toNat = n.natAbs := by omega
    rw [if_neg (by omega), if_pos hneg, hnat, Nat.repr_eq_ofList_toDigits, String.toList_append,
      String.toList_ofList, String.toList_ofList]
    rfl
  · have hnat : n.toNat = n.natAbs := by omega
    rw [if_pos (by omega), if_neg hneg, hnat, Nat.repr_eq_ofList_toDigits, String.toList_ofList]

mutual

/-- The writer appends the characters of a value. -/
theorem toList_push (out : String) : (v : Json) → (push out v).toList = out.toList ++ v.chars
  | .null => by simp [push, chars]
  | .bool true => by simp [push, chars]
  | .bool false => by simp [push, chars]
  | .int n => by rw [push, chars, String.toList_append, toList_toString_int]
  | .float x => by rw [push, chars, toList_pushChars]
  | .string s => by rw [push, chars, toList_pushQuoted]
  | .array elements => by
    rw [push, chars, String.toList_push, toList_pushElements _ _ elements, String.toList_push]
    simp
  | .object members => by
    rw [push, chars, String.toList_push, toList_pushMembers _ _ members, String.toList_push]
    simp

theorem toList_pushElements (out : String) (first : Bool) :
    (elements : List Json) →
      (pushElements out first elements).toList = out.toList ++ elementsChars first elements
  | [] => (List.append_nil _).symm
  | v :: rest => by
    rw [pushElements, elementsChars, toList_pushElements _ _ rest, toList_push _ v]
    cases first <;> simp

theorem toList_pushMembers (out : String) (first : Bool) :
    (members : List (String × Json)) →
      (pushMembers out first members).toList = out.toList ++ membersChars first members
  | [] => (List.append_nil _).symm
  | (key, v) :: rest => by
    simp only [pushMembers, membersChars]
    rw [toList_pushMembers _ _ rest, toList_push _ v, String.toList_push, toList_pushQuoted]
    cases first <;> simp

end

theorem toList_print (v : Json) : (print v).toList = v.chars := toList_push "" v

theorem toList_printList (elements : List Json) :
    (printList elements).toList = '[' :: (elementsChars true elements ++ [']']) := by
  rw [printList, toList_print, chars]

/-! ## Escapes -/

theorem hexDigit?_hexDigit {n : Nat} (h : n < 16) : hexDigit? (hexDigit n) = some n := by
  revert n
  decide

theorem hexDigit_ne_newline {n : Nat} (h : n < 16) : hexDigit n ≠ '\n' := by
  revert n
  decide

/-- An escape by number is read back. -/
theorem readEscape_numbered {c : Char} (control : c.toNat < 0x20) (rest : List Char) :
    readEscape (['u', '0', '0', hexDigit (c.toNat / 16), hexDigit (c.toNat % 16)] ++ rest) =
      .ok (c, rest) := by
  have hhigh := hexDigit?_hexDigit (n := c.toNat / 16) (by omega)
  have hlow := hexDigit?_hexDigit (n := c.toNat % 16) (by omega)
  have hzero : hexDigit? '0' = some 0 := by decide
  have hunit : hexUnit? ('0' :: '0' :: hexDigit (c.toNat / 16) :: hexDigit (c.toNat % 16) :: rest) =
      some (c.toNat, rest) := by
    have hvalue : ((0 * 16 + 0) * 16 + c.toNat / 16) * 16 + c.toNat % 16 = c.toNat := by omega
    simp only [hexUnit?, hzero, hhigh, hlow]
    exact congrArg (fun n => some (n, rest)) hvalue
  have htrailing : isTrailing c.toNat = false := by
    simp only [isTrailing, Bool.and_eq_false_iff, decide_eq_false_iff_not]
    omega
  have hleading : isLeading c.toNat = false := by
    simp only [isLeading, Bool.and_eq_false_iff, decide_eq_false_iff_not]
    omega
  show readNumbered ('0' :: '0' :: hexDigit (c.toNat / 16) :: hexDigit (c.toNat % 16) :: rest) = _
  simp only [readNumbered, readUnit, hunit, htrailing, hleading, Bool.false_eq_true, if_false,
    Char.ofNat_toNat]

/-- A character stands for itself, or it is escaped in a way that is read back. -/
theorem escape_cases (c : Char) :
    (escape c = [c] ∧ c ≠ '"' ∧ c ≠ '\\' ∧ 0x20 ≤ c.toNat) ∨
      ∃ tail, escape c = '\\' :: tail ∧ '\n' ∉ tail ∧
        ∀ rest, readEscape (tail ++ rest) = .ok (c, rest) := by
  have hself : ∀ {letter : Char} {d : Char}, letter ≠ '\n' →
      (∀ rest, readEscape (letter :: rest) = .ok (d, rest)) →
      ∃ tail, ['\\', letter] = '\\' :: tail ∧ '\n' ∉ tail ∧
        ∀ rest, readEscape (tail ++ rest) = .ok (d, rest) := by
    intro letter d hletter hread
    exact ⟨[letter], rfl, by simpa using Ne.symm hletter, hread⟩
  unfold escape
  by_cases hquote : c = '"'
  · subst hquote
    exact .inr (hself (by decide) fun rest => rfl)
  rw [if_neg hquote]
  by_cases hbackslash : c = '\\'
  · subst hbackslash
    exact .inr (hself (by decide) fun rest => rfl)
  rw [if_neg hbackslash]
  by_cases hb : c = '\x08'
  · subst hb
    exact .inr (hself (by decide) fun rest => rfl)
  rw [if_neg hb]
  by_cases ht : c = '\t'
  · subst ht
    exact .inr (hself (by decide) fun rest => rfl)
  rw [if_neg ht]
  by_cases hn : c = '\n'
  · subst hn
    exact .inr (hself (by decide) fun rest => rfl)
  rw [if_neg hn]
  by_cases hf : c = '\x0c'
  · subst hf
    exact .inr (hself (by decide) fun rest => rfl)
  rw [if_neg hf]
  by_cases hr : c = '\r'
  · subst hr
    exact .inr (hself (by decide) fun rest => rfl)
  rw [if_neg hr]
  by_cases hcontrol : c.toNat < 0x20
  · have hhigh := hexDigit_ne_newline (n := c.toNat / 16) (by omega)
    have hlow := hexDigit_ne_newline (n := c.toNat % 16) (by omega)
    rw [if_pos hcontrol]
    refine .inr ⟨_, rfl, ?_, readEscape_numbered hcontrol⟩
    simp [Ne.symm hhigh, Ne.symm hlow]
  · rw [if_neg hcontrol]
    exact .inl ⟨rfl, hquote, hbackslash, Nat.not_lt.1 hcontrol⟩

/-! ## No line break -/

theorem newline_notMem_escape (c : Char) : '\n' ∉ escape c := by
  rcases escape_cases c with ⟨hself, -, -, hprinted⟩ | ⟨tail, htail, hnone, -⟩
  · rw [hself, List.mem_singleton]
    rintro rfl
    exact absurd hprinted (by decide)
  · rw [htail, List.mem_cons]
    rintro (h | h)
    · exact absurd h (by decide)
    · exact hnone h

theorem newline_notMem_quotedChars (s : String) : '\n' ∉ quotedChars s := by
  simp only [quotedChars, List.mem_cons, List.mem_append, List.mem_flatMap, not_or, not_exists,
    not_and, List.not_mem_nil, not_false_eq_true, and_true]
  exact ⟨by decide, fun c _ => newline_notMem_escape c, by decide⟩

/-- The characters of numerals. -/
def isNumeral (c : Char) : Bool := c.isDigit || c == '-' || c == '+' || c == '.' || c == 'e'

theorem isNumeral_of_mem_toDigits {n : Nat} {c : Char} (h : c ∈ Nat.toDigits 10 n) :
    isNumeral c = true := by
  have hdigit := Nat.isDigit_of_mem_toDigits (by decide) (by decide) h
  simp [isNumeral, hdigit]

theorem isNumeral_of_mem_significantDigits {d : Decimal} {c : Char}
    (h : c ∈ Binary64.significantDigits d) : isNumeral c = true := by
  rw [Binary64.significantDigits, List.mem_reverse] at h
  have hdigits := (List.dropWhile_sublist _).subset h
  exact isNumeral_of_mem_toDigits (List.mem_reverse.1 hdigits)

theorem isNumeral_of_mem_plain {leading : Int} {digits : List Char}
    (numeral : ∀ c ∈ digits, isNumeral c = true) {c : Char}
    (h : c ∈ Binary64.plain leading digits) : isNumeral c = true := by
  have hzero : isNumeral '0' = true := by decide
  have hpoint : isNumeral '.' = true := by decide
  rw [Binary64.plain] at h
  split at h
  · simp only [List.mem_cons, List.mem_append, List.mem_replicate] at h
    rcases h with rfl | rfl | ⟨-, rfl⟩ | h
    · exact hzero
    · exact hpoint
    · exact hzero
    · exact numeral c h
  · simp only [List.mem_append, List.mem_cons, List.mem_replicate] at h
    rcases h with (h | ⟨-, rfl⟩) | rfl | h
    · exact numeral c (List.mem_of_mem_take h)
    · exact hzero
    · exact hpoint
    · split at h
      · rw [List.mem_singleton.1 h]
        exact hzero
      · exact numeral c (List.mem_of_mem_drop h)

theorem isNumeral_of_mem_scientific {leading : Int} {digits : List Char}
    (numeral : ∀ c ∈ digits, isNumeral c = true) {c : Char}
    (h : c ∈ Binary64.scientific leading digits) : isNumeral c = true := by
  simp only [Binary64.scientific, List.mem_append, List.mem_cons] at h
  rcases h with (h | h) | rfl | rfl | h
  · exact numeral c (List.mem_of_mem_take h)
  · split at h
    · exact absurd h List.not_mem_nil
    · rcases List.mem_cons.1 h with rfl | h
      · decide
      · exact numeral c (List.mem_of_mem_drop h)
  · decide
  · split
    · decide
    · decide
  · exact isNumeral_of_mem_toDigits h

theorem isNumeral_of_mem_text {x : Binary64} {c : Char} (h : c ∈ x.text) : isNumeral c = true := by
  have hmagnitude : ∀ c ∈ x.magnitudeText, isNumeral c = true := by
    intro c hc
    unfold Binary64.magnitudeText at hc
    split at hc
    · simp only [List.mem_cons, List.not_mem_nil, or_false] at hc
      rcases hc with rfl | rfl | rfl
      · decide
      · decide
      · decide
    · simp only at hc
      split at hc
      · exact isNumeral_of_mem_plain (fun _ => isNumeral_of_mem_significantDigits) hc
      · exact isNumeral_of_mem_scientific (fun _ => isNumeral_of_mem_significantDigits) hc
  rw [Binary64.text] at h
  split at h
  · rcases List.mem_cons.1 h with rfl | h
    · decide
    · exact hmagnitude c h
  · exact hmagnitude c h

theorem isNumeral_of_mem_intChars {n : Int} {c : Char} (h : c ∈ intChars n) :
    isNumeral c = true := by
  rw [intChars] at h
  split at h
  · rcases List.mem_cons.1 h with rfl | h
    · decide
    · exact isNumeral_of_mem_toDigits h
  · exact isNumeral_of_mem_toDigits h

theorem newline_notMem_of_numeral {cs : List Char} (h : ∀ c ∈ cs, isNumeral c = true) :
    '\n' ∉ cs := fun hmem => absurd (h _ hmem) (by decide)

mutual

theorem newline_notMem_chars : (v : Json) → '\n' ∉ v.chars
  | .null => by decide
  | .bool true => by decide
  | .bool false => by decide
  | .int n => newline_notMem_of_numeral fun _ => isNumeral_of_mem_intChars
  | .float x => newline_notMem_of_numeral fun _ => isNumeral_of_mem_text
  | .string s => newline_notMem_quotedChars s
  | .array elements => by
    have helements := newline_notMem_elementsChars true elements
    simp [chars, helements]
  | .object members => by
    have hmembers := newline_notMem_membersChars true members
    simp [chars, hmembers]

theorem newline_notMem_elementsChars (first : Bool) :
    (elements : List Json) → '\n' ∉ elementsChars first elements
  | [] => List.not_mem_nil
  | v :: rest => by
    have hv := newline_notMem_chars v
    have hrest := newline_notMem_elementsChars false rest
    cases first <;> simp [elementsChars, hv, hrest]

theorem newline_notMem_membersChars (first : Bool) :
    (members : List (String × Json)) → '\n' ∉ membersChars first members
  | [] => List.not_mem_nil
  | (key, v) :: rest => by
    have hkey := newline_notMem_quotedChars key
    have hv := newline_notMem_chars v
    have hrest := newline_notMem_membersChars false rest
    cases first <;> simp [membersChars, hkey, hv, hrest]

end

end EventBatching.Json
