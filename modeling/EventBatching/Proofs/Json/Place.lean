import EventBatching.Json.Parser
import Mathlib.Algebra.Group.Nat.Defs

/-!
# Places in JSON text

A place is a line and a column, and neither can be larger than the text allows: each line feed takes
a byte, and so does each step to the right. So what is said of a fault is short, however long the
text is that it was found in.

* `Json.position_le` bounds the line and the column together.
* `Json.utf8ByteSize_message_le` bounds what is said of a fault in a text that is not huge.
-/

namespace EventBatching.Json

/-! ## Lines and columns -/

@[simp] theorem utf8Size_cons (c : Char) (cs : List Char) :
    utf8Size (c :: cs) = c.utf8Size + utf8Size cs := rfl

theorem utf8ByteSize_ofList (cs : List Char) : (String.ofList cs).utf8ByteSize = utf8Size cs := by
  induction cs with
  | nil => rfl
  | cons c rest ih =>
    rw [String.ofList_cons, String.utf8ByteSize_append, String.utf8ByteSize_singleton, ih,
      utf8Size_cons]

@[simp] theorem utf8Size_toList (s : String) : utf8Size s.toList = s.utf8ByteSize := by
  rw [← utf8ByteSize_ofList, String.ofList_toList]

/-- A line and a column grow together by no more than the text is long. -/
theorem position_le (cs : List Char) (count line column : Nat) :
    (position cs count line column).1 + (position cs count line column).2 ≤
      line + column + utf8Size cs := by
  induction cs generalizing count line column with
  | nil => simp [position]
  | cons c rest ih =>
    unfold position
    rw [utf8Size_cons]
    split
    · simp only
      omega
    · split
      · next hfeed =>
        have hone : c.utf8Size = 1 := by rw [hfeed]; rfl
        have hrest := ih (count - 1) (line + 1) 0
        omega
      · split
        · simp only
          omega
        · have hrest := ih (count - c.utf8Size) line (column + c.utf8Size)
          omega

/-- The place of a fault lies in the text. -/
theorem place_le_of_parse {text : String} {e : ParseError} (h : parse text = .error e) :
    e.line + e.column ≤ 1 + text.utf8ByteSize := by
  unfold parse at h
  simp only at h
  cases hread : readText text.toList with
  | ok value =>
    rw [hread] at h
    have hparsed : Except.ok value = (Except.error e : Except ParseError Json) := h
    exact absurd hparsed (by simp)
  | error fault =>
    rw [hread] at h
    obtain rfl : fault.locate text.toList = e := Except.error.inj h
    have hplace := position_le text.toList
      (min (utf8Size text.toList)
        (utf8Size text.toList - utf8Size fault.rest + fault.ahead)) 1 0
    rw [utf8Size_toList] at hplace
    simpa [Fault.locate] using hplace

/-! ## Faults in words -/

/-- Digits take a byte each. -/
theorem utf8Size_of_digits {cs : List Char} (digits : ∀ c ∈ cs, c.isDigit = true) :
    utf8Size cs = cs.length := by
  induction cs with
  | nil => rfl
  | cons c rest ih =>
    have hdigit := digits c (List.mem_cons_self ..)
    have hone : c.utf8Size = 1 := by
      rw [Char.utf8Size_eq_one_iff]
      simp only [Char.isDigit, Bool.and_eq_true, decide_eq_true_iff] at hdigit
      exact Nat.le_trans hdigit.2 (by decide)
    have hrest := ih fun c hc => digits c (List.mem_cons_of_mem _ hc)
    rw [utf8Size_cons, hone, hrest, List.length_cons, Nat.add_comm]

theorem utf8ByteSize_repr_le {n width : Nat} (positive : 0 < width) (small : n < 10 ^ width) :
    n.repr.utf8ByteSize ≤ width := by
  have hdigits : ∀ c ∈ Nat.toDigits 10 n, c.isDigit = true := by
    intro c hc
    exact Nat.isDigit_of_mem_toDigits (by decide) (by decide) hc
  rw [Nat.repr_eq_ofList_toDigits, utf8ByteSize_ofList, utf8Size_of_digits hdigits]
  exact (Nat.length_toDigits_le_iff (by decide) positive).2 small

theorem Cause.utf8ByteSize_message_le (c : Cause) : c.message.utf8ByteSize ≤ 62 := by
  cases c <;> decide

theorem utf8ByteSize_message (e : ParseError) :
    e.message.utf8ByteSize =
      e.cause.message.utf8ByteSize + 9 + e.line.repr.utf8ByteSize + 8 +
        e.column.repr.utf8ByteSize := by
  show (e.cause.message ++ " at line " ++ e.line.repr ++ " column " ++ e.column.repr).utf8ByteSize = _
  simp only [String.utf8ByteSize_append]
  rfl

/-- What is said of a fault in a text of less than `10 ^ 8` bytes. -/
theorem utf8ByteSize_message_le {text : String} {e : ParseError} (h : parse text = .error e)
    (short : text.utf8ByteSize + 1 < 10 ^ 8) : e.message.utf8ByteSize ≤ 95 := by
  have hplace := place_le_of_parse h
  have hcause := e.cause.utf8ByteSize_message_le
  have hline : e.line.repr.utf8ByteSize ≤ 8 := utf8ByteSize_repr_le (by decide) (by omega)
  have hcolumn : e.column.repr.utf8ByteSize ≤ 8 := utf8ByteSize_repr_le (by decide) (by omega)
  rw [utf8ByteSize_message]
  omega

end EventBatching.Json
