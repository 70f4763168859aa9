import EventBatching.Settings

/-!
# Words in decimal

The text of a number that a 64-bit word can hold: digits, after a plus sign if there is one.

* `Word.parse` reads a text from its first character on, and stops at the first fault.
-/

namespace EventBatching.Word

/-- Why a text is no word. -/
inductive Fault where
  /-- There is nothing. -/
  | empty
  /-- A character is no digit. -/
  | invalidDigit
  /-- No word can hold the number. -/
  | tooLarge
  deriving Repr, DecidableEq

/-- Why a text is no word, in words. -/
def Fault.message : Fault → String
  | .empty => "cannot parse integer from empty string"
  | .invalidDigit => "invalid digit found in string"
  | .tooLarge => "number too large to fit in target type"

/-- The value of a digit. -/
def digit? (c : Char) : Option Nat := if c.isDigit then some (c.toNat - '0'.toNat) else none

/-- Reads digits behind a number. -/
def parseFrom (n : Nat) : List Char → Except Fault Nat
  | [] => .ok n
  | c :: rest =>
    match digit? c with
    | none => .error .invalidDigit
    | some d => if n * 10 + d < wordEnd then parseFrom (n * 10 + d) rest else .error .tooLarge

/-- Reads the characters of a text. -/
def parseChars : List Char → Except Fault Nat
  | [] => .error .empty
  | ['+'] => .error .invalidDigit
  | '+' :: digits => parseFrom 0 digits
  | digits => parseFrom 0 digits

/-- Reads a text. -/
def parse (s : String) : Except Fault Nat := parseChars s.toList

end EventBatching.Word
