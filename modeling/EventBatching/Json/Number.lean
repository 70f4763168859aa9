import EventBatching.Json.Basic
import EventBatching.Json.Error

/-!
# Reading JSON numbers

A numeral is read into a significand of at most 64 bits and a power of ten. Digits are folded into
the significand as long as it fits; a digit of the integer part that does not fit still counts as a
power of ten, and one of the fraction is dropped together with all that follow it. The value is then
the significand, rounded to floating point, times or divided by one power of ten at a time, each
step rounded. This is not always the floating point number nearest to the numeral.

* `Json.foldDigits` folds digits up to a limit.
* `Json.Numeral.value` gives the number for a significand and a power of ten.
* `Json.readNumber` reads a numeral from the start of a text.
-/

namespace EventBatching.Json

/-- The greatest unsigned word. -/
def maxWord : Nat := 0xFFFFFFFFFFFFFFFF

/-- The greatest exponent that can be written or reached. -/
def maxExponent : Nat := 0x7FFFFFFF

/-- The value of a decimal digit. -/
def digitValue (c : Char) : Nat := c.toNat - '0'.toNat

/-- Folds digits into `value` as long as it stays within `limit`: the value, the number of digits
folded and what is left, which starts with a digit only if that digit does not fit. -/
def foldDigits (limit : Nat) : (value folded : Nat) → List Char → Nat × Nat × List Char
  | value, folded, [] => (value, folded, [])
  | value, folded, c :: rest =>
    if c.isDigit ∧ value * 10 + digitValue c ≤ limit then
      foldDigits limit (value * 10 + digitValue c) (folded + 1) rest
    else (value, folded, c :: rest)

/-- A numeral whose digits have been read: its sign, its significand and its power of ten. -/
structure Numeral where
  /-- Whether a minus sign was written. -/
  negative : Bool
  /-- The folded digits. -/
  significand : Nat
  /-- The power of ten that the last folded digit counts. -/
  exponent : Int
  deriving Repr, DecidableEq

namespace Numeral

/-- The greatest power of ten that is applied in one step. -/
def stepLimit : Nat := 308

/-- Divides by the greatest single power of ten `steps` times; a value that has become zero stays
zero. -/
def scaleDown : (steps : Nat) → Binary64 → Binary64
  | 0, x => x
  | steps + 1, x =>
    if x.isZero then x
    else scaleDown steps ((x.div? (Binary64.powerOfTen stepLimit)).getD x)

/-- The magnitude of a numeral; none when it is too large. -/
def magnitude (n : Numeral) : Option Binary64 :=
  let x := Binary64.ofNat n.significand
  let power := n.exponent.natAbs
  if 0 ≤ n.exponent then
    if power ≤ stepLimit then x.mul? (Binary64.powerOfTen power)
    else if x.isZero then some x
    else none
  else
    let steps := (power - 1) / stepLimit
    let scaled := scaleDown steps x
    if scaled.isZero then some scaled
    else scaled.div? (Binary64.powerOfTen (power - steps * stepLimit))

/-- The value of a numeral with its sign; none when it is too large. -/
def value (n : Numeral) : Option Binary64 :=
  n.magnitude.map fun x => if n.negative then x.neg else x

end Numeral

/-- Ends a floating point number: its value, or the fault that it is too large. -/
def finishFloat (n : Numeral) (rest : List Char) : Except Fault (Json × List Char) :=
  match n.value with
  | some x => .ok (.float x, rest)
  | none => .error ⟨.numberOutOfRange, rest, 0⟩

/-- Reads the digits of a written exponent. An exponent that does not fit makes a nonzero number too
large or, after a minus sign, any number zero. -/
def readExponentDigits (n : Numeral) (down : Bool) (digits : List Char) :
    Except Fault (Json × List Char) :=
  let (power, _, rest) := foldDigits maxExponent 0 0 digits
  if (rest.head?.map Char.isDigit).getD false then
    if n.significand ≠ 0 ∧ !down then .error ⟨.numberOutOfRange, rest, 1⟩
    else .ok (.float (.zero n.negative), rest.dropWhile Char.isDigit)
  else
    let exponent := if down then n.exponent - power else n.exponent + power
    let bounded := max (-(maxExponent : Int) - 1) (min maxExponent exponent)
    finishFloat { n with exponent := bounded } rest

/-- Reads an exponent after its letter. -/
def readExponent (n : Numeral) (text : List Char) : Except Fault (Json × List Char) :=
  let (down, digits) :=
    match text with
    | '+' :: rest => (false, rest)
    | '-' :: rest => (true, rest)
    | rest => (false, rest)
  match digits with
  | [] => .error ⟨.endInValue, [], 0⟩
  | c :: _ =>
    if c.isDigit then readExponentDigits n down digits else .error ⟨.invalidNumber, digits, 1⟩

/-- Ends the digits of a number that is no integer: an exponent may follow. -/
def readScale (n : Numeral) (text : List Char) : Except Fault (Json × List Char) :=
  match text with
  | 'e' :: rest => readExponent n rest
  | 'E' :: rest => readExponent n rest
  | rest => finishFloat n rest

/-- Reads a fraction after its point. It needs at least one digit. -/
def readFraction (n : Numeral) (text : List Char) : Except Fault (Json × List Char) :=
  match text with
  | [] => .error ⟨.endInValue, [], 1⟩
  | c :: _ =>
    if c.isDigit then
      let (significand, folded, rest) := foldDigits maxWord n.significand 0 text
      readScale { n with significand := significand, exponent := n.exponent - folded }
        (rest.dropWhile Char.isDigit)
    else .error ⟨.invalidNumber, text, 1⟩

/-- An integer that was read: a minus sign before zero, or before more than 63 bits, makes it a
floating point number. -/
def integer (negative : Bool) (significand : Nat) : Json :=
  if negative then
    if h : 0 < significand ∧ significand ≤ 0x8000000000000000 then
      .int ⟨-(significand : Int), by omega, by omega⟩
    else .float (Binary64.ofNat significand).neg
  else if h : significand < 0x10000000000000000 then .int ⟨significand, by omega, by omega⟩
  else .float (Binary64.ofNat significand)

/-- Reads what follows the integer part. `dropped` counts the digits of the integer part that did
not fit into the significand; a number with such digits is no integer. -/
def readAfterInteger (negative : Bool) (significand dropped : Nat) (text : List Char) :
    Except Fault (Json × List Char) :=
  let n : Numeral := ⟨negative, significand, dropped⟩
  match text with
  | '.' :: rest => readFraction n rest
  | 'e' :: rest => readExponent n rest
  | 'E' :: rest => readExponent n rest
  | rest => if dropped = 0 then .ok (integer negative significand, rest) else finishFloat n rest

/-- Reads a number after its minus sign, if there was one. A zero stands alone before the point. -/
def readNumber (negative : Bool) (text : List Char) : Except Fault (Json × List Char) :=
  match text with
  | [] => .error ⟨.endInValue, [], 0⟩
  | '0' :: rest =>
    if (rest.head?.map Char.isDigit).getD false then .error ⟨.invalidNumber, rest, 1⟩
    else readAfterInteger negative 0 0 rest
  | c :: _ =>
    if c.isDigit then
      let (significand, _, rest) := foldDigits maxWord 0 0 text
      let dropped := (rest.takeWhile Char.isDigit).length
      readAfterInteger negative significand dropped (rest.dropWhile Char.isDigit)
    else .error ⟨.invalidNumber, text, 1⟩

end EventBatching.Json
