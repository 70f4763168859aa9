/-!
# Text as bytes

Texts travel as UTF-8. Bytes that are not UTF-8 are refused with the place of the first sequence
that is no character, and with the length of the part of it that could have started one; the length
is unknown when the bytes end inside a sequence that is valid so far.

* `Utf8.decode` reads bytes as a text.
* `Utf8.lossy` reads bytes as a text in any case and replaces what is no character.
-/

namespace EventBatching.Utf8

/-- Why a sequence of bytes is no character. -/
inductive Defect where
  /-- It breaks off after `length` bytes that could have started a character. -/
  | broken (length : Nat)
  /-- The bytes end inside it. -/
  | unfinished
  deriving Repr, DecidableEq

/-- The first place where bytes are not UTF-8. -/
structure Fault where
  /-- How many bytes before it are valid. -/
  validUpTo : Nat
  /-- What is wrong there. -/
  defect : Defect
  deriving Repr, DecidableEq

/-- What is wrong, in words. -/
def Fault.message (f : Fault) : String :=
  match f.defect with
  | .broken length => s!"invalid utf-8 sequence of {length} bytes from index {f.validUpTo}"
  | .unfinished => s!"incomplete utf-8 byte sequence from index {f.validUpTo}"

/-- A range of bytes. -/
structure ByteRange where
  /-- The least byte. -/
  low : UInt8
  /-- The greatest byte. -/
  high : UInt8

/-- Whether a byte is in a range. -/
def ByteRange.has (r : ByteRange) (b : UInt8) : Bool := r.low ≤ b && b ≤ r.high

/-- The bytes that continue a character. -/
def continuation : ByteRange := ⟨0x80, 0xBF⟩

/-- The ranges of the bytes that must follow a first byte; none if it starts no character. The
second byte is limited so that no character has two forms and none is a surrogate or too large. -/
def followers? (first : UInt8) : Option (List ByteRange) :=
  if first ≤ 0x7F then some []
  else if first < 0xC2 then none
  else if first ≤ 0xDF then some [continuation]
  else if first = 0xE0 then some [⟨0xA0, 0xBF⟩, continuation]
  else if first = 0xED then some [⟨0x80, 0x9F⟩, continuation]
  else if first ≤ 0xEF then some [continuation, continuation]
  else if first = 0xF0 then some [⟨0x90, 0xBF⟩, continuation, continuation]
  else if first ≤ 0xF3 then some [continuation, continuation, continuation]
  else if first = 0xF4 then some [⟨0x80, 0x8F⟩, continuation, continuation]
  else none

/-- Checks the bytes that follow a first byte, `valid` of the sequence being fine so far. -/
def follow (valid : Nat) : List ByteRange → List UInt8 → Option Defect
  | [], _ => none
  | _ :: _, [] => some .unfinished
  | range :: ranges, b :: rest =>
    if range.has b then follow (valid + 1) ranges rest else some (.broken valid)

/-- Reads the sequence that starts with `first`: how many bytes follow it, or what is wrong. -/
def sequence (first : UInt8) (rest : List UInt8) : Except Defect Nat :=
  match followers? first with
  | none => .error (.broken 1)
  | some ranges =>
    match follow 1 ranges rest with
    | some defect => .error defect
    | none => .ok ranges.length

/-- The first fault in bytes, of which `skip` belong to a character already checked. -/
def firstFault (index skip : Nat) : List UInt8 → Option Fault
  | [] => none
  | b :: rest =>
    match skip with
    | skip + 1 => firstFault (index + 1) skip rest
    | 0 =>
      match sequence b rest with
      | .error defect => some ⟨index, defect⟩
      | .ok length => firstFault (index + 1) length rest

/-- Reads bytes as a text. -/
def decode (bytes : ByteArray) : Except Fault String :=
  match String.fromUTF8? bytes with
  | some s => .ok s
  | none => .error ((firstFault 0 0 bytes.toList).getD ⟨0, .unfinished⟩)

/-- The character in the place of what is no character. -/
def replacement : Char := '\uFFFD'

/-- The character that a first byte and the `length` bytes after it stand for. -/
def charOf (first : UInt8) (length : Nat) (rest : List UInt8) : Char :=
  let lead := if length = 0 then first.toNat else first.toNat % Nat.pow 2 (6 - length)
  Char.ofNat ((rest.take length).foldl (fun code b => code * 64 + b.toNat % 64) lead)

/-- Appends bytes to a text, of which `skip` belong to a character already appended. -/
def lossyTo (out : String) (skip : Nat) : List UInt8 → String
  | [] => out
  | b :: rest =>
    match skip with
    | skip + 1 => lossyTo out skip rest
    | 0 =>
      match sequence b rest with
      | .ok length => lossyTo (out.push (charOf b length rest)) length rest
      | .error (.broken length) => lossyTo (out.push replacement) (length - 1) rest
      | .error .unfinished => out.push replacement

/-- Reads bytes as a text; every sequence that is no character becomes one replacement character. -/
def lossy (bytes : ByteArray) : String :=
  match String.fromUTF8? bytes with
  | some s => s
  | none => lossyTo "" 0 bytes.toList

end EventBatching.Utf8
