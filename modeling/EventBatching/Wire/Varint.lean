import EventBatching.Text.Utf8

/-!
# Integers of variable length

Small integers take one byte. A larger one takes a marker byte, which tells how many bytes follow,
and then its bytes, the least significant first. The shortest form is written and any form is read.

* `Varint.encode` writes an integer below `2 ^ 64`.
* `Varint.decode` reads one at a place in a body and gives the place after it.
-/

namespace EventBatching.Wire

/-- The kinds of integers that a marker can announce. -/
inductive IntKind where
  /-- Two bytes. -/
  | u16
  /-- Four bytes. -/
  | u32
  /-- Eight bytes. -/
  | u64
  /-- Sixteen bytes. -/
  | u128
  /-- A marker without a meaning. -/
  | reserved
  deriving Repr, DecidableEq

namespace IntKind

/-- The name of a kind. -/
def name : IntKind → String
  | u16 => "U16"
  | u32 => "U32"
  | u64 => "U64"
  | u128 => "U128"
  | reserved => "Reserved"

/-- The number of bytes that follow the marker. -/
def width : IntKind → Nat
  | u16 => 2
  | u32 => 4
  | u64 => 8
  | u128 => 16
  | reserved => 0

/-- The kind that a marker byte announces; none for a byte that is the integer itself. -/
def ofMarker? (marker : UInt8) : Option IntKind :=
  if marker ≤ 250 then none
  else if marker = 251 then some u16
  else if marker = 252 then some u32
  else if marker = 253 then some u64
  else if marker = 254 then some u128
  else some reserved

end IntKind

/-- Why a body is no message. -/
inductive DecodeFault where
  /-- The body is too short by this many bytes for what is read next. -/
  | unexpectedEnd (additional : Nat)
  /-- An integer is announced as wider than what is expected. -/
  | tooWide (expected found : IntKind)
  /-- No message has this index. -/
  | unknownVariant (index variants : Nat)
  /-- A text is not UTF-8. -/
  | invalidText (fault : Utf8.Fault)
  /-- A text is announced as longer than a piece of memory. -/
  | textTooLong
  deriving Repr, DecidableEq

/-- The `count` low bytes of a natural, the least significant first. -/
def littleEndian : (count n : Nat) → List UInt8
  | 0, _ => []
  | count + 1, n => UInt8.ofNat (n % 256) :: littleEndian count (n / 256)

/-- The natural with the given bytes, the least significant first. -/
def ofLittleEndian : List UInt8 → Nat
  | [] => 0
  | b :: rest => b.toNat + 256 * ofLittleEndian rest

/-- Reads `count` bytes at a place: the bytes and the place after them. -/
def takeBytes (count : Nat) (body : ByteArray) (start : Nat) :
    Except DecodeFault (ByteArray × Nat) :=
  if start + count ≤ body.size then .ok (body.extract start (start + count), start + count)
  else .error (.unexpectedEnd (start + count - body.size))

namespace Varint

/-- An integer in its shortest form. -/
def encode (n : Nat) : ByteArray :=
  if n ≤ 250 then [UInt8.ofNat n].toByteArray
  else if n < 0x10000 then ((251 : UInt8) :: littleEndian 2 n).toByteArray
  else if n < 0x100000000 then ((252 : UInt8) :: littleEndian 4 n).toByteArray
  else ((253 : UInt8) :: littleEndian 8 n).toByteArray

/-- The kind that is named as the expected one when a marker is too wide. A 64-bit integer is
reported as a 32-bit one where the body is long enough for the widest form of it. -/
def reportedKind (widest : IntKind) (left : Nat) : IntKind :=
  if widest = .u64 ∧ IntKind.u64.width < left then .u32 else widest

/-- Reads an integer that is no wider than `widest`, and gives the place after it. -/
def decode (widest : IntKind) (body : ByteArray) (start : Nat) : Except DecodeFault (Nat × Nat) :=
  match takeBytes 1 body start with
  | .error fault => .error fault
  | .ok (marker, next) =>
    let first := marker.data.getD 0 0
    match IntKind.ofMarker? first with
    | none => .ok (first.toNat, next)
    | some kind =>
      if kind = .reserved ∨ widest.width < kind.width then
        .error (.tooWide (reportedKind widest (body.size - start)) kind)
      else
        match takeBytes kind.width body next with
        | .error fault => .error fault
        | .ok (bytes, next) => .ok (ofLittleEndian bytes.data.toList, next)

end Varint

end EventBatching.Wire
