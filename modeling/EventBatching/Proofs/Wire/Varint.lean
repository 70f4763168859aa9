import EventBatching.Wire.Varint
import Mathlib.Algebra.Group.Nat.Defs

/-!
# Integers that are written and read again

A reader looks at a place of a body and says where the next field starts. So what it reads is stated
through the piece of bytes that stands at that place, whatever stands before and after it.

* `Wire.StandsAt` says that a piece of bytes stands at a place; `Wire.standsAt_append` takes pieces
  apart, and `Wire.takeBytes_eq_ok_iff` says that the reader takes what stands there.
* `Wire.ofLittleEndian_littleEndian` and `Wire.littleEndian_ofLittleEndian` say that bytes and
  naturals determine each other.
* `Wire.Varint.decode_small` and `Wire.Varint.decode_word` say that an integer in its shortest form
  is read as the integer that it is.
-/

namespace EventBatching.Wire

/-! ## Pieces of bytes -/

/-- A piece of bytes stands at a place of other bytes. -/
def StandsAt (piece bytes : ByteArray) (place : Nat) : Prop :=
  place + piece.size ≤ bytes.size ∧ bytes.extract place (place + piece.size) = piece

theorem standsAt_between (before piece after : ByteArray) :
    StandsAt piece (before ++ (piece ++ after)) before.size := by
  constructor
  · simp only [ByteArray.size_append]
    omega
  · rw [← Nat.add_zero before.size, Nat.add_assoc, ByteArray.extract_append_size_add,
      Nat.zero_add, ByteArray.extract_append_eq_left rfl]

theorem standsAt_self (piece : ByteArray) : StandsAt piece piece 0 := by
  have hbetween := standsAt_between ByteArray.empty piece ByteArray.empty
  rwa [ByteArray.append_empty, ByteArray.empty_append] at hbetween

/-- Two pieces stand one after the other where both together stand. -/
theorem standsAt_append {piece piece' bytes : ByteArray} {place : Nat} :
    StandsAt (piece ++ piece') bytes place ↔
      StandsAt piece bytes place ∧ StandsAt piece' bytes (place + piece.size) := by
  unfold StandsAt
  rw [ByteArray.size_append, ← Nat.add_assoc]
  constructor
  · rintro ⟨hle, hboth⟩
    have hsplit := ByteArray.extract_eq_extract_append_extract (a := bytes) (place + piece.size)
      (Nat.le_add_right place _) (Nat.le_add_right (place + piece.size) piece'.size)
    have hsize : (bytes.extract place (place + piece.size)).size = piece.size := by
      rw [ByteArray.size_extract]
      omega
    rw [hsplit, ByteArray.append_eq_append_iff_of_size_eq_left hsize] at hboth
    exact ⟨⟨by omega, hboth.1⟩, hle, hboth.2⟩
  · rintro ⟨⟨-, hpiece⟩, hle, hpiece'⟩
    refine ⟨hle, ?_⟩
    rw [ByteArray.extract_eq_extract_append_extract (place + piece.size) (Nat.le_add_right ..)
      (Nat.le_add_right ..), hpiece, hpiece']

/-- Exactly what stands at a place is taken from it. -/
theorem takeBytes_eq_ok_iff {count start next : Nat} {body piece : ByteArray} :
    takeBytes count body start = .ok (piece, next) ↔
      StandsAt piece body start ∧ piece.size = count ∧ next = start + count := by
  unfold takeBytes StandsAt
  constructor
  · intro h
    split at h
    · next hle =>
      obtain ⟨rfl, rfl⟩ := Prod.mk.inj (Except.ok.inj h)
      have hsize : (body.extract start (start + count)).size = count := by
        rw [ByteArray.size_extract]
        omega
      rw [hsize]
      exact ⟨⟨hle, rfl⟩, rfl, rfl⟩
    · exact absurd h (by simp)
  · rintro ⟨⟨hle, hpiece⟩, rfl, rfl⟩
    rw [if_pos hle, hpiece]

theorem StandsAt.takeBytes {piece body : ByteArray} {start : Nat} (h : StandsAt piece body start) :
    takeBytes piece.size body start = .ok (piece, start + piece.size) :=
  takeBytes_eq_ok_iff.2 ⟨h, rfl, rfl⟩

/-! ## Bytes of naturals -/

@[simp] theorem length_littleEndian (count n : Nat) : (littleEndian count n).length = count := by
  induction count generalizing n with
  | zero => rfl
  | succ count ih => simp [littleEndian, ih]

theorem ofLittleEndian_littleEndian {count n : Nat} (h : n < 256 ^ count) :
    ofLittleEndian (littleEndian count n) = n := by
  induction count generalizing n with
  | zero =>
    have hzero : n = 0 := by simpa using h
    rw [hzero]
    rfl
  | succ count ih =>
    have hrest : n / 256 < 256 ^ count := by
      rw [Nat.div_lt_iff_lt_mul (by decide)]
      rwa [Nat.pow_succ] at h
    have hbyte : (UInt8.ofNat (n % 256)).toNat = n % 256 := by
      rw [UInt8.toNat_ofNat']
      omega
    rw [littleEndian, ofLittleEndian, ih hrest, hbyte]
    omega

theorem littleEndian_ofLittleEndian (bytes : List UInt8) :
    littleEndian bytes.length (ofLittleEndian bytes) = bytes := by
  induction bytes with
  | nil => rfl
  | cons b rest ih =>
    have hlow : (b.toNat + 256 * ofLittleEndian rest) % 256 = b.toNat := by
      have := b.toNat_lt
      omega
    have hhigh : (b.toNat + 256 * ofLittleEndian rest) / 256 = ofLittleEndian rest := by
      have := b.toNat_lt
      omega
    rw [List.length_cons, ofLittleEndian, littleEndian, hlow, hhigh, ih, UInt8.ofNat_toNat]

/-! ## Integers -/

namespace Varint

/-- A byte that is no marker is the integer itself. -/
theorem decode_of_byte {first : UInt8} {body : ByteArray} {start : Nat}
    (h : StandsAt [first].toByteArray body start) (small : IntKind.ofMarker? first = none)
    (widest : IntKind) : decode widest body start = .ok (first.toNat, start + 1) := by
  have htaken : takeBytes 1 body start = .ok ([first].toByteArray, start + 1) := h.takeBytes
  have hfirst : [first].toByteArray.data.getD 0 0 = first := rfl
  simp only [decode, htaken, hfirst, small]

/-- Behind a marker stand the bytes of the integer. -/
theorem decode_of_marker {marker : UInt8} {bytes : List UInt8} {kind widest : IntKind}
    {body : ByteArray} {start : Nat} (h : StandsAt (marker :: bytes).toByteArray body start)
    (marks : IntKind.ofMarker? marker = some kind) (meant : kind ≠ .reserved)
    (fits : kind.width ≤ widest.width) (length : bytes.length = kind.width) :
    decode widest body start = .ok (ofLittleEndian bytes, start + (1 + kind.width)) := by
  have happend : (marker :: bytes).toByteArray = [marker].toByteArray ++ bytes.toByteArray := by
    rw [← List.toByteArray_append, List.singleton_append]
  rw [happend, standsAt_append] at h
  obtain ⟨hmarker, hbytes⟩ := h
  have htaken : takeBytes 1 body start = .ok ([marker].toByteArray, start + 1) := hmarker.takeBytes
  have hrest := hbytes.takeBytes
  rw [List.size_toByteArray, List.size_toByteArray, length, List.length_singleton] at hrest
  have hfirst : [marker].toByteArray.data.getD 0 0 = marker := rfl
  have hwide : ¬(kind = .reserved ∨ widest.width < kind.width) := by
    rintro (hreserved | hlt)
    · exact meant hreserved
    · omega
  simp only [decode, htaken, hfirst, marks, if_neg hwide, hrest, List.toList_data_toByteArray,
    Nat.add_assoc]

/-- The number of bytes that an integer takes. -/
theorem size_encode (n : Nat) :
    (encode n).size =
      if n ≤ 250 then 1 else if n < 0x10000 then 3 else if n < 0x100000000 then 5 else 9 := by
  unfold encode
  split
  · rfl
  · split
    · simp
    · split <;> simp

/-- An integer of one byte is read whatever width is expected. -/
theorem decode_small {n : Nat} (small : n ≤ 250) {body : ByteArray} {start : Nat}
    (h : StandsAt (encode n) body start) (widest : IntKind) :
    decode widest body start = .ok (n, start + (encode n).size) := by
  have hbyte : (UInt8.ofNat n).toNat = n := by
    rw [UInt8.toNat_ofNat']
    omega
  have hmarker : IntKind.ofMarker? (UInt8.ofNat n) = none := by
    rw [IntKind.ofMarker?, if_pos]
    rw [UInt8.le_iff_toNat_le, hbyte]
    exact small
  rw [size_encode, if_pos small]
  rw [encode, if_pos small] at h
  rw [decode_of_byte h hmarker, hbyte]

/-- An integer that a word holds is read where words are expected. -/
theorem decode_word {n : Nat} (bound : n < 0x10000000000000000) {body : ByteArray} {start : Nat}
    (h : StandsAt (encode n) body start) :
    decode .u64 body start = .ok (n, start + (encode n).size) := by
  by_cases small : n ≤ 250
  · exact decode_small small h .u64
  · rw [size_encode, if_neg small]
    rw [encode, if_neg small] at h
    -- the first width that holds the integer is the one that is written
    by_cases h16 : n < 0x10000
    · have hmarker : IntKind.ofMarker? 251 = some .u16 := rfl
      rw [if_pos h16] at h ⊢
      rw [decode_of_marker h hmarker (by decide) (by decide) (length_littleEndian 2 n),
        ofLittleEndian_littleEndian (by omega)]
      rfl
    · rw [if_neg h16] at h ⊢
      by_cases h32 : n < 0x100000000
      · have hmarker : IntKind.ofMarker? 252 = some .u32 := rfl
        rw [if_pos h32] at h ⊢
        rw [decode_of_marker h hmarker (by decide) (by decide) (length_littleEndian 4 n),
          ofLittleEndian_littleEndian (by omega)]
        rfl
      · have hmarker : IntKind.ofMarker? 253 = some .u64 := rfl
        rw [if_neg h32] at h ⊢
        rw [decode_of_marker h hmarker (by decide) (by decide) (length_littleEndian 8 n),
          ofLittleEndian_littleEndian (by omega)]
        rfl

end Varint

end EventBatching.Wire
