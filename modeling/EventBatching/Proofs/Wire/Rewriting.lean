import EventBatching.Proofs.Wire.Stream

/-!
# Messages that are written again

A reader takes an integer in any of its forms and does not look at what stands in a body behind the
message, so one message has many frames. A writer gives every message one of them, and it is the
shortest: whatever was read can be written, takes no more bytes than it took, and is read again as
what it was. So two frames carry the same message exactly if what is written of them is the same.

* `Wire.Varint.decode_cases` says which bytes are read as an integer, and
  `Wire.Varint.size_encode_le` that its shortest form has no more bytes.
* `Wire.Thrifty` is the class of the messages that are never longer when they are written than where
  they were read, requests and responses.
* `Wire.readMessage?_eq_some` says where a message stands that was read.
* `Wire.readable_normalizes` says what becomes of a message that was read when it is written.
-/

namespace EventBatching

/-! ## Bytes that are read -/

namespace Source

/-- No more can be read than there is. -/
theorem reach_le (s : Source) : s.reach.1 ≤ s.bytes.size := by
  unfold reach
  split
  · split
    · next hle => exact hle
    · exact Nat.le_refl _
  · exact Nat.le_refl _

/-- What was read stands at the place of the stream. -/
theorem readExact_eq_ok {s s' : Source} {count : Nat} {piece : ByteArray}
    (h : s.readExact count = (.ok piece, s')) :
    Wire.StandsAt piece s.bytes s.position ∧ piece.size = count ∧
      s' = { s with position := s.position + count } := by
  have hreach := s.reach_le
  simp only [readExact] at h
  split at h
  · next hle =>
    simp only [Prod.mk.injEq, Except.ok.injEq] at h
    obtain ⟨rfl, rfl⟩ := h
    have hsize : (s.bytes.extract s.position (s.position + count)).size = count := by
      rw [ByteArray.size_extract]
      omega
    refine ⟨⟨?_, ?_⟩, hsize, rfl⟩
    · rw [hsize]
      omega
    · rw [hsize]
  · simp at h

end Source

namespace Wire

/-! ## Integers -/

theorem ofLittleEndian_lt (bytes : List UInt8) : ofLittleEndian bytes < 256 ^ bytes.length := by
  induction bytes with
  | nil => exact Nat.one_pos
  | cons b rest ih =>
    have := b.toNat_lt
    rw [ofLittleEndian, List.length_cons, Nat.pow_succ]
    omega

/-- A byte that announces nothing is small. -/
theorem IntKind.le_of_ofMarker?_eq_none {marker : UInt8} (h : ofMarker? marker = none) :
    marker.toNat ≤ 250 := by
  unfold ofMarker? at h
  split at h
  · next hsmall => exact UInt8.le_iff_toNat_le.1 hsmall
  · exfalso
    -- every other byte announces something
    revert h
    split
    · simp
    · split
      · simp
      · split
        · simp
        · split <;> simp

namespace Varint

/-- The forms of an integer that is read: a byte, or a marker and as many bytes as it announces. -/
theorem decode_cases {widest : IntKind} {body : ByteArray} {start n next : Nat}
    (h : decode widest body start = .ok (n, next)) :
    next ≤ body.size ∧
      ((n ≤ 250 ∧ next = start + 1) ∨
        ∃ kind : IntKind, kind ≠ .reserved ∧ kind.width ≤ widest.width ∧ n < 256 ^ kind.width ∧
          next = start + (1 + kind.width)) := by
  simp only [decode] at h
  split at h
  · exact absurd h (by simp)
  · next marker place hmarker =>
    obtain ⟨⟨hthere, -⟩, hone, rfl⟩ := takeBytes_eq_ok_iff.1 hmarker
    split at h
    · next hbyte =>
      obtain ⟨rfl, rfl⟩ := Prod.mk.inj (Except.ok.inj h)
      have hsmall := IntKind.le_of_ofMarker?_eq_none hbyte
      exact ⟨by omega, .inl ⟨hsmall, rfl⟩⟩
    · next kind _ =>
      split at h
      · exact absurd h (by simp)
      · next hwide =>
        obtain ⟨hmeant, hfits⟩ := not_or.1 hwide
        split at h
        · exact absurd h (by simp)
        · next bytes place' hbytes =>
          obtain ⟨⟨hrest, -⟩, hsize, rfl⟩ := takeBytes_eq_ok_iff.1 hbytes
          obtain ⟨rfl, rfl⟩ := Prod.mk.inj (Except.ok.inj h)
          refine ⟨by omega, .inr ⟨kind, hmeant, Nat.not_lt.1 hfits, ?_, by omega⟩⟩
          have hlength : bytes.data.toList.length = kind.width := by
            rw [Array.length_toList]
            exact hsize
          rw [← hlength]
          exact ofLittleEndian_lt _

/-- The shortest form of an integer fits behind any marker for it. -/
theorem size_encode_le_width {kind : IntKind} (meant : kind ≠ .reserved) {n : Nat}
    (bound : n < 256 ^ kind.width) : (encode n).size ≤ 1 + kind.width := by
  have hthree : n < 0x10000 → (encode n).size ≤ 3 := by
    intro h
    rw [size_encode, if_pos h]
    split <;> omega
  have hfive : n < 0x100000000 → (encode n).size ≤ 5 := by
    intro h
    rw [size_encode, if_pos h]
    split
    · omega
    · split <;> omega
  have hnine : (encode n).size ≤ 9 := by
    rw [size_encode]
    split
    · omega
    · split
      · omega
      · split <;> omega
  cases kind with
  | u16 => exact hthree bound
  | u32 => exact hfive bound
  | u64 => exact hnine
  | u128 => exact Nat.le_trans hnine (by decide)
  | reserved => exact absurd rfl meant

/-- Every form of an integer is at least as long as the one that is written. -/
theorem size_encode_le {widest : IntKind} {body : ByteArray} {start n next : Nat}
    (h : decode widest body start = .ok (n, next)) : start + (encode n).size ≤ next := by
  obtain ⟨-, ⟨hsmall, rfl⟩ | ⟨kind, hmeant, -, hbound, rfl⟩⟩ := decode_cases h
  · have hsize : (encode n).size = 1 := by rw [size_encode, if_pos hsmall]
    exact Nat.le_of_eq (congrArg (start + ·) hsize)
  · exact Nat.add_le_add_left (size_encode_le_width hmeant hbound) start

/-- What is read where words are expected is a word. -/
theorem lt_of_decode_word {body : ByteArray} {start n next : Nat}
    (h : decode .u64 body start = .ok (n, next)) : n < 2 ^ 64 := by
  obtain ⟨-, ⟨hsmall, -⟩ | ⟨kind, -, hfits, hbound, -⟩⟩ := decode_cases h
  · omega
  · have hpow : 256 ^ kind.width ≤ 256 ^ 8 := Nat.pow_le_pow_right (by decide) hfits
    omega

end Varint

/-! ## Fields of messages -/

theorem decodeVariant_eq_ok {variants index next : Nat} {body : ByteArray}
    (h : decodeVariant variants body = .ok (index, next)) :
    index < variants ∧ (Varint.encode index).size ≤ next ∧ next ≤ body.size := by
  unfold decodeVariant at h
  split at h
  · exact absurd h (by simp)
  · next hread =>
    split at h
    · next hknown =>
      obtain ⟨rfl, rfl⟩ := Prod.mk.inj (Except.ok.inj h)
      have hsize := Varint.size_encode_le hread
      obtain ⟨hnext, -⟩ := Varint.decode_cases hread
      exact ⟨hknown, by omega, hnext⟩
    · exact absurd h (by simp)

/-- A text takes at least as many bytes where it is read as where it is written. -/
theorem size_encodeText_le {body : ByteArray} {start next : Nat} {s : String}
    (h : decodeText body start = .ok (s, next)) :
    start + (encodeText s).size ≤ next ∧ next ≤ body.size := by
  have hbytes := (le_of_decodeText h).2
  unfold decodeText at h
  split at h
  · exact absurd h (by simp)
  · next length place hlength =>
    have hprefix := Varint.size_encode_le hlength
    split at h
    · exact absurd h (by simp)
    · split at h
      · exact absurd h (by simp)
      · next bytes place' htaken =>
        obtain ⟨-, hsize, hnext⟩ := takeBytes_eq_ok_iff.1 htaken
        split at h
        · next hdecoded =>
          obtain ⟨rfl, rfl⟩ := Prod.mk.inj (Except.ok.inj h)
          refine ⟨?_, hbytes⟩
          rw [size_encodeText, size_of_decode hdecoded, hsize]
          omega
        · exact absurd h (by simp)

theorem size_encodeWord_le_of_decode {body : ByteArray} {start next : Nat} {n : UInt64}
    (h : decodeWord body start = .ok (n, next)) :
    start + (encodeWord n).size ≤ next ∧ next ≤ body.size := by
  unfold decodeWord at h
  split at h
  · exact absurd h (by simp)
  · next value place hread =>
    obtain ⟨rfl, rfl⟩ := Prod.mk.inj (Except.ok.inj h)
    have hsize := Varint.size_encode_le hread
    obtain ⟨hnext, -⟩ := Varint.decode_cases hread
    rw [encodeWord, UInt64.toNat_ofNat_of_lt' (Varint.lt_of_decode_word hread)]
    exact ⟨hsize, hnext⟩

/-- Two readers one after the other succeed if both do. -/
theorem bind_eq_ok {ε β γ : Type} {x : Except ε β} {f : β → Except ε γ} {c : γ} :
    x >>= f = .ok c ↔ ∃ b, x = .ok b ∧ f b = .ok c := by
  cases x with
  | error fault => simp [bind, Except.bind]
  | ok b => simp [bind, Except.bind]

theorem size_encodeSubmission_le {body : ByteArray} {start : Nat} {s : Submission}
    (h : decodeSubmission body start = .ok s) :
    start + (encodeSubmission s).size ≤ body.size := by
  unfold decodeSubmission at h
  obtain ⟨⟨category, next⟩, hcategory, h⟩ := bind_eq_ok.1 h
  obtain ⟨⟨payload, next'⟩, hpayload, h⟩ := bind_eq_ok.1 h
  obtain rfl := Except.ok.inj h
  have := size_encodeText_le hcategory
  have := size_encodeText_le hpayload
  simp only [encodeSubmission, ByteArray.size_append]
  omega

theorem size_encodeStatus_le_of_decode {body : ByteArray} {start : Nat} {s : Status}
    (h : decodeStatus body start = .ok s) : start + (encodeStatus s).size ≤ body.size := by
  unfold decodeStatus at h
  obtain ⟨⟨accepted, _⟩, haccepted, h⟩ := bind_eq_ok.1 h
  obtain ⟨⟨dropped, _⟩, hdropped, h⟩ := bind_eq_ok.1 h
  obtain ⟨⟨batchesFlushed, _⟩, hflushed, h⟩ := bind_eq_ok.1 h
  obtain ⟨⟨batchesSent, _⟩, hsent, h⟩ := bind_eq_ok.1 h
  obtain ⟨⟨sendRejected, _⟩, hrejected, h⟩ := bind_eq_ok.1 h
  obtain ⟨⟨sendFailed, _⟩, hfailed, h⟩ := bind_eq_ok.1 h
  obtain rfl := Except.ok.inj h
  have := size_encodeWord_le_of_decode haccepted
  have := size_encodeWord_le_of_decode hdropped
  have := size_encodeWord_le_of_decode hflushed
  have := size_encodeWord_le_of_decode hsent
  have := size_encodeWord_le_of_decode hrejected
  have := size_encodeWord_le_of_decode hfailed
  simp only [encodeStatus, ByteArray.size_append]
  omega

/-! ## Messages -/

/-- Messages that are never longer where they are written than where they are read. -/
class Thrifty (α : Type) [Message α] : Prop where
  /-- A body that is read as a message has at least the bytes that are written of it. -/
  size_le_of_decode {m : α} {body : ByteArray} (h : Message.decode body = .ok m) :
    (Message.encode m).size ≤ body.size

theorem size_encodeRequest_le {body : ByteArray} {r : Request} (h : decodeRequest body = .ok r) :
    (encodeRequest r).size ≤ body.size := by
  unfold decodeRequest at h
  rcases hindex : decodeVariant 3 body with fault | ⟨index, next⟩
  · rw [hindex] at h
    exact absurd h (by simp)
  · rw [hindex] at h
    obtain ⟨hknown, hsize, hnext⟩ := decodeVariant_eq_ok hindex
    match index, hknown with
    | 0, _ =>
      rcases hread : decodeSubmission body next with fault | s
      · simp [hread, Except.map] at h
      · simp only [hread, Except.map, Except.ok.injEq] at h
        subst h
        have := size_encodeSubmission_le hread
        simp only [encodeRequest, ByteArray.size_append]
        omega
    | 1, _ =>
      obtain rfl := Except.ok.inj h
      exact Nat.le_trans hsize hnext
    | 2, _ =>
      obtain rfl := Except.ok.inj h
      exact Nat.le_trans hsize hnext

theorem size_encodeResponse_le {body : ByteArray} {r : Response} (h : decodeResponse body = .ok r) :
    (encodeResponse r).size ≤ body.size := by
  unfold decodeResponse at h
  rcases hindex : decodeVariant 4 body with fault | ⟨index, next⟩
  · rw [hindex] at h
    exact absurd h (by simp)
  · rw [hindex] at h
    obtain ⟨hknown, hsize, hnext⟩ := decodeVariant_eq_ok hindex
    match index, hknown with
    | 0, _ =>
      obtain rfl := Except.ok.inj h
      exact Nat.le_trans hsize hnext
    | 1, _ =>
      obtain rfl := Except.ok.inj h
      exact Nat.le_trans hsize hnext
    | 2, _ =>
      rcases hread : decodeStatus body next with fault | s
      · simp [hread, Except.map] at h
      · simp only [hread, Except.map, Except.ok.injEq] at h
        subst h
        have := size_encodeStatus_le_of_decode hread
        simp only [encodeResponse, ByteArray.size_append]
        omega
    | 3, _ =>
      rcases hread : decodeText body next with fault | ⟨message, next'⟩
      · simp [hread, Except.map] at h
      · simp only [hread, Except.map, Except.ok.injEq] at h
        subst h
        have := size_encodeText_le hread
        simp only [encodeResponse, ByteArray.size_append]
        omega

instance : Thrifty Request := ⟨size_encodeRequest_le⟩

instance : Thrifty Response := ⟨size_encodeResponse_le⟩

/-! ## Reading and writing -/

section Rewriting

variable {α : Type} [Message α]

/-- Where a message was read, the frame of a body stands that is not too long and carries it. -/
theorem readMessage?_eq_some {s s' : Source} {m : α} (h : readMessage? s = (.ok (some m), s')) :
    ∃ body : ByteArray, body.size ≤ frameLimit ∧ StandsAt (frame body) s.bytes s.position ∧
      Message.decode body = .ok m ∧ s' = { s with position := s.position + (frame body).size } := by
  unfold readMessage? at h
  split at h
  · simp at h
  · simp at h
  · next length place hlength =>
    obtain ⟨hstands, hfour, rfl⟩ := Source.readExact_eq_ok hlength
    simp only at h
    split at h
    · simp at h
    · next hfits =>
      split at h
      · simp at h
      · simp at h
      · next body place' hbody =>
        obtain ⟨hbehind, hsize, rfl⟩ := Source.readExact_eq_ok hbody
        split at h
        · next hdecoded =>
          simp only [Prod.mk.injEq, Except.ok.injEq, Option.some.injEq] at h
          obtain ⟨rfl, rfl⟩ := h
          refine ⟨body, by omega, ?_, hdecoded, ?_⟩
          · rw [frame, hsize, lengthBytes_frameLength hfour, standsAt_append, hfour]
            exact ⟨hstands, hbehind⟩
          · rw [size_frame, hsize, Nat.add_assoc]
        · simp at h

/-- What is written of a message. -/
def rewritten (m : α) : ByteArray := (writeMessage {} m).2.bytes

/-- A message that was read between two places of a stream is written again. -/
structure Rewrites (m : α) (s s' : Source) : Prop where
  /-- It can be written. -/
  written : (writeMessage {} m).1 = .ok ()
  /-- It takes no more bytes than it was read from. -/
  shorter : s.position + (rewritten m).size ≤ s'.position
  /-- It is read again as what it was, and nothing is left. -/
  reread : readMessage? { bytes := rewritten m } =
    (.ok (some m), { bytes := rewritten m, position := (rewritten m).size })

theorem rewrites [Faithful α] [Thrifty α] {s s' : Source} {m : α}
    (h : readMessage? s = (.ok (some m), s')) : Rewrites m s s' := by
  obtain ⟨body, hfits, -, hdecoded, rfl⟩ := readMessage?_eq_some h
  have hsize := Thrifty.size_le_of_decode hdecoded
  have hshort : (Message.encode m).size ≤ frameLimit := Nat.le_trans hsize hfits
  have hwrite := writeMessage_of_fits hshort (b := {}) rfl
  have hbytes : rewritten m = frame (Message.encode m) := by
    rw [rewritten, hwrite, ByteArray.empty_append]
  constructor
  · rw [hwrite]
  · rw [hbytes, size_frame, size_frame]
    simp only
    omega
  · have hread := readMessage?_of_frame (α := α)
      (s := { bytes := frame (Message.encode m) }) rfl hshort (standsAt_self _)
    rw [decode_encode hshort, Nat.zero_add] at hread
    rw [hbytes]
    exact hread

/-- Messages of a kind are written again as they were read, and two of them are written alike
exactly if they are the same. -/
structure Normalizes (α : Type) [Message α] : Prop where
  /-- Whatever was read can be written, no longer than it was, and is read again. -/
  rewrites {s s' : Source} {m : α} (h : readMessage? s = (.ok (some m), s')) : Rewrites m s s'
  /-- Two frames carry the same message exactly if the same bytes are written of what they carry. -/
  rewritten_eq_iff {s s' t t' : Source} {m n : α} (h : readMessage? s = (.ok (some m), s'))
    (h' : readMessage? t = (.ok (some n), t')) : rewritten m = rewritten n ↔ m = n

theorem normalizes [Faithful α] [Thrifty α] : Normalizes α := by
  constructor
  · intro s s' m h
    exact Wire.rewrites h
  · intro s s' t t' m n h h'
    constructor
    · intro hbytes
      have hm := (Wire.rewrites h).reread
      have hn := (Wire.rewrites h').reread
      rw [hbytes, hn] at hm
      simp only [Prod.mk.injEq, Except.ok.injEq, Option.some.injEq] at hm
      exact hm.1.symm
    · rintro rfl
      rfl

end Rewriting

/-- **What can be read can be written, and writing puts it into one form.** Whatever forms the
integers of a request or of a response have, and whatever stands behind it in its body: what was
read can be written, in a frame that is no longer than the one that was read, and that frame is read
as the same message. Of two frames the same bytes are written exactly if they carry the same
message. -/
theorem readable_normalizes : Normalizes Request ∧ Normalizes Response := ⟨normalizes, normalizes⟩

/-- An event whose index and lengths take two, four and eight bytes, with two bytes behind it. -/
def longForms : ByteArray :=
  [0, 0, 0, 21, 251, 0, 0, 252, 1, 0, 0, 0, 97, 253, 1, 0, 0, 0, 0, 0, 0, 0, 49, 255,
    255].toByteArray

/-- The same event, with the length of its category in two bytes. -/
def mediumForms : ByteArray := [0, 0, 0, 7, 0, 251, 1, 0, 97, 1, 49].toByteArray

theorem readable_normalizes_longForms :
    readMessage? { bytes := longForms } =
        (.ok (some (Request.submit ⟨"a", "1"⟩)), { bytes := longForms, position := 25 }) ∧
      readMessage? { bytes := mediumForms } =
        (.ok (some (Request.submit ⟨"a", "1"⟩)), { bytes := mediumForms, position := 11 }) ∧
      (rewritten (Request.submit ⟨"a", "1"⟩)).size ≤ 11 ∧
      readMessage? { bytes := rewritten (Request.submit ⟨"a", "1"⟩) } =
        (.ok (some (Request.submit ⟨"a", "1"⟩)),
          { bytes := rewritten (Request.submit ⟨"a", "1"⟩), position := 9 }) := by
  have hlong : readMessage? { bytes := longForms } =
      (.ok (some (Request.submit ⟨"a", "1"⟩)), { bytes := longForms, position := 25 }) := by rfl
  have hmedium : readMessage? { bytes := mediumForms } =
      (.ok (some (Request.submit ⟨"a", "1"⟩)), { bytes := mediumForms, position := 11 }) := by rfl
  have hrewrites := readable_normalizes.1.rewrites hmedium
  refine ⟨hlong, hmedium, ?_, ?_⟩
  · have hshorter := hrewrites.shorter
    rwa [Nat.zero_add] at hshorter
  · exact hrewrites.reread

end Wire

end EventBatching
