import EventBatching.Wire.Frame
import EventBatching.Proofs.Wire.Varint

/-!
# Messages that are written and read again

A body that starts with what is written of a message is read as that message, whatever follows. The
fields are read one after another: each says where it ends, and there the next one stands.

* `Wire.decodeText_of_standsAt` and `Wire.decodeWord_of_standsAt` say this of the fields.
* `Wire.Faithful` is the class of the messages for which it holds, requests and responses.
* `Wire.size_encodeText` and `Wire.size_encodeStatus_le` tell how long fields become.
* `Wire.le_of_decodeRequest` says that the texts of an event have their bytes in the body.
* `Wire.decodeRequest_eq_textTooLong_iff` says which bodies announce a text for which there is no
  memory.
-/

namespace EventBatching

/-! ## Memory -/

theorem Memory.holds_iff {size : Nat} : Memory.holds size = true ↔ size < 0x8000000000000000 := by
  show decide (size ≤ 0x7FFFFFFFFFFFFFFF) = true ↔ _
  rw [decide_eq_true_iff]
  omega

theorem Memory.holds_of_le {size limit : Nat} (h : Memory.holds limit = true) (hle : size ≤ limit) :
    Memory.holds size = true :=
  Memory.holds_iff.2 (Nat.lt_of_le_of_lt hle (Memory.holds_iff.1 h))

namespace Wire

/-! ## Texts and counters -/

theorem fromUTF8?_toUTF8 (s : String) : String.fromUTF8? s.toUTF8 = some s := by
  have hvalid : s.toUTF8.IsValidUTF8 := s.isValidUTF8
  rw [String.fromUTF8?, dif_pos hvalid]
  rfl

/-- What is written of a text are its bytes, which are read as that text. -/
theorem decode_toUTF8 (s : String) : Utf8.decode s.toUTF8 = .ok s := by
  rw [Utf8.decode, fromUTF8?_toUTF8]

theorem size_encodeText (s : String) :
    (encodeText s).size = (Varint.encode s.utf8ByteSize).size + s.utf8ByteSize := by
  rw [encodeText, ByteArray.size_append]
  rfl

/-- A text for which there is memory is read where it stands. -/
theorem decodeText_of_standsAt {s : String} {body : ByteArray} {start : Nat}
    (h : StandsAt (encodeText s) body start) (held : Memory.holds s.utf8ByteSize = true) :
    decodeText body start = .ok (s, start + (encodeText s).size) := by
  rw [encodeText, standsAt_append] at h
  obtain ⟨hlength, hbytes⟩ := h
  have hbound : s.utf8ByteSize < 0x10000000000000000 := by
    have := Memory.holds_iff.1 held
    omega
  have hdecoded := Varint.decode_word hbound hlength
  have htaken : takeBytes s.utf8ByteSize body (start + (Varint.encode s.utf8ByteSize).size) =
      .ok (s.toUTF8, start + (Varint.encode s.utf8ByteSize).size + s.utf8ByteSize) :=
    hbytes.takeBytes
  simp only [decodeText, hdecoded, held, htaken, decode_toUTF8, size_encodeText, Nat.add_assoc]
  rfl

theorem decodeWord_of_standsAt {n : UInt64} {body : ByteArray} {start : Nat}
    (h : StandsAt (encodeWord n) body start) :
    decodeWord body start = .ok (n, start + (encodeWord n).size) := by
  have hdecoded := Varint.decode_word n.toNat_lt h
  rw [decodeWord, hdecoded]
  simp [encodeWord]

theorem size_encodeWord_le (n : UInt64) : (encodeWord n).size ≤ 9 := by
  rw [encodeWord, Varint.size_encode]
  split
  · omega
  · split
    · omega
    · split <;> omega

/-! ## Fields of messages -/

/-- The index of a message is read where a body starts with it. -/
theorem decodeVariant_of_standsAt {index variants : Nat} {body : ByteArray}
    (h : StandsAt (Varint.encode index) body 0) (small : index ≤ 250) (known : index < variants) :
    decodeVariant variants body = .ok (index, (Varint.encode index).size) := by
  rw [decodeVariant, Varint.decode_small small h .u32]
  simp only [if_pos known, Nat.zero_add]

theorem decodeSubmission_of_standsAt {s : Submission} {body : ByteArray} {start : Nat}
    (h : StandsAt (encodeSubmission s) body start)
    (held : Memory.holds (encodeSubmission s).size = true) :
    decodeSubmission body start = .ok s := by
  rw [encodeSubmission, standsAt_append] at h
  rw [encodeSubmission, ByteArray.size_append, size_encodeText, size_encodeText] at held
  have hcategory := decodeText_of_standsAt h.1 (Memory.holds_of_le held (by omega))
  have hpayload := decodeText_of_standsAt h.2 (Memory.holds_of_le held (by omega))
  simp only [decodeSubmission, hcategory, hpayload, bind, Except.bind]
  rfl

theorem decodeStatus_of_standsAt {s : Status} {body : ByteArray} {start : Nat}
    (h : StandsAt (encodeStatus s) body start) : decodeStatus body start = .ok s := by
  simp only [encodeStatus, standsAt_append, ByteArray.size_append, ← Nat.add_assoc] at h
  obtain ⟨⟨⟨⟨⟨haccepted, hdropped⟩, hflushed⟩, hsent⟩, hrejected⟩, hfailed⟩ := h
  simp only [decodeStatus, decodeWord_of_standsAt haccepted, decodeWord_of_standsAt hdropped,
    decodeWord_of_standsAt hflushed, decodeWord_of_standsAt hsent,
    decodeWord_of_standsAt hrejected, decodeWord_of_standsAt hfailed, bind, Except.bind]
  rfl

theorem size_encodeStatus_le (s : Status) : (encodeStatus s).size ≤ 54 := by
  have := size_encodeWord_le s.accepted
  have := size_encodeWord_le s.dropped
  have := size_encodeWord_le s.batchesFlushed
  have := size_encodeWord_le s.batchesSent
  have := size_encodeWord_le s.sendRejected
  have := size_encodeWord_le s.sendFailed
  simp only [encodeStatus, ByteArray.size_append]
  omega

/-! ## Messages -/

/-- Messages that are read from every body that starts with what is written of them. -/
class Faithful (α : Type) [Message α] : Prop where
  /-- What stands after the message is ignored. -/
  decode_of_standsAt {m : α} {body : ByteArray} (h : StandsAt (Message.encode m) body 0)
    (held : Memory.holds (Message.encode m).size = true) : Message.decode body = .ok m

theorem decodeRequest_of_standsAt {r : Request} {body : ByteArray}
    (h : StandsAt (encodeRequest r) body 0) (held : Memory.holds (encodeRequest r).size = true) :
    decodeRequest body = .ok r := by
  cases r with
  | submit s =>
    rw [encodeRequest, standsAt_append, Nat.zero_add] at h
    rw [encodeRequest, ByteArray.size_append] at held
    have hsubmission := decodeSubmission_of_standsAt h.2 (Memory.holds_of_le held (by omega))
    rw [decodeRequest, decodeVariant_of_standsAt h.1 (by decide) (by decide)]
    simp only [hsubmission]
    rfl
  | ping =>
    have hindex : StandsAt (Varint.encode 1) body 0 := h
    rw [decodeRequest, decodeVariant_of_standsAt hindex (by decide) (by decide)]
    rfl
  | status =>
    have hindex : StandsAt (Varint.encode 2) body 0 := h
    rw [decodeRequest, decodeVariant_of_standsAt hindex (by decide) (by decide)]
    rfl

theorem decodeResponse_of_standsAt {r : Response} {body : ByteArray}
    (h : StandsAt (encodeResponse r) body 0) (held : Memory.holds (encodeResponse r).size = true) :
    decodeResponse body = .ok r := by
  cases r with
  | accepted =>
    have hindex : StandsAt (Varint.encode 0) body 0 := h
    rw [decodeResponse, decodeVariant_of_standsAt hindex (by decide) (by decide)]
    rfl
  | pong =>
    have hindex : StandsAt (Varint.encode 1) body 0 := h
    rw [decodeResponse, decodeVariant_of_standsAt hindex (by decide) (by decide)]
    rfl
  | status s =>
    rw [encodeResponse, standsAt_append, Nat.zero_add] at h
    rw [decodeResponse, decodeVariant_of_standsAt h.1 (by decide) (by decide)]
    simp only [decodeStatus_of_standsAt h.2]
    rfl
  | error message =>
    rw [encodeResponse, standsAt_append, Nat.zero_add] at h
    rw [encodeResponse, ByteArray.size_append, size_encodeText] at held
    have hmessage := decodeText_of_standsAt h.2 (Memory.holds_of_le held (by omega))
    rw [decodeResponse, decodeVariant_of_standsAt h.1 (by decide) (by decide)]
    simp only [hmessage]
    rfl

instance : Faithful Request := ⟨decodeRequest_of_standsAt⟩

instance : Faithful Response := ⟨decodeResponse_of_standsAt⟩

/-! ## Texts that are read -/

theorem size_of_decode {bytes : ByteArray} {s : String} (h : Utf8.decode bytes = .ok s) :
    s.utf8ByteSize = bytes.size := by
  unfold Utf8.decode at h
  split at h
  · next s' hs' =>
    obtain rfl : s' = s := Except.ok.inj h
    unfold String.fromUTF8? at hs'
    split at hs'
    · simp only [Option.some.injEq] at hs'
      rw [← hs']
      rfl
    · exact absurd hs' (by simp)
  · exact absurd h (by simp)

theorem Varint.le_of_decode {widest : IntKind} {body : ByteArray} {start n next : Nat}
    (h : Varint.decode widest body start = .ok (n, next)) : start ≤ next := by
  simp only [Varint.decode] at h
  split at h
  · exact absurd h (by simp)
  · next hmarker =>
    obtain ⟨-, -, hnext⟩ := takeBytes_eq_ok_iff.1 hmarker
    split at h
    · obtain ⟨-, rfl⟩ := Prod.mk.inj (Except.ok.inj h)
      omega
    · split at h
      · exact absurd h (by simp)
      · split at h
        · exact absurd h (by simp)
        · next hbytes =>
          obtain ⟨-, -, hnext'⟩ := takeBytes_eq_ok_iff.1 hbytes
          obtain ⟨-, rfl⟩ := Prod.mk.inj (Except.ok.inj h)
          omega

/-- A text that is read has its bytes in the body. -/
theorem le_of_decodeText {body : ByteArray} {start next : Nat} {s : String}
    (h : decodeText body start = .ok (s, next)) :
    start + s.utf8ByteSize ≤ next ∧ next ≤ body.size := by
  unfold decodeText at h
  split at h
  · exact absurd h (by simp)
  · next length next' hlength =>
    have hstart := Varint.le_of_decode hlength
    split at h
    · exact absurd h (by simp)
    · split at h
      · exact absurd h (by simp)
      · next bytes next'' hbytes =>
        obtain ⟨⟨hle, -⟩, hsize, hnext⟩ := takeBytes_eq_ok_iff.1 hbytes
        split at h
        · next hdecoded =>
          obtain ⟨rfl, rfl⟩ := Prod.mk.inj (Except.ok.inj h)
          have hs := size_of_decode hdecoded
          omega
        · exact absurd h (by simp)

theorem le_of_decodeRequest {body : ByteArray} {s : Submission}
    (h : decodeRequest body = .ok (.submit s)) :
    s.category.utf8ByteSize + s.payload.utf8ByteSize ≤ body.size := by
  unfold decodeRequest at h
  split at h
  · exact absurd h (by simp)
  · next next hvariant =>
    cases hcategory : decodeText body next with
    | error fault => simp [decodeSubmission, hcategory, bind, Except.bind, Except.map] at h
    | ok read =>
      obtain ⟨category, next'⟩ := read
      cases hpayload : decodeText body next' with
      | error fault =>
        simp [decodeSubmission, hcategory, hpayload, bind, Except.bind, Except.map] at h
      | ok read' =>
        obtain ⟨payload, next''⟩ := read'
        simp [decodeSubmission, hcategory, hpayload, bind, Except.bind, Except.map, pure,
          Except.pure] at h
        subst h
        have := le_of_decodeText hcategory
        have := le_of_decodeText hpayload
        simp only
        omega
  · exact absurd h (by simp)
  · exact absurd h (by simp)

/-! ## Texts for which there is no memory -/

/-- At a place of a body the length of a text is read that no piece of memory can hold. -/
def AnnouncesOverlong (body : ByteArray) (start : Nat) : Prop :=
  ∃ length next, Varint.decode .u64 body start = .ok (length, next) ∧
    Memory.holds length = false

theorem takeBytes_ne_textTooLong (count : Nat) (body : ByteArray) (start : Nat) :
    takeBytes count body start ≠ .error .textTooLong := by
  unfold takeBytes
  split <;> simp

theorem Varint.decode_ne_textTooLong (widest : IntKind) (body : ByteArray) (start : Nat) :
    Varint.decode widest body start ≠ .error .textTooLong := by
  intro h
  simp only [Varint.decode] at h
  split at h
  · next fault hfault =>
    rw [Except.error.inj h] at hfault
    exact takeBytes_ne_textTooLong 1 body start hfault
  · split at h
    · exact absurd h (by simp)
    · split at h
      · exact absurd h (by simp)
      · split at h
        · next fault hfault =>
          rw [Except.error.inj h] at hfault
          exact takeBytes_ne_textTooLong _ body _ hfault
        · exact absurd h (by simp)

theorem decodeText_eq_textTooLong_iff {body : ByteArray} {start : Nat} :
    decodeText body start = .error .textTooLong ↔ AnnouncesOverlong body start := by
  unfold AnnouncesOverlong
  cases hlength : Varint.decode .u64 body start with
  | error fault =>
    have hother := Varint.decode_ne_textTooLong .u64 body start
    rw [hlength] at hother
    simpa [decodeText, hlength] using hother
  | ok read =>
    obtain ⟨length, next⟩ := read
    cases hheld : Memory.holds length with
    | false => simp [decodeText, hlength, hheld]
    | true =>
      have htaken := takeBytes_ne_textTooLong length body next
      simp only [decodeText, hlength, hheld]
      cases hbytes : takeBytes length body next with
      | error fault =>
        rw [hbytes] at htaken
        simpa [hheld] using htaken
      | ok bytes => cases hdecoded : Utf8.decode bytes.1 <;> simp [hdecoded, hheld]

/-- Only the texts of an event can be too long for memory. -/
theorem decodeRequest_eq_textTooLong_iff {body : ByteArray} :
    decodeRequest body = .error .textTooLong ↔
      ∃ next, decodeVariant 3 body = .ok (0, next) ∧
        (AnnouncesOverlong body next ∨
          ∃ category next', decodeText body next = .ok (category, next') ∧
            AnnouncesOverlong body next') := by
  have hvariant : decodeVariant 3 body ≠ .error .textTooLong := by
    have hindex := Varint.decode_ne_textTooLong .u32 body 0
    unfold decodeVariant
    cases hread : Varint.decode .u32 body 0 with
    | error fault => simpa [hread] using hindex
    | ok read =>
      by_cases hknown : read.1 < 3
      · simp [hknown]
      · simp [hknown]
  unfold decodeRequest
  rcases hread : decodeVariant 3 body with fault | ⟨index, next⟩
  · rw [hread] at hvariant
    simpa using hvariant
  · rcases index with _ | index
    · simp only [decodeSubmission, ← decodeText_eq_textTooLong_iff]
      cases hcategory : decodeText body next with
      | error fault => simp [hcategory, bind, Except.bind, Except.map]
      | ok read =>
        obtain ⟨category, next'⟩ := read
        cases hpayload : decodeText body next' with
        | error fault =>
          simp [hcategory, bind, Except.bind, Except.map, and_assoc, hpayload]
        | ok payload => simp [hcategory, hpayload, bind, Except.bind, Except.map, pure, Except.pure]
    · rcases index with _ | index <;> simp

end Wire

end EventBatching
