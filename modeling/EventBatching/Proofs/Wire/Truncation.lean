import EventBatching.Proofs.Wire.Stream

/-!
# Streams that are cut off

A stream of frames may be cut off at any place. The frames that lie wholly before the cut are read
as if there were no cut, for a reader does not look beyond the frame that it reads. What it says
behind them depends on where the cut falls. Between two frames nothing is left, and inside a body
the length tells that bytes are missing. But a length of which a part is missing tells nothing, and
the reader takes it for the end of the stream.

* `Wire.written` are the messages of which something is written, and `Wire.buffer_writeAll` says
  that their frames are all that is written.
* `Wire.OnBoundary` and `Wire.InLength` say where a cut falls.
* `Wire.readAllIn_of_cut` follows a reader through the frames up to the cut.
* `Wire.cutStreams_read` says what is read of every stream and every cut, and
  `Wire.cutLength_endsWell` gives a cut that is not noticed.
-/

namespace EventBatching.Wire

variable {α : Type} [Message α]

/-! ## What is written -/

/-- The messages of which something is written: those that are not too long. -/
def written (ms : List α) : List α := ms.filter fun m => (Message.encode m).size ≤ frameLimit

theorem fits_of_mem_written {ms : List α} {m : α} (h : m ∈ written ms) :
    (Message.encode m).size ≤ frameLimit := by
  unfold written at h
  rw [List.mem_filter] at h
  exact of_decide_eq_true h.2

/-- However long the messages are, what is written are the frames of those that are not too long. -/
theorem buffer_writeAll (ms : List α) {b : Buffer} (room : b.room = none) :
    (writeAll b ms).2 = { b with bytes := b.bytes ++ frames (written ms) } := by
  induction ms generalizing b with
  | nil =>
    show b = { b with bytes := b.bytes ++ ByteArray.empty }
    rw [ByteArray.append_empty]
  | cons m rest ih =>
    by_cases fits : (Message.encode m).size ≤ frameLimit
    · have hrest := ih (b := { b with bytes := b.bytes ++ frame (Message.encode m) }) room
      have hwritten : written (m :: rest) = m :: written rest :=
        List.filter_cons_of_pos (by simpa using fits)
      simp only [writeAll, writeMessage_of_fits fits room]
      rw [hrest, hwritten, frames_cons, ByteArray.append_assoc]
    · have hwritten : written (m :: rest) = written rest :=
        List.filter_cons_of_neg (by simpa using fits)
      simp only [writeAll, writeMessage_of_long (Nat.not_le.1 fits)]
      rw [ih room, hwritten]

/-! ## Places in a stream of frames -/

/-- The places between frames that stand one after another from a place on. -/
def boundariesFrom (place : Nat) (ms : List α) : List Nat := place :: (endsFrom place ms).map (·.2)

/-- A cut falls between two frames, or before or behind all of them. -/
def OnBoundary (place : Nat) (ms : List α) (cut : Nat) : Prop := cut ∈ boundariesFrom place ms

/-- A cut falls inside the four bytes of a length. -/
def InLength (place : Nat) (ms : List α) (cut : Nat) : Prop :=
  ∃ start ∈ boundariesFrom place ms, start < cut ∧ cut < start + 4

instance (place : Nat) (ms : List α) (cut : Nat) : Decidable (OnBoundary place ms cut) :=
  inferInstanceAs (Decidable (_ ∈ _))

instance (place : Nat) (ms : List α) (cut : Nat) : Decidable (InLength place ms cut) :=
  inferInstanceAs (Decidable (∃ start ∈ boundariesFrom place ms, start < cut ∧ cut < start + 4))

theorem boundariesFrom_cons (place : Nat) (m : α) (rest : List α) :
    boundariesFrom place (m :: rest) =
      place :: boundariesFrom (place + (frame (Message.encode m)).size) rest := rfl

theorem le_of_mem_boundariesFrom {place b : Nat} {ms : List α} (h : b ∈ boundariesFrom place ms) :
    place ≤ b := by
  induction ms generalizing place with
  | nil =>
    obtain rfl := List.mem_singleton.1 h
    exact Nat.le_refl _
  | cons m rest ih =>
    rw [boundariesFrom_cons] at h
    rcases List.mem_cons.1 h with rfl | hrest
    · exact Nat.le_refl _
    · have := ih hrest
      omega

/-- The frames that lie wholly before a cut, when the first one does. -/
theorem whole_cons {place cut : Nat} {m : α} {rest : List α}
    (whole : place + (frame (Message.encode m)).size ≤ cut) :
    (endsFrom place (m :: rest)).filter (·.2 ≤ cut) =
      (m, place + (frame (Message.encode m)).size) ::
        (endsFrom (place + (frame (Message.encode m)).size) rest).filter (·.2 ≤ cut) :=
  List.filter_cons_of_pos (by simpa using whole)

/-- No frame lies wholly before a cut that falls into the first one. -/
theorem whole_of_lt {place cut : Nat} {m : α} {rest : List α}
    (inside : cut < place + (frame (Message.encode m)).size) :
    (endsFrom place (m :: rest)).filter (·.2 ≤ cut) = [] := by
  rw [List.filter_eq_nil_iff]
  intro e he
  have hboundary : e.2 ∈ boundariesFrom (place + (frame (Message.encode m)).size) rest :=
    List.mem_map_of_mem (f := Prod.snd) he
  have := le_of_mem_boundariesFrom hboundary
  simp only [decide_eq_true_eq]
  omega

/-- Every frame takes at least four bytes, so few of them lie before a cut. -/
theorem length_whole_le (place cut : Nat) (ms : List α) :
    4 * ((endsFrom place ms).filter (·.2 ≤ cut)).length ≤ cut - place := by
  induction ms generalizing place with
  | nil => exact Nat.zero_le _
  | cons m rest ih =>
    by_cases whole : place + (frame (Message.encode m)).size ≤ cut
    · have hrest := ih (place + (frame (Message.encode m)).size)
      rw [whole_cons whole, List.length_cons]
      rw [size_frame] at hrest whole ⊢
      omega
    · rw [whole_of_lt (Nat.not_le.1 whole)]
      exact Nat.zero_le _

/-- A cut behind the first frame falls where it falls among the others. -/
theorem onBoundary_cons {place cut : Nat} {m : α} {rest : List α}
    (whole : place + (frame (Message.encode m)).size ≤ cut) :
    OnBoundary place (m :: rest) cut ↔
      OnBoundary (place + (frame (Message.encode m)).size) rest cut := by
  unfold OnBoundary
  rw [boundariesFrom_cons, List.mem_cons]
  apply or_iff_right
  rw [size_frame] at whole
  omega

theorem inLength_cons {place cut : Nat} {m : α} {rest : List α}
    (whole : place + (frame (Message.encode m)).size ≤ cut) :
    InLength place (m :: rest) cut ↔
      InLength (place + (frame (Message.encode m)).size) rest cut := by
  unfold InLength
  rw [boundariesFrom_cons]
  constructor
  · rintro ⟨start, hstart, hlow, hhigh⟩
    rcases List.mem_cons.1 hstart with rfl | hrest
    · rw [size_frame] at whole
      omega
    · exact ⟨start, hrest, hlow, hhigh⟩
  · rintro ⟨start, hstart, hlow, hhigh⟩
    exact ⟨start, List.mem_cons_of_mem _ hstart, hlow, hhigh⟩

/-- In the first frame a cut falls on its start, into its length, or into its body. -/
theorem onBoundary_of_lt {place cut : Nat} {m : α} {rest : List α}
    (inside : cut < place + (frame (Message.encode m)).size) :
    OnBoundary place (m :: rest) cut ↔ cut = place := by
  unfold OnBoundary
  rw [boundariesFrom_cons, List.mem_cons]
  apply or_iff_left
  intro hrest
  have := le_of_mem_boundariesFrom hrest
  omega

theorem inLength_of_lt {place cut : Nat} {m : α} {rest : List α}
    (inside : cut < place + (frame (Message.encode m)).size) :
    InLength place (m :: rest) cut ↔ place < cut ∧ cut < place + 4 := by
  unfold InLength
  rw [boundariesFrom_cons]
  constructor
  · rintro ⟨start, hstart, hlow, hhigh⟩
    rcases List.mem_cons.1 hstart with rfl | hrest
    · exact ⟨hlow, hhigh⟩
    · have := le_of_mem_boundariesFrom hrest
      omega
  · intro h
    exact ⟨place, List.mem_cons_self .., h⟩

/-! ## Reading up to a cut -/

/-- What stands before a cut stands in the stream that was cut off. -/
theorem StandsAt.extract {piece whole : ByteArray} {place cut : Nat}
    (h : StandsAt piece whole place)
    (before : place + piece.size ≤ cut) : StandsAt piece (whole.extract 0 cut) place := by
  obtain ⟨hle, hpiece⟩ := h
  constructor
  · rw [ByteArray.size_extract]
    omega
  · rw [ByteArray.extract_extract, Nat.zero_add, Nat.zero_add, Nat.min_eq_left before]
    exact hpiece

/-- What a reader has found that read the frames from a place on, up to a cut. -/
structure StopsAt (place : Nat) (ms : List α) (cut : Nat) (r : Reading α) : Prop where
  /-- Exactly the frames were read that lie wholly before the cut, in order. -/
  messages : r.messages = (endsFrom place ms).filter (·.2 ≤ cut)
  /-- The stream seems to have ended if the cut falls between frames, or inside a length. -/
  ended_iff : r.fault = none ↔ OnBoundary place ms cut ∨ InLength place ms cut
  /-- Otherwise bytes of a body are missing, and the reader says so. -/
  torn : r.fault ≠ none → r.fault = some .bodyCut
  /-- Where the stream seems to have ended no message is found, however often the reader is
  asked. -/
  exhausted : r.fault = none →
    (readMessage? r.source : Except ReadFault (Option α) × Source) = (.ok none, r.source)

/-- A cut stream that has fewer than four bytes left is at its end. -/
theorem stopsAt_end {bytes : ByteArray} {place : Nat} {ms : List α} {cut : Nat}
    (size : bytes.size = cut) (reached : place ≤ cut) (short : cut < place + 4)
    (none_whole : (endsFrom place ms).filter (·.2 ≤ cut) = [])
    (falls : OnBoundary place ms cut ∨ InLength place ms cut) (steps : Nat) :
    StopsAt place ms cut (readAllIn false (steps + 1) ⟨bytes, place, none⟩) := by
  have hend : (readMessage? ⟨bytes, place, none⟩ : Except ReadFault (Option α) × Source) =
      (.ok none, ⟨bytes, cut, none⟩) := by
    have hshort : bytes.size < place + 4 := by
      rw [size]
      exact short
    rw [readMessage?_of_short rfl hshort]
    simp only [size, Nat.max_eq_right reached]
  have hagain : (readMessage? ⟨bytes, cut, none⟩ : Except ReadFault (Option α) × Source) =
      (.ok none, ⟨bytes, cut, none⟩) := by
    have hshort : bytes.size < cut + 4 := by
      rw [size]
      exact Nat.lt_add_of_pos_right (by decide)
    rw [readMessage?_of_short rfl hshort]
    simp only [size, Nat.max_self]
  simp only [readAllIn, hend]
  constructor
  · exact none_whole.symm
  · exact iff_of_true rfl falls
  · intro hfault
    exact absurd rfl hfault
  · intro _
    exact hagain

/-- Where a length stands and a part of the body is missing, the length tells that it is. -/
theorem stopsAt_body {whole : ByteArray} {place cut : Nat} {m : α} {rest : List α}
    (fits : (Message.encode m).size ≤ frameLimit)
    (stands : StandsAt (frame (Message.encode m)) whole place)
    (size : (whole.extract 0 cut).size = cut) (there : place + 4 ≤ cut)
    (inside : cut < place + (frame (Message.encode m)).size) (steps : Nat) :
    StopsAt place (m :: rest) cut
      (readAllIn false (steps + 1) ⟨whole.extract 0 cut, place, none⟩) := by
  have hlength : StandsAt (lengthBytes (Message.encode m).size) (whole.extract 0 cut) place := by
    apply (standsAt_append.1 stands).1.extract
    rw [size_lengthBytes]
    exact there
  have hannounced := frameLength_lengthBytes_of_fits fits
  have hmissing : (whole.extract 0 cut).size <
      place + 4 + frameLength (lengthBytes (Message.encode m).size) := by
    rw [size_frame] at inside
    rw [size, hannounced]
    omega
  have hread := readMessage?_of_noBody (α := α) (s := ⟨whole.extract 0 cut, place, none⟩) rfl
    (size_lengthBytes _) hlength (.inr hmissing)
  rw [hannounced, if_neg (Nat.not_lt.2 fits)] at hread
  rcases hone : (readMessage? ⟨whole.extract 0 cut, place, none⟩ :
    Except ReadFault (Option α) × Source) with ⟨read, left⟩
  rw [hone] at hread
  obtain rfl : read = .error .bodyCut := hread
  rw [readAllIn, hone]
  constructor
  · exact (whole_of_lt inside).symm
  · rw [onBoundary_of_lt inside, inLength_of_lt inside]
    refine iff_of_false (by simp) ?_
    omega
  · intro _
    rfl
  · intro hnone
    exact absurd hnone (by simp)

/-- A reader reads the frames before a cut one after another, and then stops. -/
theorem readAllIn_of_cut [Faithful α] {ms : List α}
    (fit : ∀ m ∈ ms, (Message.encode m).size ≤ frameLimit) {whole : ByteArray} {place cut : Nat}
    (h : StandsAt (frames ms) whole place) (last : whole.size = place + (frames ms).size)
    (reached : place ≤ cut) (inside : cut ≤ whole.size) {steps : Nat}
    (enough : ((endsFrom place ms).filter (·.2 ≤ cut)).length < steps) :
    StopsAt place ms cut (readAllIn false steps ⟨whole.extract 0 cut, place, none⟩) := by
  have hsize : (whole.extract 0 cut).size = cut := by
    rw [ByteArray.size_extract]
    omega
  -- on the messages; the reader takes one step for each frame before the cut, and one to stop
  induction ms generalizing place steps with
  | nil =>
    obtain ⟨steps, rfl⟩ := Nat.exists_eq_add_one_of_ne_zero (Nat.ne_of_gt enough)
    have hcut : cut = place := by
      rw [last, show (frames ([] : List α)).size = 0 from rfl] at inside
      omega
    subst hcut
    exact stopsAt_end hsize reached (by omega) rfl (.inl (List.mem_cons_self ..)) steps
  | cons m rest ih =>
    have hfirst := fit m (List.mem_cons_self ..)
    rw [frames_cons] at h last
    obtain ⟨hframe, hlater⟩ := standsAt_append.1 h
    by_cases hwhole : place + (frame (Message.encode m)).size ≤ cut
    · rw [whole_cons hwhole, List.length_cons] at enough
      obtain ⟨steps, rfl⟩ := Nat.exists_eq_add_one_of_ne_zero (Nat.ne_zero_of_lt enough)
      have hread := readMessage?_of_frame (α := α) (s := ⟨whole.extract 0 cut, place, none⟩) rfl
        hfirst (hframe.extract hwhole)
      simp only [decode_encode hfirst] at hread
      have hlast : whole.size = place + (frame (Message.encode m)).size + (frames rest).size := by
        rw [last, ByteArray.size_append, Nat.add_assoc]
      have hrest := ih (fun m hm => fit m (List.mem_cons_of_mem _ hm)) hlater hlast hwhole
        (Nat.lt_of_succ_lt_succ enough)
      rw [readAllIn, hread]
      constructor
      · rw [whole_cons hwhole, ← hrest.messages]
      · rw [onBoundary_cons hwhole, inLength_cons hwhole]
        exact hrest.ended_iff
      · exact hrest.torn
      · exact hrest.exhausted
    · have hcut := Nat.not_le.1 hwhole
      obtain ⟨steps, rfl⟩ := Nat.exists_eq_add_one_of_ne_zero (Nat.ne_zero_of_lt enough)
      by_cases short : cut < place + 4
      · refine stopsAt_end hsize reached short (whole_of_lt hcut) ?_ steps
        rw [onBoundary_of_lt hcut, inLength_of_lt hcut]
        omega
      · exact stopsAt_body hfirst hframe hsize (Nat.not_lt.1 short) hcut steps

/-! ## Cut streams -/

/-- What is read of messages that were written one after another, when only the first `cut` bytes
are left. -/
def readCut (ms : List α) (cut : Nat) : Reading α :=
  readAll false { bytes := (writeAll {} ms).2.bytes.extract 0 cut }

/-- How a stream is read that was cut off: as far as its frames are whole, and if the cut does not
fall inside a length, the stream seems to have ended exactly if the cut falls between frames. -/
structure ReadsCut (ms : List α) (cut : Nat) : Prop
    extends StopsAt 0 (written ms) cut (readCut ms cut) where
  /-- Only a cut inside a length can be taken for one between frames. -/
  noticed : ¬InLength 0 (written ms) cut →
    ((readCut ms cut).fault = none ↔ OnBoundary 0 (written ms) cut)

theorem readsCut [Faithful α] {ms : List α} {cut : Nat}
    (inside : cut ≤ (writeAll {} ms).2.bytes.size) : ReadsCut ms cut := by
  have hbytes : (writeAll {} ms).2.bytes = frames (written ms) := by
    rw [buffer_writeAll ms rfl, ByteArray.empty_append]
  rw [hbytes] at inside
  have hread : readCut ms cut =
      readAllIn false (cut / 4 + 1) ⟨(frames (written ms)).extract 0 cut, 0, none⟩ := by
    unfold readCut readAll
    rw [hbytes]
    simp only [ByteArray.size_extract, Nat.min_eq_left inside, Nat.sub_zero]
  have henough : ((endsFrom 0 (written ms)).filter (·.2 ≤ cut)).length < cut / 4 + 1 := by
    have hfew := length_whole_le 0 cut (written ms)
    omega
  have hstops : StopsAt 0 (written ms) cut (readCut ms cut) := by
    rw [hread]
    exact readAllIn_of_cut (fun m hm => fits_of_mem_written hm) (standsAt_self _)
      (Nat.zero_add _).symm (Nat.zero_le cut) inside henough
  refine ⟨hstops, ?_⟩
  intro hlength
  rw [hstops.ended_iff]
  exact or_iff_left hlength

/-- **What a cut leaves is read, and nothing else.** Write any requests, and likewise any responses,
one after another, and keep the first bytes of the stream. Exactly the messages are read whose
frames lie wholly in these bytes, in order. Unless the cut falls inside the four bytes of a length,
the stream seems to have ended exactly if the cut falls between frames, and otherwise the reader
says that bytes are missing. -/
theorem cutStreams_read (requests : List Request) (responses : List Response) (cut cut' : Nat)
    (requestsCut : cut ≤ (writeAll {} requests).2.bytes.size)
    (responsesCut : cut' ≤ (writeAll {} responses).2.bytes.size) :
    ReadsCut requests cut ∧ ReadsCut responses cut' :=
  ⟨readsCut requestsCut, readsCut responsesCut⟩

/-- The requests are cut inside the body of the third one, the responses behind the second one. -/
theorem cutStreams_read_bodyAndBoundary :
    30 ≤ (writeAll {} mixedRequests).2.bytes.size ∧
      39 ≤ (writeAll {} boundaryResponses).2.bytes.size ∧
      (readCut mixedRequests 30).messages =
        [(.submit ⟨"a", "\"ä€😀\""⟩, 19), (.ping, 24)] ∧
      (readCut mixedRequests 30).fault = some .bodyCut ∧
      (readCut boundaryResponses 39).messages =
        [(.status ⟨250, 251, 65535, 65536, 4294967295, 4294967296⟩, 31), (.error "ä", 39)] ∧
      (readCut boundaryResponses 39).fault = none := by
  have requestsCut : 30 ≤ (writeAll {} mixedRequests).2.bytes.size := by decide
  have responsesCut : 39 ≤ (writeAll {} boundaryResponses).2.bytes.size := by decide
  obtain ⟨hrequests, hresponses⟩ :=
    cutStreams_read mixedRequests boundaryResponses 30 39 requestsCut responsesCut
  refine ⟨requestsCut, responsesCut, ?_, ?_, ?_, ?_⟩
  · rw [hrequests.messages]
    decide
  · apply hrequests.torn
    rw [ne_eq, hrequests.ended_iff]
    decide
  · rw [hresponses.messages]
    decide
  · rw [hresponses.ended_iff]
    decide

/-- Two requests, each of a frame of five bytes. -/
def twoRequests : List Request := [.ping, .status]

/-- A cut inside the length of the second frame is not noticed. -/
theorem cutLength_endsWell :
    8 < (writeAll {} twoRequests).2.bytes.size ∧ ¬OnBoundary 0 (written twoRequests) 8 ∧
      (readCut twoRequests 8).messages = [(.ping, 5)] ∧ (readCut twoRequests 8).fault = none := by
  decide

end EventBatching.Wire
