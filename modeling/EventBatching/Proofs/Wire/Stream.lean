import EventBatching.Proofs.Wire.Codec

/-!
# Streams of messages

A frame says how long its body is, so frames that stand one after another can be told apart, and the
bytes after the last of them are left alone. What is read of a stream depends on what stands at the
place that was reached, and on nothing that was read before.

* `Wire.readMessage?_of_frame` and `Wire.readMessage?_of_short` say what is read where a frame
  stands and where a stream ends; `Wire.readMessage?_cases` says that nothing else can be read.
* `Wire.Carries` says which messages the frames between two places of a stream carry.
* `Wire.streams_roundTrip` says that messages written one after another are read again, one after
  another, and that exactly the messages that are too long are not written.
-/

namespace EventBatching

namespace Source

/-! ## Reading bytes -/

variable {s : Source}

/-- What stands at the place of a stream is read from it. -/
theorem readExact_of_standsAt (sound : s.failure = none) {piece : ByteArray}
    (h : Wire.StandsAt piece s.bytes s.position) :
    s.readExact piece.size = (.ok piece, { s with position := s.position + piece.size }) := by
  simp only [readExact, reach, sound, if_pos h.1, h.2]

/-- A stream with fewer bytes than are wanted is at its end. -/
theorem readExact_of_short (sound : s.failure = none) {count : Nat}
    (short : s.bytes.size < s.position + count) :
    s.readExact count = (.error .ended, { s with position := max s.position s.bytes.size }) := by
  simp only [readExact, reach, sound, if_neg (Nat.not_le.2 short)]

end Source

namespace Wire

/-! ## Frames -/

@[simp] theorem size_lengthBytes (n : Nat) : (lengthBytes n).size = 4 := by
  rw [lengthBytes, List.size_toByteArray, List.length_reverse, length_littleEndian]

@[simp] theorem size_frame (body : ByteArray) : (frame body).size = 4 + body.size := by
  rw [frame, ByteArray.size_append, size_lengthBytes]

theorem frameLength_lengthBytes {n : Nat} (h : n < 0x100000000) : frameLength (lengthBytes n) = n := by
  rw [frameLength, lengthBytes, List.toList_data_toByteArray, List.reverse_reverse,
    ofLittleEndian_littleEndian h]

/-- Any four bytes are those of a length. -/
theorem lengthBytes_frameLength {bytes : ByteArray} (h : bytes.size = 4) :
    lengthBytes (frameLength bytes) = bytes := by
  have hlength : bytes.data.toList.reverse.length = 4 := by
    rw [List.length_reverse]
    exact h
  have hbytes := littleEndian_ofLittleEndian bytes.data.toList.reverse
  rw [hlength] at hbytes
  apply ByteArray.ext
  rw [lengthBytes, frameLength, hbytes, List.reverse_reverse, List.data_toByteArray]

/-- A body that is not too long has a length that four bytes can tell. -/
theorem frameLength_lengthBytes_of_fits {body : ByteArray} (fits : body.size ≤ frameLimit) :
    frameLength (lengthBytes body.size) = body.size :=
  frameLength_lengthBytes (Nat.lt_of_le_of_lt fits (by decide))

/-! ## Reading a message -/

section Reading

variable {α : Type} [Message α] {s : Source}

/-- Where a frame stands, its body is read, and whatever stands behind the frame is left. -/
theorem readMessage?_of_frame (sound : s.failure = none) {body : ByteArray}
    (fits : body.size ≤ frameLimit)
    (h : StandsAt (frame body) s.bytes s.position) :
    (readMessage? s : Except ReadFault (Option α) × Source) =
      (match Message.decode body with
        | .ok m => .ok (some m)
        | .error fault => .error (.malformed fault),
        { s with position := s.position + (frame body).size }) := by
  obtain ⟨hlength, hbody⟩ := standsAt_append.1 h
  have hread := Source.readExact_of_standsAt sound hlength
  rw [size_lengthBytes] at hread hbody
  have hrest := Source.readExact_of_standsAt (s := { s with position := s.position + 4 })
    sound hbody
  simp only [readMessage?, hread, frameLength_lengthBytes_of_fits fits,
    if_neg (Nat.not_lt.2 fits), hrest]
  rw [size_frame, Nat.add_assoc]
  cases (Message.decode body : Except DecodeFault α) <;> rfl

/-- Where a stream has too few bytes for a length, there is no message. -/
theorem readMessage?_of_short (sound : s.failure = none)
    (short : s.bytes.size < s.position + 4) :
    (readMessage? s : Except ReadFault (Option α) × Source) =
      (.ok none, { s with position := max s.position s.bytes.size }) := by
  simp only [readMessage?, Source.readExact_of_short sound short]

/-- What a length announces is too long, or is not there. -/
theorem readMessage?_of_noBody (sound : s.failure = none) {length : ByteArray}
    (size : length.size = 4) (h : StandsAt length s.bytes s.position)
    (noBody : frameLimit < frameLength length ∨
      s.bytes.size < s.position + 4 + frameLength length) :
    (readMessage? s : Except ReadFault (Option α) × Source).1 =
      .error (if frameLimit < frameLength length then .frameTooLong (frameLength length)
        else .bodyCut) := by
  have hread := Source.readExact_of_standsAt sound h
  rw [size] at hread
  by_cases hlong : frameLimit < frameLength length
  · simp only [readMessage?, hread, if_pos hlong]
  · have hcut := noBody.resolve_left hlong
    have hrest := Source.readExact_of_short (s := { s with position := s.position + 4 })
      sound hcut
    simp only [readMessage?, hread, if_neg hlong, hrest]

/-- At every place of a stream the stream ends, or a frame stands, or a frame is announced that is
too long or cut. -/
theorem readMessage?_cases (sound : s.failure = none) :
    (s.bytes.size < s.position + 4 ∧
        (readMessage? s : Except ReadFault (Option α) × Source).1 = .ok none) ∨
      (∃ body : ByteArray, body.size ≤ frameLimit ∧
        StandsAt (frame body) s.bytes s.position) ∨
      (s.position + 4 ≤ s.bytes.size ∧
        ∃ fault : ReadFault, (fault = .bodyCut ∨ ∃ length, fault = .frameTooLong length) ∧
          (readMessage? s : Except ReadFault (Option α) × Source).1 = .error fault) := by
  by_cases short : s.bytes.size < s.position + 4
  · exact .inl ⟨short, by rw [readMessage?_of_short sound short]⟩
  · have hroom : s.position + 4 ≤ s.bytes.size := Nat.not_lt.1 short
    let length := s.bytes.extract s.position (s.position + 4)
    have hsize : length.size = 4 := by
      rw [ByteArray.size_extract]
      omega
    have hlength : StandsAt length s.bytes s.position := by
      unfold StandsAt
      rw [hsize]
      exact ⟨hroom, rfl⟩
    by_cases noBody : frameLimit < frameLength length ∨
        s.bytes.size < s.position + 4 + frameLength length
    · refine .inr (.inr ⟨hroom, _, ?_, readMessage?_of_noBody sound hsize hlength noBody⟩)
      split
      · exact .inr ⟨_, rfl⟩
      · exact .inl rfl
    · obtain ⟨hfits, hthere⟩ := not_or.1 noBody
      let body := s.bytes.extract (s.position + 4)
        (s.position + 4 + frameLength length)
      have hbody : body.size = frameLength length := by
        rw [ByteArray.size_extract]
        omega
      refine .inr (.inl ⟨body, by omega, ?_⟩)
      rw [frame, hbody, lengthBytes_frameLength hsize, standsAt_append, hsize]
      refine ⟨hlength, ?_⟩
      unfold StandsAt
      rw [hbody]
      exact ⟨by omega, rfl⟩

end Reading

/-! ## Frames one after another -/

section Carrying

variable {α : Type} [Message α] {bytes : ByteArray}

/-- The frames that stand one after another between two places of a stream carry messages. -/
inductive Carries (bytes : ByteArray) : Nat → List α → Nat → Prop
  | done (place : Nat) : Carries bytes place [] place
  | next {place stop : Nat} {body : ByteArray} {m : α} {ms : List α}
      (stands : StandsAt (frame body) bytes place) (fits : body.size ≤ frameLimit)
      (decoded : Message.decode body = .ok m)
      (later : Carries bytes (place + (frame body).size) ms stop) :
      Carries bytes place (m :: ms) stop

/-- What frames carry is read, whatever stands behind them. -/
theorem Carries.readMessage? {place stop : Nat} {m : α} {ms : List α}
    (h : Carries bytes place (m :: ms) stop) :
    ∃ next, readMessage? ⟨bytes, place, none⟩ = (.ok (some m), ⟨bytes, next, none⟩) ∧
      place + 4 ≤ next ∧ next ≤ bytes.size ∧ Carries bytes next ms stop := by
  cases h with
  | @next _ _ body _ _ stands fits decoded later =>
    have hread := readMessage?_of_frame (α := α) (s := ⟨bytes, place, none⟩) rfl fits stands
    rw [decoded] at hread
    refine ⟨place + (frame body).size, hread, ?_, stands.1, later⟩
    rw [size_frame]
    omega

theorem Carries.head_eq {place stop stop' : Nat} {m m' : α} {ms ms' : List α}
    (h : Carries bytes place (m :: ms) stop) (h' : Carries bytes place (m' :: ms') stop') :
    m = m' := by
  obtain ⟨next, hread, -⟩ := h.readMessage?
  obtain ⟨next', hread', -⟩ := h'.readMessage?
  rw [hread] at hread'
  simp only [Prod.mk.injEq, Except.ok.injEq, Option.some.injEq] at hread'
  exact hread'.1

/-- What frames carry is determined: of two runs from the same place, the one that cannot go on with
a message of the other one is the longer. -/
theorem Carries.isPrefix {place stop stop' : Nat} {ms ms' : List α}
    (h : Carries bytes place ms stop) (h' : Carries bytes place ms' stop')
    (ends : ∀ m ∈ ms', ∀ later stop', ¬Carries bytes stop (m :: later) stop') : ms' <+: ms := by
  induction ms generalizing place ms' with
  | nil =>
    cases h
    cases ms' with
    | nil => exact List.prefix_rfl
    | cons m later => exact absurd h' (ends m (List.mem_cons_self ..) later stop')
  | cons m later ih =>
    cases ms' with
    | nil => exact List.nil_prefix
    | cons m' later' =>
      -- both runs start with what is read at the place, and go on from the same place
      obtain ⟨next, hread, -, -, hlater⟩ := h.readMessage?
      obtain ⟨next', hread', -, -, hlater'⟩ := h'.readMessage?
      rw [hread] at hread'
      simp only [Prod.mk.injEq, Except.ok.injEq, Option.some.injEq, Source.mk.injEq, and_true,
        true_and] at hread'
      obtain ⟨rfl, rfl⟩ := hread'
      rw [List.cons_prefix_cons]
      refine ⟨rfl, ih hlater hlater' ?_⟩
      intro m hm
      exact ends m (List.mem_cons_of_mem _ hm)

/-- A run is followed by the rest of every longer one. -/
theorem Carries.rest {place stop stop' : Nat} {ms later : List α}
    (h : Carries bytes place ms stop) (h' : Carries bytes place (ms ++ later) stop') :
    Carries bytes stop later stop' := by
  induction ms generalizing place with
  | nil =>
    cases h
    exact h'
  | cons m rest ih =>
    obtain ⟨next, hread, -, -, hlater⟩ := h.readMessage?
    have hlong : Carries bytes place (m :: (rest ++ later)) stop' := h'
    obtain ⟨next', hread', -, -, hlater'⟩ := hlong.readMessage?
    rw [hread] at hread'
    simp only [Prod.mk.injEq, Source.mk.injEq, and_true, true_and] at hread'
    obtain rfl := hread'
    exact ih hlater hlater'

end Carrying

/-! ## Writing and reading streams -/

section Streams

variable {α : Type} [Message α]

/-- The frames of messages, one after another. -/
def frames (ms : List α) : ByteArray :=
  ms.foldr (fun m later => frame (Message.encode m) ++ later) ByteArray.empty

/-- Messages, each with the place at which its frame ends if the first one starts at `place`. -/
def endsFrom (place : Nat) : List α → List (α × Nat)
  | [] => []
  | m :: rest =>
    let next := place + (frame (Message.encode m)).size
    (m, next) :: endsFrom next rest

/-- Writes messages one after another: what became of each, and the buffer. -/
def writeAll (b : Buffer) : List α → List (Except WriteFault Unit) × Buffer
  | [] => ([], b)
  | m :: rest =>
    let (written, b) := writeMessage b m
    let (later, b) := writeAll b rest
    (written :: later, b)

theorem frames_cons (m : α) (rest : List α) :
    frames (m :: rest) = frame (Message.encode m) ++ frames rest := rfl

/-- Of a message that is too long nothing is written. -/
theorem writeMessage_of_long {m : α} (long : frameLimit < (Message.encode m).size) (b : Buffer) :
    writeMessage b m = (.error (.messageTooLong (Message.encode m).size), b) := by
  simp only [writeMessage, encodeFrame, if_pos long]

/-- Any other message has a frame. -/
theorem encodeFrame_of_fits {m : α} (fits : (Message.encode m).size ≤ frameLimit) :
    encodeFrame m = .ok (frame (Message.encode m)) := if_neg (Nat.not_lt.2 fits)

/-- It is the frame that is written. -/
theorem writeMessage_of_fits {m : α} (fits : (Message.encode m).size ≤ frameLimit) {b : Buffer}
    (room : b.room = none) :
    writeMessage b m = (.ok (), { b with bytes := b.bytes ++ frame (Message.encode m) }) := by
  simp only [writeMessage, encodeFrame_of_fits fits, Buffer.fits, room, Buffer.append]
  rfl

theorem writeAll_of_fit {ms : List α} (fit : ∀ m ∈ ms, (Message.encode m).size ≤ frameLimit)
    {b : Buffer} (room : b.room = none) :
    writeAll b ms =
      (List.replicate ms.length (.ok ()), { b with bytes := b.bytes ++ frames ms }) := by
  induction ms generalizing b with
  | nil =>
    rw [frames, List.foldr_nil, ByteArray.append_empty]
    rfl
  | cons m rest ih =>
    have hfirst := fit m (List.mem_cons_self ..)
    have hrest : ∀ m ∈ rest, (Message.encode m).size ≤ frameLimit :=
      fun m hm => fit m (List.mem_cons_of_mem _ hm)
    have hlater := ih hrest (b := { b with bytes := b.bytes ++ frame (Message.encode m) }) room
    rw [writeAll, writeMessage_of_fits hfirst room]
    simp only [hlater, ByteArray.append_assoc, frames_cons]
    rfl

/-- A body with nothing behind the message is read as the message. -/
theorem decode_encode [Faithful α] {m : α} (fits : (Message.encode m).size ≤ frameLimit) :
    Message.decode (Message.encode m) = .ok m := by
  have hheld : Memory.holds frameLimit = true := by decide
  exact Faithful.decode_of_standsAt (standsAt_self _) (Memory.holds_of_le hheld fits)

/-- A frame that is written behind everything that was read is what is read next. -/
theorem readMessage?_of_written [Faithful α] {s : Source} (sound : s.failure = none)
    (read : s.position = s.bytes.size) {m : α} (fits : (Message.encode m).size ≤ frameLimit) :
    readMessage? { s with bytes := s.bytes ++ frame (Message.encode m) } =
      (.ok (some m), { s with
        bytes := s.bytes ++ frame (Message.encode m)
        position := (s.bytes ++ frame (Message.encode m)).size }) := by
  have hstands : StandsAt (frame (Message.encode m)) (s.bytes ++ frame (Message.encode m))
      s.position := by
    have hbetween := standsAt_between s.bytes (frame (Message.encode m)) ByteArray.empty
    rwa [ByteArray.append_empty, ← read] at hbetween
  have hread := readMessage?_of_frame (α := α)
    (s := { s with bytes := s.bytes ++ frame (Message.encode m) }) sound fits hstands
  rw [hread, decode_encode fits, ByteArray.size_append, read]

/-- Frames that stand in a stream carry the messages that they are made of. -/
theorem carries_of_frames [Faithful α] {ms : List α}
    (fit : ∀ m ∈ ms, (Message.encode m).size ≤ frameLimit) {bytes : ByteArray} {place : Nat}
    (h : StandsAt (frames ms) bytes place) : Carries bytes place ms (place + (frames ms).size) := by
  induction ms generalizing place with
  | nil => exact .done place
  | cons m rest ih =>
    have hfirst := fit m (List.mem_cons_self ..)
    rw [frames_cons, standsAt_append] at h
    rw [frames_cons, ByteArray.size_append, ← Nat.add_assoc]
    refine .next h.1 hfirst (decode_encode hfirst) (ih ?_ h.2)
    intro m hm
    exact fit m (List.mem_cons_of_mem _ hm)

/-- Frames that stand in a stream are read as the messages that they are made of. -/
theorem readAllIn_of_frames [Faithful α] {ms : List α}
    (fit : ∀ m ∈ ms, (Message.encode m).size ≤ frameLimit) {bytes : ByteArray} {place : Nat}
    (h : StandsAt (frames ms) bytes place) (due : Bool) :
    (readAllIn due ms.length ⟨bytes, place, none⟩ : Reading α) =
      ⟨endsFrom place ms, none, ⟨bytes, place + (frames ms).size, none⟩⟩ := by
  -- on the messages; what the first frame leaves stands at the place where it ends
  induction ms generalizing place with
  | nil => rfl
  | cons m rest ih =>
    have hfirst := fit m (List.mem_cons_self ..)
    have hrest : ∀ m ∈ rest, (Message.encode m).size ≤ frameLimit :=
      fun m hm => fit m (List.mem_cons_of_mem _ hm)
    rw [frames_cons, standsAt_append] at h
    have hread := readMessage?_of_frame (α := α) (s := ⟨bytes, place, none⟩) rfl hfirst h.1
    simp only [decode_encode hfirst] at hread
    simp only [List.length_cons, readAllIn, hread, ih hrest h.2, endsFrom, frames_cons,
      ByteArray.size_append, Nat.add_assoc]

/-! ### Round trips -/

/-- What becomes of messages that are written one after another, on a stream that goes on with other
bytes. -/
structure RoundTrips (ms : List α) (rest : ByteArray) : Prop where
  /-- All of them are written. -/
  written : (writeAll {} ms).1 = List.replicate ms.length (.ok ())
  /-- As many calls read them again, in order, and leave the other bytes. -/
  read : (readAllIn false ms.length ⟨(writeAll {} ms).2.bytes ++ rest, 0, none⟩ : Reading α) =
    ⟨endsFrom 0 ms, none, ⟨(writeAll {} ms).2.bytes ++ rest, (writeAll {} ms).2.bytes.size, none⟩⟩
  /-- If there are no other bytes, one more call finds no message. -/
  ended : rest = ByteArray.empty →
    (readMessage? ⟨(writeAll {} ms).2.bytes ++ rest, (writeAll {} ms).2.bytes.size, none⟩ :
        Except ReadFault (Option α) × Source) =
      (.ok none, ⟨(writeAll {} ms).2.bytes ++ rest, (writeAll {} ms).2.bytes.size, none⟩)

/-- A message is written exactly if it is not too long; of one that is too long, nothing is. -/
def WrittenIfShort (m : α) : Prop :=
  ∀ b : Buffer,
    (b.room = none → ((writeMessage b m).1 = .ok () ↔ (Message.encode m).size ≤ frameLimit)) ∧
      (frameLimit < (Message.encode m).size → (writeMessage b m).2 = b)

theorem roundTrips [Faithful α] {ms : List α}
    (fit : ∀ m ∈ ms, (Message.encode m).size ≤ frameLimit) (rest : ByteArray) :
    RoundTrips ms rest := by
  have hwritten : writeAll {} ms = (List.replicate ms.length (.ok ()), ⟨frames ms, none⟩) := by
    rw [writeAll_of_fit fit rfl, ByteArray.empty_append]
  have hstands : StandsAt (frames ms) (frames ms ++ rest) 0 := by
    have hbetween := standsAt_between ByteArray.empty (frames ms) rest
    rwa [ByteArray.empty_append] at hbetween
  constructor
  · rw [hwritten]
  · rw [hwritten, readAllIn_of_frames fit hstands, Nat.zero_add]
  · rintro rfl
    rw [hwritten, ByteArray.append_empty,
      readMessage?_of_short rfl (Nat.lt_add_of_pos_right (by decide)), Nat.max_self]

theorem writtenIfShort (m : α) : WrittenIfShort m := by
  intro b
  by_cases long : frameLimit < (Message.encode m).size
  · rw [writeMessage_of_long long]
    refine ⟨fun _ => ⟨fun h => absurd h (by simp), fun h => ?_⟩, fun _ => rfl⟩
    exact absurd h (Nat.not_le.2 long)
  · have fits := Nat.not_lt.1 long
    refine ⟨fun room => ?_, fun h => absurd h long⟩
    rw [writeMessage_of_fits fits room]
    exact ⟨fun _ => fits, fun _ => rfl⟩

end Streams

/-- **What is written is read.** Requests, and likewise responses, whose bodies are not too long are
all written, one after another; from the stream that they make, whatever follows, the same messages
are read in the same order, each call taking exactly one frame, and where nothing follows there is
no further message. A message is refused exactly if its body is too long, and then nothing of it is
written. -/
theorem streams_roundTrip (requests : List Request) (responses : List Response) (rest : ByteArray)
    (requestsFit : ∀ r ∈ requests, (encodeRequest r).size ≤ frameLimit)
    (responsesFit : ∀ r ∈ responses, (encodeResponse r).size ≤ frameLimit) :
    RoundTrips requests rest ∧ RoundTrips responses rest ∧
      (∀ r : Request, WrittenIfShort r) ∧ ∀ r : Response, WrittenIfShort r :=
  ⟨roundTrips requestsFit rest, roundTrips responsesFit rest, writtenIfShort, writtenIfShort⟩

/-- Requests with texts of one, two, three and four bytes a character, and with empty ones. -/
def mixedRequests : List Request :=
  [.submit ⟨"a", "\"ä€😀\""⟩, .ping, .submit ⟨"", ""⟩, .status]

/-- Responses with counters at the bounds between the forms of integers. -/
def boundaryResponses : List Response :=
  [.status ⟨250, 251, 65535, 65536, 4294967295, 4294967296⟩, .error "ä", .accepted, .pong]

theorem streams_roundTrip_boundaries :
    (∀ r ∈ mixedRequests, (encodeRequest r).size ≤ frameLimit) ∧
      (∀ r ∈ boundaryResponses, (encodeResponse r).size ≤ frameLimit) ∧
      (writeAll {} mixedRequests).2.bytes.size = 36 ∧
      (readAllIn false 4
          ⟨(writeAll {} boundaryResponses).2.bytes ++ [0, 0, 1].toByteArray, 0, none⟩ :
        Reading Response).messages =
        [(.status ⟨250, 251, 65535, 65536, 4294967295, 4294967296⟩, 31), (.error "ä", 39),
          (.accepted, 44), (.pong, 49)] := by
  have requestsFit : ∀ r ∈ mixedRequests, (encodeRequest r).size ≤ frameLimit := by decide
  have responsesFit : ∀ r ∈ boundaryResponses, (encodeResponse r).size ≤ frameLimit := by decide
  obtain ⟨-, hresponses, -, -⟩ := streams_roundTrip mixedRequests boundaryResponses
    [0, 0, 1].toByteArray requestsFit responsesFit
  have hread := hresponses.read
  rw [show boundaryResponses.length = 4 from rfl] at hread
  refine ⟨requestsFit, responsesFit, by decide, ?_⟩
  rw [hread]
  decide

end Wire

end EventBatching
