import EventBatching.Connection
import EventBatching.Proofs.Pipeline.Submitting
import EventBatching.Proofs.Wire.Stream

/-!
# A connection is answered request by request

Whoever serves a connection reads one frame after another. Each request that can be read and whose
answer can be written is answered before the next one is looked at, so the answers are those of the
longest run of such requests at the start of the stream; a submission whose payload is JSON brings
one record, and nothing else changes anything. What stops the service is what stands behind these
requests, and it is looked at only once.

* `Daemon.answer` and `Daemon.records` say what a request is answered and which record it brings;
  `Daemon.respond_eq` says that responding does just that.
* `Connection.Served` describes a connection that was served, and `Connection.serveIn_served` says
  that serving makes it so.
* `Connection.answerStream_answers` puts this together, and `Connection.overlongText_panics` is the
  stream on which serving stops in another way than by giving the connection up.
-/

namespace EventBatching

/-! ## Answers -/

namespace Daemon

open Wire (encodeResponse frameLimit)

variable {π ρ : Type}

/-- What a request is answered when the counters are as given. -/
def answer (counters : Counters) : Request → Response
  | .ping => .pong
  | .status => .status counters.status
  | .submit s =>
    match Json.parse s.payload with
    | .ok _ => .accepted
    | .error e => .error (payloadError s.category e)

/-- The records that a request brings: one, if it submits a payload that is JSON. -/
def records : Request → List Record
  | .ping => []
  | .status => []
  | .submit s =>
    match Json.parse s.payload with
    | .ok payload => [⟨s.category, payload⟩]
    | .error _ => []

/-- What requests are answered, one after another: each sees the counters that those before it left.
-/
def answers (d : Downstream π ρ) (p : Pipeline π ρ) : List Request → List Response
  | [] => []
  | r :: rest => answer p.counters r :: answers d (p.submitAll d (records r)) rest

@[simp] theorem length_answers (d : Downstream π ρ) (p : Pipeline π ρ) (rs : List Request) :
    (answers d p rs).length = rs.length := by
  induction rs generalizing p with
  | nil => rfl
  | cons r rest ih => simp [answers, ih]

theorem answers_append (d : Downstream π ρ) (p : Pipeline π ρ) (rs rs' : List Request) :
    answers d p (rs ++ rs') =
      answers d p rs ++ answers d (p.submitAll d (rs.flatMap records)) rs' := by
  induction rs generalizing p with
  | nil => rfl
  | cons r rest ih =>
    simp only [List.cons_append, answers, ih, List.flatMap_cons, Pipeline.submitAll_append]

/-- To respond is to answer and to submit the record that the request brings, if it brings one. -/
theorem respond_eq (d : Downstream π ρ) (p : Pipeline π ρ) (r : Request) :
    respond d p r = (answer (p.settle d).counters r, (p.settle d).submitAll d (records r)) := by
  cases r with
  | ping => rfl
  | status => rfl
  | submit s =>
    simp only [respond, Daemon.submit, answer, records]
    cases Json.parse s.payload with
    | ok payload => rfl
    | error e => rfl

/-! ### Answers that can be written -/

/-- The answer to a request can be written, whatever the counters are. -/
def Answerable (r : Request) : Prop :=
  ∀ counters, (encodeResponse (answer counters r)).size ≤ frameLimit

/-- The counters never decide whether an answer can be written. -/
theorem answerable_iff {r : Request} (counters : Counters) :
    Answerable r ↔ (encodeResponse (answer counters r)).size ≤ frameLimit := by
  constructor
  · intro h
    exact h counters
  · intro h other
    cases r with
    | ping => exact h
    | submit s => exact h
    | status =>
      have hstatus := Wire.size_encodeStatus_le other.status
      have hlimit : 55 ≤ frameLimit := by decide
      show (Wire.Varint.encode 2 ++ Wire.encodeStatus other.status).size ≤ frameLimit
      rw [ByteArray.size_append, Wire.Varint.size_encode, if_pos (by decide)]
      omega

instance : DecidablePred Answerable := fun _ => decidable_of_iff _ (answerable_iff {}).symm

/-- Only the answer to a payload that is no JSON may be too long, so such a request brings nothing.
-/
theorem records_of_not_answerable {r : Request} (h : ¬Answerable r) : records r = [] := by
  cases r with
  | ping => rfl
  | status => rfl
  | submit s =>
    rw [answerable_iff {}] at h
    simp only [answer] at h
    simp only [records]
    cases hparsed : Json.parse s.payload with
    | ok payload =>
      simp only [hparsed] at h
      exact absurd (by decide) h
    | error e => rfl

theorem encodeFrame_of_answerable {r : Request} (h : Answerable r) (counters : Counters) :
    Wire.encodeFrame (answer counters r) =
      .ok (Wire.frame (encodeResponse (answer counters r))) :=
  if_neg (Nat.not_lt.2 (h counters))

theorem encodeFrame_of_not_answerable {r : Request} (h : ¬Answerable r) (counters : Counters) :
    Wire.encodeFrame (answer counters r) =
      .error (.messageTooLong (encodeResponse (answer counters r)).size) := by
  rw [answerable_iff counters, Nat.not_le] at h
  exact if_pos h

end Daemon

/-- A publisher that takes every batch, and the standard policy. -/
def Downstream.quiet : Downstream Unit Unit :=
  ⟨fun _ _ _ _ => (.published, ()), .logAndDrop Unit⟩

/-! ## Serving -/

namespace Connection

open Wire (AnnouncesOverlong Carries StandsAt decodeRequest decodeRequest_eq_textTooLong_iff
  decodeText decodeVariant encodeResponse frame frameLimit)
open Daemon (Answerable answer answers records)

variable {π ρ : Type}

/-- A frame stands at a place whose body is that of an event up to a text that is announced as
longer than any piece of memory. -/
def Overlong (bytes : ByteArray) (place : Nat) : Prop :=
  ∃ (body : ByteArray) (next : Nat), StandsAt (frame body) bytes place ∧ body.size ≤ frameLimit ∧
    decodeVariant 3 body = .ok (0, next) ∧
    (AnnouncesOverlong body next ∨
      ∃ category next', decodeText body next = .ok (category, next') ∧
        AnnouncesOverlong body next')

theorem overlong_iff {bytes : ByteArray} {place : Nat} :
    Overlong bytes place ↔
      ∃ body : ByteArray, StandsAt (frame body) bytes place ∧ body.size ≤ frameLimit ∧
        decodeRequest body = .error .textTooLong := by
  simp only [decodeRequest_eq_textTooLong_iff]
  constructor
  · rintro ⟨body, next, stands, fits, hannounced⟩
    exact ⟨body, stands, fits, next, hannounced⟩
  · rintro ⟨body, stands, fits, next, hannounced⟩
    exact ⟨body, next, stands, fits, hannounced⟩

/-- How a connection ends at a place of its stream. -/
inductive EndsAt (bytes : ByteArray) (place : Nat) : Ending → Prop
  | closed (short : bytes.size < place + 4) : EndsAt bytes place .closed
  | panicked (overlong : Overlong bytes place) : EndsAt bytes place (.panicked Memory.overflow)
  | unreadable {fault : Wire.ReadFault} (there : place + 4 ≤ bytes.size)
      (unread : ∀ (r : Request) rest stop, ¬Carries bytes place (r :: rest) stop)
      (bounded : ¬Overlong bytes place) : EndsAt bytes place (.givenUp (.unreadable fault))
  | unwritable {r : Request} {stop : Nat} (read : Carries bytes place [r] stop)
      (long : ¬Answerable r) (counters : Counters) :
      EndsAt bytes place
        (.givenUp (.unwritable (.messageTooLong (encodeResponse (answer counters r)).size)))

/-- What came of serving a connection from a place of its stream on. -/
structure Served (d : Downstream π ρ) (bytes : ByteArray) (place : Nat) (p : Pipeline π ρ)
    (before : List Response) (c : Connection) (after : Pipeline π ρ) (requests : List Request)
    (stop : Nat) : Prop where
  /-- Requests stand in the stream up to the place where the service stopped. -/
  carries : Carries bytes place requests stop
  /-- Their answers can be written. -/
  answerable : ∀ r ∈ requests, Answerable r
  /-- They were answered. -/
  responses_eq : c.responses.toList = before ++ answers d (p.settle d) requests
  /-- They brought their records, and nothing else. -/
  settle_eq : after.settle d = (p.settle d).submitAll d (requests.flatMap records)
  /-- What stands behind them stopped the service. -/
  ended : ∃ ending, c.ended = some ending ∧ EndsAt bytes stop ending

/-- Where no frame has room, nothing is carried and no text is announced. -/
theorem not_carries_of_short {bytes : ByteArray} {place : Nat} (short : bytes.size < place + 4)
    (r : Request) (rest : List Request) (stop : Nat) : ¬Carries bytes place (r :: rest) stop := by
  intro h
  obtain ⟨next, -, hnext, hle, -⟩ := h.readMessage?
  omega

theorem not_carries_of_fault {bytes : ByteArray} {place : Nat} {fault : Wire.ReadFault}
    (h : (Wire.readMessage? ⟨bytes, place, none⟩ :
      Except Wire.ReadFault (Option Request) × Source).1 = .error fault)
    (r : Request) (rest : List Request) (stop : Nat) : ¬Carries bytes place (r :: rest) stop := by
  intro hcarries
  obtain ⟨next, hread, -⟩ := hcarries.readMessage?
  rw [hread] at h
  exact absurd h (by simp)

theorem Overlong.readMessage? {bytes : ByteArray} {place : Nat} (h : Overlong bytes place) :
    (Wire.readMessage? ⟨bytes, place, none⟩ :
      Except Wire.ReadFault (Option Request) × Source).1 = .error (.malformed .textTooLong) := by
  obtain ⟨body, stands, fits, decoded⟩ := overlong_iff.1 h
  have hdecoded : (Wire.Message.decode body : Except Wire.DecodeFault Request) =
    .error .textTooLong := decoded
  rw [Wire.readMessage?_of_frame rfl fits stands, hdecoded]

/-- A fault that is not a text too long gives a connection up. -/
theorem endsAt_of_fault {bytes : ByteArray} {place : Nat} (there : place + 4 ≤ bytes.size)
    {fault : Wire.ReadFault}
    (h : (Wire.readMessage? ⟨bytes, place, none⟩ :
      Except Wire.ReadFault (Option Request) × Source).1 = .error fault)
    (bounded : fault ≠ .malformed .textTooLong) :
    EndsAt bytes place (.ofReadFault fault) := by
  have hgiven : Ending.ofReadFault fault = .givenUp (.unreadable fault) := by
    cases fault with
    | malformed fault =>
      cases fault with
      | textTooLong => exact absurd rfl bounded
      | _ => rfl
    | _ => rfl
  rw [hgiven]
  refine .unreadable there (not_carries_of_fault h) ?_
  intro overlong
  rw [overlong.readMessage?] at h
  exact bounded (Except.error.inj h).symm

variable {d : Downstream π ρ} {bytes : ByteArray}

/-- A connection that ends at a place has answered nothing there. -/
theorem served_nothing {place : Nat} {p after : Pipeline π ρ} {before : List Response}
    {c : Connection} {ending : Ending} (responses : c.responses.toList = before)
    (same : after.settle d = p.settle d) (ended : c.ended = some ending)
    (ends : EndsAt bytes place ending) : Served d bytes place p before c after [] place where
  carries := .done place
  answerable := fun _ h => absurd h List.not_mem_nil
  responses_eq := by rw [responses, answers, List.append_nil]
  settle_eq := same
  ended := ⟨ending, ended, ends⟩

theorem isWaiting_of_closed {c : Connection} (closed : c.closed = true) (fault : Wire.ReadFault) :
    c.isWaiting fault = false := by
  cases fault with
  | bodyCut => rw [isWaiting, closed]; rfl
  | _ => rfl

/-! ### One step -/

section Step

variable {steps : Nat} {c : Connection} {p : Pipeline π ρ} {r : Request} {here left : Source}

theorem serveIn_of_end (source : c.source = here) (closed : c.closed = true)
    (h : Wire.readMessage? here = (.ok (none : Option Request), left)) :
    serveIn d (steps + 1) c p = (c.finish .closed, p) := by
  simp [serveIn, source, h, closed]

theorem serveIn_of_fault (source : c.source = here) (closed : c.closed = true)
    {fault : Wire.ReadFault}
    (h : (Wire.readMessage? here : Except Wire.ReadFault (Option Request) × Source) =
      (.error fault, left)) :
    serveIn d (steps + 1) c p = (c.finish (.ofReadFault fault), p) := by
  simp [serveIn, source, h, isWaiting_of_closed closed]

theorem serveIn_of_answerable (source : c.source = here)
    (h : Wire.readMessage? here = (.ok (some r), left)) (answerable : Answerable r) :
    serveIn d (steps + 1) c p = serveIn d steps
      { c with source := left, responses := c.responses.push (answer (p.settle d).counters r) }
      ((p.settle d).submitAll d (records r)) := by
  have hframe := Daemon.encodeFrame_of_answerable answerable (p.settle d).counters
  simp only [serveIn, source, h, Daemon.respond_eq, hframe]

/-- A request whose answer is too long ends the connection and brings nothing. -/
theorem serveIn_of_long (source : c.source = here)
    (h : Wire.readMessage? here = (.ok (some r), left)) (long : ¬Answerable r) :
    serveIn d (steps + 1) c p =
      ({ c with source := left }.finish (.givenUp (.unwritable (.messageTooLong
        (encodeResponse (answer (p.settle d).counters r)).size))), p.settle d) := by
  have hframe := Daemon.encodeFrame_of_not_answerable long (p.settle d).counters
  have hnone : (p.settle d).submitAll d (records r) = p.settle d := by
    rw [Daemon.records_of_not_answerable long, Pipeline.submitAll_nil]
  simp only [serveIn, source, h, Daemon.respond_eq, hframe, hnone]

end Step

/-- One step either is the last one, and answers nothing, or it answers the request whose frame
stands there and goes on behind it. -/
theorem serveIn_cases {place : Nat} {c : Connection} {p : Pipeline π ρ}
    (source : c.source = ⟨bytes, place, none⟩) (closed : c.closed = true) (steps : Nat) :
    Served d bytes place p c.responses.toList (serveIn d (steps + 1) c p).1
        (serveIn d (steps + 1) c p).2 [] place ∨
      ∃ (body : ByteArray) (r : Request), StandsAt (frame body) bytes place ∧
        body.size ≤ frameLimit ∧ decodeRequest body = .ok r ∧ Answerable r ∧
        serveIn d (steps + 1) c p = serveIn d steps
          { c with
            source := ⟨bytes, place + (frame body).size, none⟩
            responses := c.responses.push (answer (p.settle d).counters r) }
          ((p.settle d).submitAll d (records r)) := by
  rcases Wire.readMessage?_cases (α := Request) (s := ⟨bytes, place, none⟩) rfl with
    ⟨short, -⟩ | ⟨body, fits, stands⟩ | ⟨there, fault, hkind, hfault⟩
  · have hread := Wire.readMessage?_of_short (α := Request) (s := ⟨bytes, place, none⟩) rfl short
    rw [serveIn_of_end source closed hread]
    exact .inl (served_nothing rfl rfl rfl (.closed short))
  · have stands : StandsAt (frame body) bytes place := stands
    have hread := Wire.readMessage?_of_frame (α := Request) (s := ⟨bytes, place, none⟩) rfl fits
      stands
    cases hdecoded : (Wire.Message.decode body : Except Wire.DecodeFault Request) with
    | error fault =>
      have hroom : place + 4 ≤ bytes.size := by
        have hle := stands.1
        rw [Wire.size_frame] at hle
        omega
      rw [hdecoded] at hread
      rw [serveIn_of_fault source closed hread]
      refine .inl (served_nothing rfl rfl rfl ?_)
      by_cases hlong : fault = .textTooLong
      · subst hlong
        exact .panicked (overlong_iff.2 ⟨body, stands, fits, hdecoded⟩)
      · exact endsAt_of_fault hroom (by rw [hread]) (by simpa using hlong)
    | ok r =>
      rw [hdecoded] at hread
      by_cases hanswer : Answerable r
      · rw [serveIn_of_answerable source hread hanswer]
        exact .inr ⟨body, r, stands, fits, hdecoded, hanswer, rfl⟩
      · rw [serveIn_of_long source hread hanswer]
        refine .inl (served_nothing rfl ?_ rfl
          (.unwritable (.next stands fits hdecoded (.done _)) hanswer _))
        exact (Pipeline.settled_settle d p).settle_eq d
  · rcases hread : (Wire.readMessage? ⟨bytes, place, none⟩ :
        Except Wire.ReadFault (Option Request) × Source) with ⟨read, left⟩
    rw [hread] at hfault
    obtain rfl : read = .error fault := hfault
    rw [serveIn_of_fault source closed hread]
    refine .inl (served_nothing rfl rfl rfl (endsAt_of_fault there (by rw [hread]) ?_))
    rcases hkind with rfl | ⟨length, rfl⟩
    · simp
    · simp

/-! ### All steps -/

/-- A request that is answered comes before those that are answered after it. -/
theorem Served.cons {place stop : Nat} {body : ByteArray} {r : Request} {requests : List Request}
    {p after : Pipeline π ρ} {before : List Response} {c : Connection}
    (stands : StandsAt (frame body) bytes place) (fits : body.size ≤ frameLimit)
    (decoded : decodeRequest body = .ok r) (answerable : Answerable r)
    (later : Served d bytes (place + (frame body).size) ((p.settle d).submitAll d (records r))
      (before ++ [Daemon.answer (p.settle d).counters r]) c after requests stop) :
    Served d bytes place p before c after (r :: requests) stop := by
  have hsettled : ((p.settle d).submitAll d (records r)).settle d =
      (p.settle d).submitAll d (records r) :=
    ((Pipeline.settled_settle d p).submitAll d (records r)).settle_eq d
  refine ⟨.next stands fits decoded later.carries, ?_, ?_, ?_, later.ended⟩
  · intro r' hr'
    rcases List.mem_cons.1 hr' with rfl | hr'
    · exact answerable
    · exact later.answerable r' hr'
  · rw [later.responses_eq, hsettled, answers, List.append_assoc, List.singleton_append]
  · rw [later.settle_eq, hsettled, List.flatMap_cons, Pipeline.submitAll_append]

/-- Serving a connection whose client has stopped writing answers the requests that stand in its
stream, in as many steps as there can be frames. -/
theorem serveIn_served {steps place : Nat} {c : Connection} {p : Pipeline π ρ}
    (source : c.source = ⟨bytes, place, none⟩) (closed : c.closed = true)
    (enough : (bytes.size - place) / 4 < steps) :
    ∃ requests stop, Served d bytes place p c.responses.toList (serveIn d steps c p).1
      (serveIn d steps c p).2 requests stop := by
  -- on the steps; one frame, which takes at least four bytes, is used up in each
  induction steps generalizing place c p with
  | zero => exact absurd enough (Nat.not_lt_zero _)
  | succ steps ih =>
    rcases serveIn_cases source closed steps with
      hlast | ⟨body, r, stands, fits, decoded, hanswer, hnext⟩
    · exact ⟨[], place, hlast⟩
    · have hless : (bytes.size - (place + (frame body).size)) / 4 < steps := by
        have hle := stands.1
        rw [Wire.size_frame] at hle ⊢
        omega
      rw [hnext]
      obtain ⟨requests, stop, hserved⟩ := ih
        (c := { c with
          source := ⟨bytes, place + (frame body).size, none⟩
          responses := c.responses.push (answer (p.settle d).counters r) })
        (p := (p.settle d).submitAll d (records r)) rfl closed hless
      rw [Arrivals.toList_push] at hserved
      exact ⟨r :: requests, stop, hserved.cons stands fits decoded hanswer⟩

/-! ## The longest run of requests -/

/-- A request at which a connection ends is one whose answer is too long. -/
theorem EndsAt.of_carries {place stop : Nat} {ending : Ending} {r : Request} {rest : List Request}
    (ends : EndsAt bytes place ending) (carries : Carries bytes place (r :: rest) stop) :
    ¬Answerable r ∧ ∃ counters,
      ending = .givenUp (.unwritable (.messageTooLong (encodeResponse (answer counters r)).size)) := by
  cases ends with
  | closed short => exact absurd carries (not_carries_of_short short r rest stop)
  | panicked overlong =>
    exact absurd carries (not_carries_of_fault overlong.readMessage? r rest stop)
  | unreadable there unread bounded => exact absurd carries (unread r rest stop)
  | unwritable read long counters =>
    obtain rfl := carries.head_eq read
    exact ⟨long, counters, rfl⟩

/-- Whatever requests stand in the stream from a place on, if their answers can be written, they are
the first of those that are answered. -/
theorem isPrefix_of_endsAt {place stop stop' : Nat} {requests rs : List Request} {ending : Ending}
    (carries : Carries bytes place requests stop) (ends : EndsAt bytes stop ending)
    (others : Carries bytes place rs stop') (answerable : ∀ r ∈ rs, Answerable r) :
    rs <+: requests := by
  apply carries.isPrefix others
  intro r hr later stop'' carries
  exact (ends.of_carries carries).1 (answerable r hr)

/-- The frames at the start of a stream, up to a place, carry requests whose answers can be written,
and there is no longer run of such frames. -/
structure Longest (bytes : ByteArray) (requests : List Request) (stop : Nat) : Prop where
  /-- They stand there. -/
  carries : Carries bytes 0 requests stop
  /-- Their answers can be written. -/
  answerable : ∀ r ∈ requests, Answerable r
  /-- All other runs are shorter. -/
  longest : ∀ rs stop', Carries bytes 0 rs stop' → (∀ r ∈ rs, Answerable r) → rs <+: requests

/-- How a connection ends behind the requests that were answered: well, if the stream ends there
too, and given up otherwise; but whoever serves it does not survive a text that is announced as
longer than any piece of memory. -/
structure EndsWell (bytes : ByteArray) (stop : Nat) (ended : Option Ending) : Prop where
  /-- The stream ends. -/
  closed : bytes.size < stop + 4 → ended = some .closed
  /-- What comes next is no request, or its answer cannot be written. -/
  givenUp : stop + 4 ≤ bytes.size → ¬Overlong bytes stop → ∃ fault, ended = some (.givenUp fault)
  /-- What comes next announces too long a text. -/
  panicked : Overlong bytes stop → ended = some (.panicked Memory.overflow)

theorem EndsAt.endsWell {stop : Nat} {ending : Ending} (h : EndsAt bytes stop ending) :
    EndsWell bytes stop (some ending) := by
  have hroom : Overlong bytes stop → stop + 4 ≤ bytes.size := by
    rintro ⟨body, next, stands, -⟩
    have hle := stands.1
    rw [Wire.size_frame] at hle
    omega
  cases h with
  | closed short =>
    refine ⟨fun _ => rfl, ?_, ?_⟩
    · intro there
      omega
    · intro overlong
      have := hroom overlong
      omega
  | panicked overlong =>
    refine ⟨?_, fun _ bounded => absurd overlong bounded, fun _ => rfl⟩
    intro short
    have := hroom overlong
    omega
  | unreadable there unread bounded =>
    refine ⟨?_, fun _ _ => ⟨_, rfl⟩, fun overlong => absurd overlong bounded⟩
    intro short
    omega
  | @unwritable r _ read long counters =>
    refine ⟨?_, fun _ _ => ⟨_, rfl⟩, ?_⟩
    · intro short
      exact absurd read (not_carries_of_short short r [] _)
    · intro overlong
      exact absurd read (not_carries_of_fault overlong.readMessage? r [] _)

/-- What came of a connection whose client wrote `bytes` and then stopped writing. -/
theorem answerStream_served (d : Downstream π ρ) (bytes : ByteArray) (p : Pipeline π ρ) :
    ∃ requests stop, Served d bytes 0 p [] (answerStream d bytes p).1 (answerStream d bytes p).2
      requests stop := by
  let c : Connection := (({} : Connection).write bytes).close
  have hsource : c.source = ⟨bytes, 0, none⟩ := by
    show (⟨ByteArray.empty ++ bytes, 0, none⟩ : Source) = _
    rw [ByteArray.empty_append]
  have hserve : answerStream d bytes p = serveIn d (bytes.size / 4 + 1) c p := by
    show serve d c p = _
    simp [serve, hsource, show c.ended = none from rfl]
  rw [hserve]
  exact serveIn_served hsource rfl (Nat.lt_succ_self _)

/-- **A connection is answered request by request.** Take the longest run of requests at the start
of what a client writes that can be read and whose answers can be written. Exactly these are
answered, in order, each by what the counters are when those before it have been answered. Nothing
changes but by the records that they bring: every record raises one of the two numbers of records by
one, and what the collector then does with it is all that happens besides. Behind them the
connection ends, and only a text announced as longer than any piece of memory makes it end otherwise
than with or without a fault. -/
theorem answerStream_answers (d : Downstream π ρ) (bytes : ByteArray) (p : Pipeline π ρ) :
    ∃ requests stop, Longest bytes requests stop ∧
      (answerStream d bytes p).1.responses.toList = answers d (p.settle d) requests ∧
      (answerStream d bytes p).2.settle d =
        (p.settle d).submitAll d (requests.flatMap records) ∧
      (∀ (q : Pipeline π ρ) (r : Record), q.counters.OneMore (q.submit d r).counters) ∧
      (answerStream d bytes p).2.counters.accepted + (answerStream d bytes p).2.counters.dropped =
        p.counters.accepted + p.counters.dropped + (requests.flatMap records).length ∧
      (p.collector = none → ((answerStream d bytes p).2.settle d).counters =
        { p.counters with
          accepted := ((answerStream d bytes p).2.settle d).counters.accepted
          dropped := ((answerStream d bytes p).2.settle d).counters.dropped }) ∧
      EndsWell bytes stop (answerStream d bytes p).1.ended := by
  obtain ⟨requests, stop, served⟩ := answerStream_served d bytes p
  obtain ⟨ending, hended, hends⟩ := served.ended
  refine ⟨requests, stop, ⟨served.carries, served.answerable, ?_⟩, ?_, served.settle_eq,
    fun q r => q.submit_oneMore d r, ?_, ?_, ?_⟩
  · intro rs stop' others answerable
    exact isPrefix_of_endsAt served.carries hends others answerable
  · rw [served.responses_eq, List.nil_append]
  · have htotal := Pipeline.submitAll_total d (requests.flatMap records) (p.settle d)
    rw [← served.settle_eq] at htotal
    obtain ⟨haccepted, hdropped⟩ := Pipeline.settle_counts d p
    obtain ⟨haccepted', hdropped'⟩ := Pipeline.settle_counts d (answerStream d bytes p).2
    simp only [Pipeline.counters] at htotal ⊢
    omega
  · intro idle
    have hsettle : p.settle d = p := by rw [Pipeline.settle, idle]
    rw [served.settle_eq, hsettle]
    exact Pipeline.submitAll_of_idle idle d _
  · rw [hended]
    exact hends.endsWell

/-- The frame of an event whose category is announced as having `2 ^ 63` bytes. -/
def overlongText : ByteArray := [0, 0, 0, 10, 0, 253, 0, 0, 0, 0, 0, 0, 0, 128].toByteArray

/-- Whoever serves a connection panics over a text that is announced as too long. -/
theorem overlongText_panics :
    Longest overlongText [] 0 ∧ 0 + 4 ≤ overlongText.size ∧
      ∃ p, Pipeline.make {} () () false = .ok p ∧
        (answerStream .quiet overlongText p).1.ended =
          some (.panicked "capacity overflow") := by
  have overlong : Overlong overlongText 0 :=
    ⟨overlongText.extract 4 14, 1, by unfold StandsAt; decide, by decide, rfl,
      .inl ⟨0x8000000000000000, 10, rfl, by decide⟩⟩
  have hnothing : ∀ rs stop', Carries overlongText 0 rs stop' → (∀ r ∈ rs, Answerable r) →
      rs <+: [] := by
    intro rs stop' carries answerable
    exact isPrefix_of_endsAt (.done 0) (.panicked overlong) carries answerable
  refine ⟨⟨.done 0, by simp, hnothing⟩, by decide, _, rfl, ?_⟩
  rfl

end Connection

end EventBatching
