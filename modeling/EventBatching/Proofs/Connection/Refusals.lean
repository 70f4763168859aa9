import EventBatching.Proofs.Connection.Answers
import EventBatching.Proofs.Json.Place

/-!
# Payloads that are no JSON

A payload that is no JSON is answered with an error that repeats the category, so the answer can be
longer than the request was. Whether it can still be written depends on the category and on what is
wrong with the payload, and the limit is close to that for requests: a category that leaves some
hundred bytes of the longest frame is never too long.

* `Daemon.Tellable` says that category and fault are short enough; `Daemon.answerable_iff_tellable`
  says that this is what decides, and `Daemon.tellable_of_short` that the fault hardly matters.
* `Connection.answerStream_of_requests` says how far a stream of requests is answered, and
  `Connection.answerStream_tellable` what a payload that is no JSON has to do with it.
* `Connection.longCategory_costs` is an event that can be read and costs the connection.
-/

namespace EventBatching

/-! ## How long an error becomes -/

namespace Daemon

open Wire (encodeResponse encodeText frameLimit)

/-- How many bytes of the longest answer are left for a category and a fault: six of the others are
for the index and the length, and 27 for the words around the two. -/
def faultRoom : Nat := frameLimit - (6 + 27)

/-- If the payload of a request is no JSON, its category and the fault are short enough to be told.
-/
def Tellable : Request → Prop
  | .ping => True
  | .status => True
  | .submit s => ∀ e, Json.parse s.payload = .error e →
      s.category.utf8ByteSize + e.message.utf8ByteSize ≤ faultRoom

theorem utf8ByteSize_payloadError (category : String) (e : Json.ParseError) :
    (payloadError category e).utf8ByteSize =
      category.utf8ByteSize + e.message.utf8ByteSize + 27 := by
  have htext : payloadError category e =
      "invalid JSON payload for " ++ category ++ ": " ++ e.message := rfl
  have hstart : "invalid JSON payload for ".utf8ByteSize = 25 := by decide
  have hcolon : ": ".utf8ByteSize = 2 := by decide
  simp only [htext, String.utf8ByteSize_append, hstart, hcolon]
  omega

theorem size_encodeResponse_error (text : String) :
    (encodeResponse (.error text)).size =
      1 + (Wire.Varint.encode text.utf8ByteSize).size + text.utf8ByteSize := by
  show (Wire.Varint.encode 3 ++ encodeText text).size = _
  rw [ByteArray.size_append, Wire.size_encodeText, Wire.Varint.size_encode 3, if_pos (by decide),
    Nat.add_assoc]

/-- The index of an error takes one byte, and its length five if it is long. -/
theorem size_encodeResponse_error_le_iff (text : String) :
    (encodeResponse (.error text)).size ≤ frameLimit ↔ text.utf8ByteSize + 6 ≤ frameLimit := by
  have hlimit : frameLimit = 16777216 := by decide
  rw [size_encodeResponse_error, Wire.Varint.size_encode, hlimit]
  split
  · omega
  · split
    · omega
    · split <;> omega

theorem size_payloadError_le_iff (category : String) (e : Json.ParseError) :
    (encodeResponse (.error (payloadError category e))).size ≤ frameLimit ↔
      category.utf8ByteSize + e.message.utf8ByteSize ≤ faultRoom := by
  have hlimit : frameLimit = 16777216 := by decide
  rw [size_encodeResponse_error_le_iff, utf8ByteSize_payloadError, faultRoom, hlimit]
  omega

/-- Whether an answer can be written depends on nothing but the category and the fault. -/
theorem answerable_iff_tellable {r : Request} : Answerable r ↔ Tellable r := by
  rw [answerable_iff {}]
  cases r with
  | ping => exact iff_of_true (by decide : (encodeResponse .pong).size ≤ frameLimit) trivial
  | status =>
    exact iff_of_true
      (by decide : (encodeResponse (.status (Counters.status {}))).size ≤ frameLimit) trivial
  | submit s =>
    simp only [answer, Tellable]
    cases hparsed : Json.parse s.payload with
    | ok payload =>
      refine iff_of_true (by decide : (encodeResponse .accepted).size ≤ frameLimit) ?_
      intro e h
      exact absurd h (by simp)
    | error e =>
      rw [size_payloadError_le_iff]
      constructor
      · rintro h _ ⟨⟩
        exact h
      · intro h
        exact h e rfl

instance : DecidablePred Tellable := fun _ => decidable_of_iff _ answerable_iff_tellable

/-- An event that a frame can carry is tellable if its category leaves 128 bytes of the longest
frame, whatever is wrong with its payload. -/
theorem tellable_of_short {s : Submission}
    (carried : s.category.utf8ByteSize + s.payload.utf8ByteSize ≤ frameLimit)
    (short : s.category.utf8ByteSize + 128 ≤ frameLimit) : Tellable (.submit s) := by
  intro e hparsed
  have hlimit : frameLimit = 16777216 := by decide
  have hmessage := Json.utf8ByteSize_message_le hparsed (by omega)
  rw [faultRoom]
  omega

/-- A payload that is no JSON is answered with an error, and nothing else is answered otherwise for
it. -/
theorem answers_of_malformed {π ρ : Type} {d : Downstream π ρ} {p : Pipeline π ρ}
    {requests before after : List Request} {s : Submission} {e : Json.ParseError}
    (hrequests : requests = before ++ .submit s :: after)
    (malformed : Json.parse s.payload = .error e) :
    ∃ first later, answers d p requests = first ++ .error (payloadError s.category e) :: later ∧
      answers d p (before ++ after) = first ++ later ∧ first.length = before.length := by
  have hanswer : ∀ counters, answer counters (.submit s) =
      .error (payloadError s.category e) := by
    intro counters
    simp [answer, malformed]
  have hrecords : records (.submit s) = [] := by simp [records, malformed]
  refine ⟨answers d p before, answers d (p.submitAll d (before.flatMap records)) after, ?_,
    answers_append d p before after, length_answers d p before⟩
  rw [hrequests, answers_append, answers, hanswer, hrecords, Pipeline.submitAll_nil]

end Daemon

/-! ## Streams of requests -/

namespace Connection

open Wire (Carries encodeResponse frameLimit)
open Daemon (Answerable Tellable answer answers answerable_iff_tellable)

variable {π ρ : Type} {bytes : ByteArray}

/-- What frames carry has its texts in them. -/
theorem le_of_carries {place stop : Nat} {requests : List Request} {s : Submission}
    (carries : Carries bytes place requests stop) (mem : .submit s ∈ requests) :
    s.category.utf8ByteSize + s.payload.utf8ByteSize ≤ frameLimit := by
  induction carries with
  | done place => exact absurd mem List.not_mem_nil
  | @next _ _ body r rest stands fits decoded later ih =>
    rcases List.mem_cons.1 mem with rfl | hrest
    · exact Nat.le_trans (Wire.le_of_decodeRequest decoded) fits
    · exact ih hrest

/-- Up to the first member that does not meet a condition, all are taken. -/
theorem takeWhile_of_first {α : Type} {P : α → Prop} [DecidablePred P] {before rest : List α}
    (all : ∀ a ∈ before, P a) (first : ∀ a later, rest = a :: later → ¬P a) :
    (before ++ rest).takeWhile (fun a => decide (P a)) = before := by
  rw [List.takeWhile_append_of_pos (by simpa using all)]
  cases rest with
  | nil => simp
  | cons a later => simp [first a later rfl]

/-- A stream that is nothing but requests is answered up to the first answer that is too long. -/
theorem answerStream_of_requests {requests : List Request} {stop : Nat}
    (carries : Carries bytes 0 requests stop) (ends : bytes.size < stop + 4)
    (d : Downstream π ρ) (p : Pipeline π ρ) :
    ∃ answered rest, requests = answered ++ rest ∧ (∀ r ∈ answered, Answerable r) ∧
      (answerStream d bytes p).1.responses.toList = answers d (p.settle d) answered ∧
      (rest = [] → (answerStream d bytes p).1.ended = some .closed) ∧
      ∀ r later, rest = r :: later → ¬Answerable r ∧ ∃ counters,
        (answerStream d bytes p).1.ended = some (.givenUp (.unwritable
          (.messageTooLong (encodeResponse (answer counters r)).size))) := by
  obtain ⟨answered, place, served⟩ := answerStream_served d bytes p
  obtain ⟨ending, hended, hends⟩ := served.ended
  obtain ⟨rest, rfl⟩ : answered <+: requests := by
    apply carries.isPrefix served.carries
    intro r _ later stop'
    exact not_carries_of_short ends r later stop'
  have hrest : Carries bytes place rest stop := served.carries.rest carries
  refine ⟨answered, rest, rfl, served.answerable, served.responses_eq, ?_, ?_⟩
  · rintro rfl
    cases hrest
    rw [hended]
    exact hends.endsWell.closed ends
  · rintro r later rfl
    obtain ⟨long, counters, rfl⟩ := hends.of_carries hrest
    exact ⟨long, counters, hended⟩

theorem answerStream_of_answerable {requests : List Request} {stop : Nat}
    (carries : Carries bytes 0 requests stop) (ends : bytes.size < stop + 4)
    (answerable : ∀ r ∈ requests, Answerable r) (d : Downstream π ρ) (p : Pipeline π ρ) :
    (answerStream d bytes p).1.responses.toList = answers d (p.settle d) requests ∧
      (answerStream d bytes p).1.ended = some .closed := by
  obtain ⟨answered, rest, rfl, -, hresponses, hclosed, hlong⟩ :=
    answerStream_of_requests carries ends d p
  cases rest with
  | nil =>
    rw [List.append_nil]
    exact ⟨hresponses, hclosed rfl⟩
  | cons r later => exact absurd (answerable r (by simp)) (hlong r later rfl).1

theorem answerStream_of_first {before after : List Request} {r : Request} {stop : Nat}
    (carries : Carries bytes 0 (before ++ r :: after) stop) (ends : bytes.size < stop + 4)
    (answerable : ∀ r' ∈ before, Answerable r') (long : ¬Answerable r)
    (d : Downstream π ρ) (p : Pipeline π ρ) :
    (answerStream d bytes p).1.responses.toList = answers d (p.settle d) before ∧
      ∃ counters, (answerStream d bytes p).1.ended = some (.givenUp (.unwritable
        (.messageTooLong (encodeResponse (answer counters r)).size))) := by
  obtain ⟨answered, rest, hsplit, hanswered, hresponses, -, hlong⟩ :=
    answerStream_of_requests carries ends d p
  -- before `r` and before what was not answered stand all that come before the first such request
  have hbefore : (before ++ r :: after).takeWhile (fun r => decide (Answerable r)) = before := by
    apply takeWhile_of_first answerable
    rintro _ _ ⟨⟩
    exact long
  have hfirst : (answered ++ rest).takeWhile (fun r => decide (Answerable r)) = answered := by
    apply takeWhile_of_first hanswered
    intro r' later heq
    exact (hlong r' later heq).1
  rw [hsplit, hfirst] at hbefore
  subst hbefore
  exact ⟨hresponses, (hlong r after (List.append_cancel_left hsplit).symm).2⟩

/-- **A bad payload costs the connection exactly if its error is too long to be told.** Take a
stream that is nothing but requests. Each of them can be answered exactly if it is tellable, which
it always is if its category leaves 128 bytes of the longest frame. If all are, all are answered,
the connection ends well, and a payload that is no JSON is answered with an error while all other
requests are answered as if it had not been there. The first one that is not ends the connection:
those before it are answered, and neither it nor any that follows is. -/
theorem answerStream_tellable {requests : List Request} {stop : Nat}
    (carries : Carries bytes 0 requests stop) (ends : bytes.size < stop + 4)
    (d : Downstream π ρ) (p : Pipeline π ρ) :
    (∀ r ∈ requests, ∀ counters,
      (encodeResponse (answer counters r)).size ≤ frameLimit ↔ Tellable r) ∧
    (∀ s, .submit s ∈ requests → s.category.utf8ByteSize + 128 ≤ frameLimit →
      Tellable (.submit s)) ∧
    ((∀ r ∈ requests, Tellable r) →
      (answerStream d bytes p).1.responses.toList = answers d (p.settle d) requests ∧
      (answerStream d bytes p).1.ended = some .closed ∧
      ∀ before s after e, requests = before ++ .submit s :: after →
        Json.parse s.payload = .error e →
        ∃ first later, answers d (p.settle d) requests =
            first ++ .error (Daemon.payloadError s.category e) :: later ∧
          answers d (p.settle d) (before ++ after) = first ++ later ∧
          first.length = before.length) ∧
    ∀ before r after, requests = before ++ r :: after → (∀ r' ∈ before, Tellable r') →
      ¬Tellable r →
      (answerStream d bytes p).1.responses.toList = answers d (p.settle d) before ∧
      ∃ length, frameLimit < length ∧ (answerStream d bytes p).1.ended =
        some (.givenUp (.unwritable (.messageTooLong length))) := by
  simp only [← answerable_iff_tellable]
  refine ⟨?_, ?_, ?_, ?_⟩
  · intro r _ counters
    rw [Daemon.answerable_iff counters]
  · intro s hs short
    rw [answerable_iff_tellable]
    exact Daemon.tellable_of_short (le_of_carries carries hs) short
  · intro answerable
    obtain ⟨hresponses, hended⟩ := answerStream_of_answerable carries ends answerable d p
    exact ⟨hresponses, hended, fun before s after e => Daemon.answers_of_malformed⟩
  · rintro before r after rfl answerable long
    obtain ⟨hresponses, counters, hended⟩ :=
      answerStream_of_first carries ends answerable long d p
    rw [Daemon.answerable_iff counters, Nat.not_le] at long
    exact ⟨hresponses, _, long, hended⟩

/-- Requests of which the second one has a payload that is no JSON. -/
def malformedRequests : List Request := [.ping, .submit ⟨"a", "\x7b"⟩, .status]

theorem answerStream_tellable_malformed :
    Carries (Wire.frames malformedRequests) 0 malformedRequests 19 ∧
      (Wire.frames malformedRequests).size < 19 + 4 ∧
      ∃ p, Pipeline.make {} () () false = .ok p ∧
        (answerStream .quiet (Wire.frames malformedRequests) p).1.responses.toList =
          [.pong, .error "invalid JSON payload for a: EOF while parsing an object at line 1 column 1",
            .status ⟨0, 0, 0, 0, 0, 0⟩] ∧
        (answerStream .quiet (Wire.frames malformedRequests) p).1.ended = some .closed := by
  have hfit : ∀ r ∈ malformedRequests, (Wire.encodeRequest r).size ≤ frameLimit := by decide
  have hsize : (Wire.frames malformedRequests).size = 19 := by decide
  have carries := Wire.carries_of_frames hfit (Wire.standsAt_self _)
  rw [Nat.zero_add, hsize] at carries
  have ends : (Wire.frames malformedRequests).size < 19 + 4 := by
    rw [hsize]
    decide
  refine ⟨carries, ends, _, rfl, ?_⟩
  obtain ⟨-, -, hserved, -⟩ := answerStream_tellable carries ends Downstream.quiet _
  have tellable : ∀ r ∈ malformedRequests, Tellable r := by
    decide
  obtain ⟨hresponses, hended, -⟩ := hserved tellable
  rw [hresponses]
  exact ⟨by decide, hended⟩

/-- An event whose category is as long as the longest frame allows, and whose payload is empty. -/
def longCategory : Submission := ⟨String.ofList (List.replicate 16777209 'a'), ""⟩

/-- A request with that event, and one that follows it. -/
def longRequests : List Request := [.submit longCategory, .ping]

theorem utf8ByteSize_letters (n : Nat) :
    (String.ofList (List.replicate n 'a')).utf8ByteSize = n := by
  rw [Json.utf8ByteSize_ofList]
  induction n with
  | zero => rfl
  | succ n ih =>
    rw [List.replicate_succ, Json.utf8Size_cons, ih, Nat.add_comm,
      Char.utf8Size_eq_one_iff.2 (by decide)]

theorem utf8ByteSize_longCategory : longCategory.category.utf8ByteSize = 16777209 :=
  utf8ByteSize_letters _

/-- The request with the event is as long as a frame may be. -/
theorem size_encodeRequest_longCategory :
    (Wire.encodeRequest (.submit longCategory)).size = frameLimit := by
  have hpayload : longCategory.payload = "" := rfl
  simp only [Wire.encodeRequest, Wire.encodeSubmission, ByteArray.size_append,
    Wire.size_encodeText, utf8ByteSize_longCategory, hpayload, Wire.Varint.size_encode]
  decide

theorem carries_longRequests :
    Carries (Wire.frames longRequests) 0 longRequests (Wire.frames longRequests).size := by
  have hfit : ∀ r ∈ longRequests, (Wire.encodeRequest r).size ≤ frameLimit := by
    intro r hr
    simp only [longRequests, List.mem_cons, List.not_mem_nil, or_false] at hr
    rcases hr with rfl | rfl
    · exact Nat.le_of_eq size_encodeRequest_longCategory
    · decide
  have carries := Wire.carries_of_frames hfit (Wire.standsAt_self _)
  rwa [Nat.zero_add] at carries

/-- The error for the event is longer than that. -/
theorem size_answer_longCategory (counters : Counters) :
    (encodeResponse (answer counters (.submit longCategory))).size = 16777286 := by
  have hparsed : Json.parse longCategory.payload = .error ⟨.endInValue, 1, 0⟩ := by
    rw [show longCategory.payload = "" from rfl]
    rfl
  have hmessage : (⟨.endInValue, 1, 0⟩ : Json.ParseError).message.utf8ByteSize = 44 := by decide
  simp only [answer, hparsed, Daemon.size_encodeResponse_error, Daemon.utf8ByteSize_payloadError,
    utf8ByteSize_longCategory, hmessage, Wire.Varint.size_encode]
  decide

/-- The event can be read, the error for it cannot be written, and nothing that follows is answered.
-/
theorem longCategory_costs :
    (Wire.encodeRequest (.submit longCategory)).size = frameLimit ∧
      Carries (Wire.frames longRequests) 0 longRequests (Wire.frames longRequests).size ∧
      ∃ p, Pipeline.make {} () () false = .ok p ∧
        (answerStream .quiet (Wire.frames longRequests) p).1.responses.toList = [] ∧
        (answerStream .quiet (Wire.frames longRequests) p).1.ended =
          some (.givenUp (.unwritable (.messageTooLong 16777286))) := by
  have long : ¬Answerable (.submit longCategory) := by
    rw [Daemon.answerable_iff {}, size_answer_longCategory]
    decide
  have carries : Carries (Wire.frames longRequests) 0
      ([] ++ Request.submit longCategory :: [.ping]) (Wire.frames longRequests).size :=
    carries_longRequests
  refine ⟨size_encodeRequest_longCategory, carries_longRequests, _, rfl, ?_⟩
  obtain ⟨hresponses, counters, hended⟩ := answerStream_of_first carries
    (Nat.lt_add_of_pos_right (by decide)) (by simp) long Downstream.quiet _
  rw [size_answer_longCategory] at hended
  exact ⟨hresponses, hended⟩

end Connection

end EventBatching
