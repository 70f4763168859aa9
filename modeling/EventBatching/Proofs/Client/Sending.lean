import EventBatching.Proofs.Text.Lines
import EventBatching.Proofs.Wire.Stream
import EventBatching.Rehearsal.Peer

/-!
# Submitting the lines of an input

Without an event on its command line the client submits the lines of its input, one request for each
line in which there is something, and says of every refused one which line it was. The whole input
is read before the first request is made, so an input that is no text submits nothing.

What the client asks does not show in what it leaves behind, so a transport is made to keep a
transcript, which changes nothing else.

* `Client.recorded` is a transport that keeps a transcript; `Client.run_recorded` says that a run
  over it is the same run.
* `Client.mem_payloadLines_iff` says which events are on an input.
* `Client.Obliging` is a daemon that takes or refuses what it is given, and
  `Client.Willing.obliging` says that a peer is one whose script is to do so.
* `Client.run_sends` says what is asked, what is said and with which exit code the client ends.
-/

namespace EventBatching

namespace Client

variable {τ : Type} {ask : Transport τ} {s : τ}

/-! ## Transcripts -/

/-- Requests with the answers to them, the latest last. -/
abbrev Transcript := List (Request × Except RequestFault Response)

/-- A transport that keeps a transcript. -/
def recorded (ask : Transport τ) : Transport (τ × Transcript) := fun r (s, asked) =>
  let (answer, s) := ask r s
  (answer, (s, asked ++ [(r, answer)]))

/-- What the client asks in a run, and what it is answered. -/
def transcript (ask : Transport τ) (o : Options) (connected : Except OsError Unit)
    (input : ByteArray) (s : τ) : Transcript :=
  (run (recorded ask) o connected input (s, [])).2.2

theorem submitAll_recorded (ask : Transport τ) (a : Action) (category : String)
    (events : List (Nat × String)) (p : Progress) (s : τ) (asked : Transcript) :
    (submitAll (recorded ask) a category events p (s, asked)).map id (Prod.map id Prod.fst) =
      submitAll ask a category events p s := by
  induction events generalizing p s asked with
  | nil => rfl
  | cons event rest ih =>
    obtain ⟨number, payload⟩ := event
    simp only [submitAll, recorded]
    obtain ⟨answer, s⟩ := ask (.submit ⟨category, payload⟩) s
    cases answer with
    | error fault => rfl
    | ok response =>
      simp only
      cases p.take a number response with
      | error fault => rfl
      | ok p => exact ih p s _

theorem inquire_recorded (ask : Transport τ) (a : Action) (request : Request)
    (answer : Response → Except Fault String) (s : τ) (asked : Transcript) :
    (inquire (recorded ask) a request answer (s, asked)).map id Prod.fst =
      inquire ask a request answer s := by
  simp only [inquire, recorded]
  obtain ⟨response, s⟩ := ask request s
  cases response with
  | error fault => rfl
  | ok response =>
    simp only
    cases answer response <;> rfl

/-- **A transcript changes nothing.** The client reports the same, and leaves the same behind. -/
theorem run_recorded (ask : Transport τ) (o : Options) (connected : Except OsError Unit)
    (input : ByteArray) (s : τ) (asked : Transcript) :
    (run (recorded ask) o connected input (s, asked)).map id Prod.fst =
      run ask o connected input s := by
  unfold run
  cases connected with
  | error cause => rfl
  | ok _ =>
    simp only
    cases o.action with
    | send category payload =>
      simp only [perform, send]
      split
      · rfl
      · rw [← submitAll_recorded ask _ category _ {} s asked]
        rfl
    | status json => exact inquire_recorded ..
    | ping => exact inquire_recorded ..

/-! ## Events -/

/-- An event on an input: what is in a line that is not blank, with the number of the line. -/
def EventAt (text : String) (number : Nat) (payload : String) : Prop :=
  payload ≠ "" ∧ ∃ line, Blank.LineAt text.toList number line ∧ Blank.Trimmed line payload.toList

/-- What the client takes of a line with its number. -/
theorem payloadOf_eq_some_iff {line : String} {n number : Nat} {payload : String} :
    (if (Blank.trim line).isEmpty then none else some (n, Blank.trim line)) =
        some (number, payload) ↔
      payload ≠ "" ∧ n = number ∧ Blank.trim line = payload := by
  by_cases hempty : Blank.trim line = ""
  · rw [if_pos (by simp [hempty]), hempty]
    constructor
    · intro h
      exact absurd h (by simp)
    · rintro ⟨hsomething, -, hnothing⟩
      exact absurd hnothing.symm hsomething
  · rw [if_neg (by simpa using hempty)]
    constructor
    · intro h
      obtain ⟨rfl, rfl⟩ := Prod.mk.inj (Option.some.inj h)
      exact ⟨hempty, rfl, rfl⟩
    · rintro ⟨-, rfl, rfl⟩
      rfl

/-- **The events on an input are what is in the lines that are not blank.** -/
theorem mem_payloadLines_iff {text : String} {number : Nat} {payload : String} :
    (number, payload) ∈ payloadLines text ↔ EventAt text number payload := by
  unfold payloadLines EventAt
  rw [List.mem_filterMap]
  simp only [payloadOf_eq_some_iff, Prod.exists, List.mk_mem_zipIdx_iff_le_and_getElem?_sub]
  constructor
  · rintro ⟨line, n, ⟨hn, hline⟩, hsomething, rfl, htrim⟩
    have hread := (Blank.exists_line_iff hsomething text (n - 1)).1 ⟨line, hline, htrim⟩
    rw [Nat.sub_add_cancel hn] at hread
    exact ⟨hsomething, hread⟩
  · rintro ⟨hsomething, line, hline, htrimmed⟩
    cases number with
    | zero => exact absurd hline (Blank.not_lineAt_zero _ _)
    | succ n =>
      obtain ⟨line, hread, htrim⟩ :=
        (Blank.exists_line_iff hsomething text n).2 ⟨line, hline, htrimmed⟩
      exact ⟨line, n + 1, ⟨Nat.le_add_left 1 n, hread⟩, hsomething, rfl, htrim⟩

/-- They come in the order of their lines, each once. -/
theorem pairwise_payloadLines (text : String) :
    (payloadLines text).Pairwise fun event later => event.1 < later.1 := by
  have hnumbers : ((Blank.lines text).zipIdx 1).Pairwise fun line later => line.2 < later.2 := by
    have hrange := List.pairwise_lt_range' (s := 1) (n := (Blank.lines text).length) 1
    rwa [← List.zipIdx_map_snd, List.pairwise_map] at hrange
  refine hnumbers.filterMap _ ?_
  rintro ⟨line, n⟩ ⟨line', n'⟩ hlt ⟨number, payload⟩ h ⟨number', payload'⟩ h'
  obtain ⟨-, rfl, -⟩ := payloadOf_eq_some_iff.1 h
  obtain ⟨-, rfl, -⟩ := payloadOf_eq_some_iff.1 h'
  exact hlt

/-! ## A daemon that takes or refuses -/

/-- What the daemon says to an event. -/
inductive Verdict where
  /-- It takes it. -/
  | taken
  /-- It refuses it. -/
  | refused (message : String)
  deriving Repr, DecidableEq

/-- The response that says so. -/
def Verdict.response : Verdict → Response
  | .taken => .accepted
  | .refused message => .error message

/-- A submission whose frame is within the limit. -/
def Fits (x : Submission) : Prop := (Wire.Message.encode (Request.submit x)).size ≤ Wire.frameLimit

/-- A daemon that takes or refuses each of these submissions, one after another, if their frames are
within the limit. -/
def Obliging (ask : Transport τ) : List Submission → τ → Prop
  | [], _ => True
  | x :: rest, s =>
    Fits x → ∃ (verdict : Verdict) (s' : τ),
      ask (.submit x) s = (.ok verdict.response, s') ∧ Obliging ask rest s'

/-- A peer whose script is to take or refuse. -/
structure Willing (verdicts : List Verdict) (p : Rehearsal.Peer) : Prop where
  /-- It answers every request, and does not hang up. -/
  script : p.script = verdicts.map fun v => .respond v.response false
  /-- It has not hung up yet. -/
  here : p.gone = false
  /-- What it writes can be read. -/
  sound : p.source.failure = none
  /-- The client has read everything that it wrote. -/
  read : p.source.position = p.source.bytes.size
  /-- It can say what it is to say. -/
  fit : ∀ v ∈ verdicts, (Wire.Message.encode v.response).size ≤ Wire.frameLimit

/-- What a willing peer is asked it answers as it was to, and it is still willing. -/
theorem Willing.answers {v : Verdict} {later : List Verdict} {p : Rehearsal.Peer}
    (h : Willing (v :: later) p) {x : Submission} (fits : Fits x) :
    ∃ p', Rehearsal.Peer.ask (.submit x) p = (.ok v.response, p') ∧ Willing later p' := by
  obtain ⟨hfit, hlater⟩ := List.forall_mem_cons.1 h.fit
  let bytes := p.source.bytes ++ Wire.frame (Wire.Message.encode v.response)
  have hheard : p.hear (.submit x) =
      { p with
        script := later.map fun v => .respond v.response false
        source := { p.source with bytes := bytes }
        requests := p.requests ++ [.submit x] } := by
    simp only [Rehearsal.Peer.hear, Rehearsal.Peer.write, h.script, List.map_cons, List.tail_cons,
      Wire.encodeFrame_of_fits hfit, h.here]
    rfl
  have hread : Wire.readMessage { p.source with bytes := bytes } =
      (.ok v.response, { p.source with bytes := bytes, position := bytes.size }) := by
    rw [Wire.readMessage, Wire.readMessage?_of_written h.sound h.read hfit]
  have hask : Rehearsal.Peer.ask (.submit x) p =
      (.ok v.response, { p with
        script := later.map fun v => .respond v.response false
        source := { p.source with bytes := bytes, position := bytes.size }
        requests := p.requests ++ [.submit x] }) := by
    simp only [Rehearsal.Peer.ask, h.here, Wire.encodeFrame_of_fits fits, hheard, hread]
    rfl
  exact ⟨_, hask, rfl, h.here, h.sound, rfl, hlater⟩

/-- A peer is obliging whose script is to take or refuse, as long as it can say so. -/
theorem Willing.obliging {submissions : List Submission} {verdicts : List Verdict}
    {p : Rehearsal.Peer} (h : Willing verdicts p) (enough : submissions.length ≤ verdicts.length) :
    Obliging Rehearsal.Peer.ask submissions p := by
  induction submissions generalizing verdicts p with
  | nil => trivial
  | cons x rest ih =>
    cases verdicts with
    | nil => exact absurd enough (by simp)
    | cons v later =>
      intro hfits
      obtain ⟨p', hask, hwilling⟩ := h.answers hfits
      exact ⟨v, p', hask, ih hwilling (Nat.le_of_succ_le_succ enough)⟩

/-! ## Events with what came of them -/

/-- An event that was submitted. -/
structure Delivery where
  /-- The number of its line. -/
  number : Nat
  /-- What is in the line. -/
  payload : String
  /-- What the daemon said. -/
  verdict : Verdict

namespace Delivery

/-- The event. -/
def event (d : Delivery) : Nat × String := (d.number, d.payload)

/-- The request for the event, and the answer. -/
def exchange (category : String) (d : Delivery) : Request × Except RequestFault Response :=
  (.submit ⟨category, d.payload⟩, .ok d.verdict.response)

/-- What is said of the event; nothing if it was taken. -/
def complaint? (d : Delivery) : Option Remark :=
  match d.verdict with
  | .taken => none
  | .refused message => some (.note ("[send] " ++ s!"line {d.number}: {message}"))

end Delivery

/-- How many events were taken. -/
def takenOf (ds : List Delivery) : Nat := ds.countP (·.verdict = .taken)

/-- What is said of the events, in order. -/
def complaints (ds : List Delivery) : List Remark := ds.filterMap Delivery.complaint?

theorem isSome_complaint? (d : Delivery) : d.complaint?.isSome = true ↔ d.verdict ≠ .taken := by
  unfold Delivery.complaint?
  cases d.verdict <;> simp

/-- Every event was taken, or something is said of it. -/
theorem takenOf_add_complaints (ds : List Delivery) :
    takenOf ds + (complaints ds).length = ds.length := by
  rw [complaints, List.length_filterMap_eq_countP, takenOf,
    ds.length_eq_countP_add_countP (·.verdict = .taken)]
  congr 1
  refine List.countP_congr fun d _ => ?_
  rw [isSome_complaint?]
  simp

/-- How submitting went so far, with some more events. -/
def Progress.after (p : Progress) (ds : List Delivery) : Progress where
  accepted := p.accepted + takenOf ds
  refused := p.refused + (complaints ds).length
  remarks := p.remarks ++ complaints ds

theorem Progress.after_append (p : Progress) (ds later : List Delivery) :
    (p.after ds).after later = p.after (ds ++ later) := by
  simp [Progress.after, takenOf, complaints, Nat.add_assoc]

theorem note_send (category text : String) :
    (Action.send category none).note text = .note ("[send] " ++ text) := by
  have hname : "[" ++ "send" ++ "] " = "[send] " := rfl
  show Remark.note ("[" ++ "send" ++ "] " ++ text) = .note ("[send] " ++ text)
  rw [hname]

theorem Progress.take_verdict (p : Progress) (category : String) (d : Delivery) :
    p.take (.send category none) d.number d.verdict.response = .ok (p.after [d]) := by
  obtain ⟨number, payload, verdict⟩ := d
  cases verdict with
  | taken => simp [take, after, Verdict.response, takenOf, complaints, Delivery.complaint?]
  | refused message =>
    simp only [take, Verdict.response, note_send]
    simp [after, takenOf, complaints, Delivery.complaint?]

/-- **Submitting events to an obliging daemon.** Each event is submitted once, in order, and the
induction is on the events that are still to be submitted. -/
theorem submitAll_of_obliging {category : String} {events : List (Nat × String)}
    (fit : ∀ event ∈ events, Fits ⟨category, event.2⟩)
    (obliging : Obliging ask (events.map fun event => ⟨category, event.2⟩) s) (p : Progress)
    (asked : Transcript) :
    ∃ (ds : List Delivery) (s' : τ), ds.map Delivery.event = events ∧
      submitAll (recorded ask) (.send category none) category events p (s, asked) =
        (none, p.after ds, ((s', asked ++ ds.map (·.exchange category)) : τ × Transcript)) := by
  induction events generalizing s p asked with
  | nil => exact ⟨[], s, rfl, by simp [submitAll, Progress.after, takenOf, complaints]⟩
  | cons event rest ih =>
    obtain ⟨number, payload⟩ := event
    obtain ⟨hfits, hrest⟩ := List.forall_mem_cons.1 fit
    obtain ⟨verdict, next, hask, hobliging⟩ := obliging hfits
    let d : Delivery := ⟨number, payload, verdict⟩
    obtain ⟨ds, s', hevents, hsubmitted⟩ :=
      ih hrest hobliging (p.after [d]) (asked ++ [d.exchange category])
    refine ⟨d :: ds, s', by rw [List.map_cons, hevents]; rfl, ?_⟩
    have htake : p.take (.send category none) number verdict.response = .ok (p.after [d]) :=
      p.take_verdict category d
    have hrecorded : recorded ask (.submit ⟨category, payload⟩) (s, asked) =
        (.ok verdict.response, (next, asked ++ [d.exchange category])) := by
      simp only [recorded, hask]
      rfl
    rw [submitAll, hrecorded]
    simp only [htake]
    rw [hsubmitted, Progress.after_append, List.append_assoc]
    rfl

/-! ## Submitting the lines of an input -/

/-- Submitting the events on the input. -/
def sending (category socket : String) : Options := ⟨.send category none, socket⟩

/-- What is to be submitted for an input. -/
def submissions (category : String) (input : ByteArray) : List Submission :=
  (((String.fromUTF8? input).map payloadLines).getD []).map fun event => ⟨category, event.2⟩

/-- The events of a text were submitted, and what came of them was said. -/
structure Sent (category text : String) (ds : List Delivery) (asked : Transcript) (r : Report) :
    Prop where
  /-- What was submitted is what is in the lines that are not blank, under their numbers. -/
  events (number : Nat) (payload : String) :
    (∃ d ∈ ds, d.number = number ∧ d.payload = payload) ↔ EventAt text number payload
  /-- It was submitted in the order of the lines, and once. -/
  inOrder : ds.Pairwise fun d later => d.number < later.number
  /-- Nothing else was asked. -/
  asked : asked = ds.map (·.exchange category)
  /-- What was refused is reported with its line, and then how much was taken. -/
  remarks : r.remarks =
    complaints ds ++ [.note ("[send] " ++ s!"{takenOf ds} events queued for {category}")]
  /-- Each event was reported in one of these ways. -/
  total : takenOf ds + (complaints ds).length = ds.length
  /-- The exit code says whether everything was taken. -/
  exitCode : r.exitCode = if ∀ d ∈ ds, d.verdict = .taken then 0 else 1

theorem complaints_eq_nil_iff {ds : List Delivery} :
    complaints ds = [] ↔ ∀ d ∈ ds, d.verdict = .taken := by
  rw [complaints, List.filterMap_eq_nil_iff]
  refine forall₂_congr fun d _ => ?_
  rw [← Option.not_isSome_iff_eq_none, isSome_complaint?, not_not]

theorem sent_report (category text : String) {ds : List Delivery}
    (hevents : ds.map Delivery.event = payloadLines text) :
    Sent category text ds (ds.map (·.exchange category))
      (sendReport (.send category none) category none (({} : Progress).after ds)) where
  events number payload := by
    rw [← mem_payloadLines_iff, ← hevents, List.mem_map]
    simp only [Delivery.event, Prod.mk.injEq]
  inOrder := by
    have hpairwise := pairwise_payloadLines text
    rwa [← hevents, List.pairwise_map] at hpairwise
  asked := rfl
  remarks := by
    simp only [sendReport, Progress.after, note_send, Nat.zero_add, List.nil_append]
  total := takenOf_add_complaints ds
  exitCode := by
    simp only [sendReport, Progress.after, Nat.zero_add, List.length_eq_zero_iff,
      complaints_eq_nil_iff]

/-- **Every line in which there is something is submitted once and reported right.** An input that
is no text submits nothing. -/
theorem run_sends (category socket : String) (input : ByteArray)
    (fit : ∀ x ∈ submissions category input, Fits x)
    (obliging : Obliging ask (submissions category input) s) :
    (¬ input.IsValidUTF8 →
      transcript ask (sending category socket) (.ok ()) input s = [] ∧
        (run ask (sending category socket) (.ok ()) input s).1.exitCode = 2) ∧
    ∀ text : String, input = text.toUTF8 → ∃ ds,
      Sent category text ds (transcript ask (sending category socket) (.ok ()) input s)
        (run ask (sending category socket) (.ok ()) input s).1 := by
  have hrecorded := run_recorded ask (sending category socket) (.ok ()) input s []
  constructor
  · intro hinvalid
    have hnone : String.fromUTF8? input = none := dif_neg hinvalid
    have hrun : run (recorded ask) (sending category socket) (.ok ()) input (s, []) =
        ((Action.send category none).failed [] .inputNotText, (s, [])) := by
      simp only [run, sending, perform, send, hnone, Option.map_none]
    rw [← hrecorded, transcript, hrun]
    exact ⟨rfl, rfl⟩
  · rintro text rfl
    have hsome := Wire.fromUTF8?_toUTF8 text
    simp only [submissions, hsome, Option.map_some, Option.getD_some] at fit obliging
    rw [List.forall_mem_map] at fit
    obtain ⟨ds, s', hevents, hsubmitted⟩ := submitAll_of_obliging fit obliging {} []
    have hrun : run (recorded ask) (sending category socket) (.ok ()) text.toUTF8 (s, []) =
        (sendReport (.send category none) category none (({} : Progress).after ds),
          (s', ds.map (·.exchange category))) := by
      simp only [run, sending, perform, send, hsome, Option.map_some, hsubmitted, List.nil_append]
    refine ⟨ds, ?_⟩
    rw [← hrecorded, transcript, hrun]
    exact sent_report category text hevents

/-- Five lines, of which two are blank and the last one is not ended. -/
def fiveLines : String := "\n a \r\n\t\n\"b\"\nc"

/-- A peer that refuses the second event. -/
def pickyPeer : Rehearsal.Peer where
  script := [Verdict.taken, .refused "no", .taken].map fun v => .respond v.response false

theorem run_sends_fiveLines :
    (∀ x ∈ submissions "kpi" fiveLines.toUTF8, Fits x) ∧
    Obliging Rehearsal.Peer.ask (submissions "kpi" fiveLines.toUTF8) pickyPeer ∧ ∃ ds,
      Sent "kpi" fiveLines ds
        (transcript Rehearsal.Peer.ask (sending "kpi" "/s") (.ok ()) fiveLines.toUTF8 pickyPeer)
        (run Rehearsal.Peer.ask (sending "kpi" "/s") (.ok ()) fiveLines.toUTF8 pickyPeer).1 ∧
      ds.length = 3 ∧ complaints ds = [.note "[send] line 4: no"] := by
  have hsubmissions : submissions "kpi" fiveLines.toUTF8 =
      [⟨"kpi", "a"⟩, ⟨"kpi", "\"b\""⟩, ⟨"kpi", "c"⟩] := by decide +kernel
  have hfit : ∀ x ∈ submissions "kpi" fiveLines.toUTF8, Fits x := by
    rw [hsubmissions]
    unfold Fits
    decide +kernel
  have hwilling : Willing [.taken, .refused "no", .taken] pickyPeer :=
    ⟨rfl, rfl, rfl, rfl, by decide +kernel⟩
  have hobliging : Obliging Rehearsal.Peer.ask (submissions "kpi" fiveLines.toUTF8) pickyPeer :=
    hwilling.obliging (by rw [hsubmissions]; exact Nat.le_refl 3)
  obtain ⟨ds, hsent⟩ := (run_sends "kpi" "/s" fiveLines.toUTF8 hfit hobliging).2 fiveLines rfl
  refine ⟨hfit, hobliging, ds, hsent, ?_, ?_⟩
  · have hasked := congrArg List.length hsent.asked
    rw [List.length_map] at hasked
    rw [← hasked]
    decide +kernel
  · have hremarks := congrArg List.dropLast hsent.remarks
    rw [List.dropLast_concat] at hremarks
    rw [← hremarks]
    decide +kernel

/-- A line, and behind it a byte that is no text. -/
def brokenText : ByteArray := ⟨#[0x61, 0x0A, 0xFF]⟩

example :
    (run Rehearsal.Peer.ask (sending "kpi" "/s") (.ok ()) brokenText pickyPeer).2.requests =
      [] := by
  decide +kernel

end Client

end EventBatching
