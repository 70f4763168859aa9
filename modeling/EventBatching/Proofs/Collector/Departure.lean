import EventBatching.Proofs.Collector.Draining

/-!
# The last look at the inbox

Producers submit records while the collector reads them, and go on while it shuts down. The shutdown
takes records until a look at the inbox finds nothing; it then hands over the open batches, and only
after that is the inbox closed. What a producer submits in between is accepted and never read. The
same holds of what is submitted before a stop if the collector was never started: it does not look
at all. This is herald's intake queue with the dispatcher thread, cut into the steps that producers
can come between.

* `Shift` is an inbox with a collector and with an account of its records; `Shift.step` is one step
  of a producer or of the collector, and `Shift.run` a sequence of them in any order. `Shift.Step`
  lists what a step can do.
* `Shift.Lawful` is what every step keeps: a record that was accepted was taken out or is not read
  yet, and what was taken out is handed over or still open.
* `Shift.stopped_complete_iff` says exactly when everything that was accepted is handed over: when
  nothing was accepted after the last look.
* `Shift.run_shutdown` says that the steps of a collector which nobody interrupts do what
  `Collector.shutdownInbox` does.
-/

namespace EventBatching

/-! ## An inbox with a collector -/

/-- Where a collector is in its life. -/
inductive Phase where
  /-- It was not started. -/
  | waiting
  /-- Its loop runs. -/
  | looping (d : Collector)
  /-- It takes out what is queued; the time is that at which it began to. -/
  | draining (d : Collector) (now : Nat)
  /-- It has found the inbox empty and hands over the batches that were open. -/
  | handing (leftover : List Batch)
  /-- It has ended, and the inbox is closed. -/
  | gone

namespace Phase

/-- Whether the collector will look at the inbox again. -/
def reads : Phase → Bool
  | looping _ | draining _ _ => true
  | waiting | handing _ | gone => false

/-- The payloads of a key that were taken out and are not handed over. -/
def itemsOf (key : String) : Phase → List Payload
  | looping d | draining d _ => d.batches.itemsOf key
  | handing leftover => Batch.itemsUnder key leftover
  | waiting | gone => []

/-- No key has two open batches. -/
def Distinct : Phase → Prop
  | looping d | draining d _ => d.batches.Distinct
  | waiting | handing _ | gone => True

/-- Where a collector is after a round: a panic ends its loop. -/
def afterRound {σ : Type} (e : Effect σ Collector Bool) (now : Nat) : Phase :=
  match e.result with
  | .ok _ => looping e.after
  | .error _ => draining e.after now

end Phase

/-- An inbox with a collector. -/
structure Shift (σ : Type) where
  /-- The inbox. -/
  inbox : Inbox
  /-- The state of the sink. -/
  sink : σ
  /-- Where the collector is. -/
  phase : Phase := .waiting
  /-- The batches handed to the sink, in order. -/
  flushed : List Batch := []
  /-- The records that were accepted, in order. -/
  accepted : List Record := []
  /-- The records that were taken out, in order. -/
  taken : List Record := []
  /-- The records that were accepted while the collector would not look again. -/
  missed : List Record := []

namespace Shift

/-- What producers and the collector do. -/
inductive Event where
  /-- A producer submits a record. -/
  | submit (r : Record) (awaited : Bool)
  /-- The collector is started. -/
  | start (now : Nat)
  /-- A round of the loop with a record. -/
  | read (now : Nat)
  /-- A round of the loop without a record. -/
  | idle (now : Nat)
  /-- The collector is told to stop. -/
  | stop (now : Nat)
  /-- The shutdown looks at the inbox, and folds in the record that it finds. -/
  | look
  /-- The shutdown hands over an open batch. -/
  | hand
  /-- The collector ends, and the inbox is closed. -/
  | close

variable {σ : Type}

/-- The records that were accepted and not taken out. -/
def unread (x : Shift σ) : List Record :=
  match x.phase with
  | .gone => x.missed
  | _ => x.inbox.queue.toList

/-- A producer submits a record. -/
def submit (x : Shift σ) (r : Record) (awaited : Bool) : Shift σ :=
  let took := x.inbox.receiving && x.inbox.hasRoom awaited
  { x with
    inbox := (x.inbox.submit awaited r).1
    accepted := if took then x.accepted ++ [r] else x.accepted
    missed := if took && !x.phase.reads then x.missed ++ [r] else x.missed }

/-- The collector has done something with what it took out. -/
def absorb {α : Type} (x : Shift σ) (e : Effect σ Collector α) (phase : Phase) (inbox : Inbox)
    (records : List Record) : Shift σ :=
  { x with
    inbox := inbox
    sink := e.sink
    phase := phase
    flushed := x.flushed ++ e.flushed
    taken := x.taken ++ records }

/-- A shift before anything has happened. -/
def begin (settings : Settings) (s : σ) : Shift σ :=
  { inbox := { capacity := settings.recordQueue }, sink := s }

/-- Performs a step, if it can be performed. -/
def step (settings : Settings) (sink : Sink σ) (x : Shift σ) : Event → Option (Shift σ)
  | .submit r awaited => some (x.submit r awaited)
  | .start now =>
    match x.phase with
    | .waiting => some { x with phase := .looping (.start settings now), missed := [] }
    | _ => none
  | .read now =>
    match x.phase, x.inbox.receive with
    | .looping d, some (r, rest) =>
      let e := d.receive sink (some r) now x.sink
      some (x.absorb e (.afterRound e now) rest [r])
    | _, _ => none
  | .idle now =>
    match x.phase with
    | .looping d =>
      let e := d.receive sink none now x.sink
      some (x.absorb e (.afterRound e now) x.inbox [])
    | _ => none
  | .stop now =>
    match x.phase with
    | .waiting => some x
    | .looping d => some { x with phase := .draining d now }
    | _ => none
  | .look =>
    match x.phase, x.inbox.receive with
    | .draining d now, some (r, rest) =>
      let e := d.add sink r now x.sink
      some (x.absorb e (.draining e.after now) rest [r])
    | .draining d _, none => some { x with phase := .handing d.batches.drain.1 }
    | _, _ => none
  | .hand =>
    match x.phase with
    | .handing (b :: rest) =>
      some { x with sink := (sink b x.sink).2, phase := .handing rest, flushed := x.flushed ++ [b] }
    | _ => none
  | .close =>
    match x.phase with
    | .handing [] => some { x with phase := .gone, inbox := x.inbox.close }
    | _ => none

/-- Performs steps one after another. -/
def run (settings : Settings) (sink : Sink σ) : List Event → Shift σ → Option (Shift σ)
  | [], x => some x
  | event :: rest, x => (x.step settings sink event).bind (run settings sink rest)

/-! ## What a step can do -/

/-- What a step can do to a shift. -/
inductive Step (settings : Settings) (sink : Sink σ) (x : Shift σ) : Event → Shift σ → Prop
  | submit (r : Record) (awaited : Bool) :
      Step settings sink x (.submit r awaited) (x.submit r awaited)
  | start (now : Nat) (waiting : x.phase = .waiting) :
      Step settings sink x (.start now)
        { x with phase := .looping (.start settings now), missed := [] }
  | read {d : Collector} {r : Record} {rest : Inbox} (now : Nat) (looping : x.phase = .looping d)
      (received : x.inbox.receive = some (r, rest)) :
      Step settings sink x (.read now)
        (x.absorb (d.receive sink (some r) now x.sink)
          (.afterRound (d.receive sink (some r) now x.sink) now) rest [r])
  | idle {d : Collector} (now : Nat) (looping : x.phase = .looping d) :
      Step settings sink x (.idle now)
        (x.absorb (d.receive sink none now x.sink)
          (.afterRound (d.receive sink none now x.sink) now) x.inbox [])
  | unstarted (now : Nat) (waiting : x.phase = .waiting) : Step settings sink x (.stop now) x
  | stop {d : Collector} (now : Nat) (looping : x.phase = .looping d) :
      Step settings sink x (.stop now) { x with phase := .draining d now }
  | look {d : Collector} {now : Nat} {r : Record} {rest : Inbox}
      (draining : x.phase = .draining d now) (received : x.inbox.receive = some (r, rest)) :
      Step settings sink x .look
        (x.absorb (d.add sink r now x.sink) (.draining (d.add sink r now x.sink).after now) rest
          [r])
  | lastLook {d : Collector} {now : Nat} (draining : x.phase = .draining d now)
      (received : x.inbox.receive = none) :
      Step settings sink x .look { x with phase := .handing d.batches.drain.1 }
  | hand {b : Batch} {rest : List Batch} (handing : x.phase = .handing (b :: rest)) :
      Step settings sink x .hand
        { x with sink := (sink b x.sink).2, phase := .handing rest, flushed := x.flushed ++ [b] }
  | close (handing : x.phase = .handing []) :
      Step settings sink x .close { x with phase := .gone, inbox := x.inbox.close }

theorem step_cases {settings : Settings} {sink : Sink σ} {x after : Shift σ} {event : Event}
    (h : x.step settings sink event = some after) : Step settings sink x event after := by
  cases event with
  | submit r awaited =>
    obtain rfl := Option.some.inj h
    exact .submit r awaited
  | start now =>
    rw [step] at h
    split at h
    · next hphase =>
      obtain rfl := Option.some.inj h
      exact .start now hphase
    · exact absurd h (by simp)
  | read now =>
    rw [step] at h
    split at h
    · next d r rest hphase received =>
      obtain rfl := Option.some.inj h
      exact .read now hphase received
    · exact absurd h (by simp)
  | idle now =>
    rw [step] at h
    split at h
    · next d hphase =>
      obtain rfl := Option.some.inj h
      exact .idle now hphase
    · exact absurd h (by simp)
  | stop now =>
    rw [step] at h
    split at h
    · next hphase =>
      obtain rfl := Option.some.inj h
      exact .unstarted now hphase
    · next d hphase =>
      obtain rfl := Option.some.inj h
      exact .stop now hphase
    · exact absurd h (by simp)
  | look =>
    rw [step] at h
    split at h
    · next d now r rest hphase received =>
      obtain rfl := Option.some.inj h
      exact .look hphase received
    · next d now hphase received =>
      obtain rfl := Option.some.inj h
      exact .lastLook hphase received
    · exact absurd h (by simp)
  | hand =>
    rw [step] at h
    split at h
    · next b rest hphase =>
      obtain rfl := Option.some.inj h
      exact .hand hphase
    · exact absurd h (by simp)
  | close =>
    rw [step] at h
    split at h
    · next hphase =>
      obtain rfl := Option.some.inj h
      exact .close hphase
    · exact absurd h (by simp)

/-! ## What every step keeps -/

/-- The records of a shift are where they should be. -/
structure Lawful (sink : Sink σ) (s : σ) (x : Shift σ) : Prop where
  /-- A record that was accepted was taken out, or is not read yet. -/
  accepted_eq : x.accepted = x.taken ++ x.unread
  /-- Accepted records are counted. -/
  count_eq : x.inbox.accepted = x.accepted.length
  /-- While the collector will look again, nothing is missed. -/
  missed_nil : x.phase.reads = true → x.missed = []
  /-- When the collector does not look again, what is not read is what was accepted since. -/
  missed_eq : x.phase.reads = false → x.missed = x.unread
  /-- What was taken out is handed over or still open. -/
  items : ∀ key, Batch.itemsUnder key x.flushed ++ x.phase.itemsOf key =
    Record.payloadsUnder key x.taken
  /-- No key has two open batches. -/
  distinct : x.phase.Distinct
  /-- The sink was given what was handed over. -/
  fed : x.sink = sink.feed x.flushed s
  /-- A collector that has ended leaves the inbox closed. -/
  closed : x.phase = .gone → x.inbox.receiving = false

theorem lawful_begin (sink : Sink σ) (settings : Settings) (s : σ) :
    Lawful sink s (begin settings s) :=
  ⟨rfl, rfl, fun _ => rfl, fun _ => rfl, fun _ => rfl, trivial, rfl,
    fun h => Phase.noConfusion h⟩

theorem unread_of_ne_gone {x : Shift σ} (h : x.phase ≠ .gone) :
    x.unread = x.inbox.queue.toList := by
  rw [unread]
  split
  · next hgone => exact absurd hgone h
  · rfl

theorem ne_gone_of_reads {phase : Phase} (h : phase.reads = true) : phase ≠ .gone := by
  rintro rfl
  exact Bool.noConfusion h

section Steps

variable {settings : Settings} {sink : Sink σ} {s : σ} {x after : Shift σ}

theorem submit_of_room {r : Record} {awaited : Bool}
    (h : (x.inbox.receiving && x.inbox.hasRoom awaited) = true) :
    x.submit r awaited =
      { x with
        inbox := { x.inbox with queue := x.inbox.queue.push r, accepted := x.inbox.accepted + 1 }
        accepted := x.accepted ++ [r]
        missed := if x.phase.reads then x.missed else x.missed ++ [r] } := by
  rw [Shift.submit, Inbox.submit_of_room h, h]
  cases x.phase.reads <;> rfl

theorem submit_of_no_room {r : Record} {awaited : Bool}
    (h : (x.inbox.receiving && x.inbox.hasRoom awaited) = false) :
    x.submit r awaited = { x with inbox := { x.inbox with dropped := x.inbox.dropped + 1 } } := by
  rw [Shift.submit, Inbox.submit_of_no_room h, h]
  rfl

theorem Lawful.submit (law : Lawful sink s x) (r : Record) (awaited : Bool) :
    Lawful sink s (x.submit r awaited) := by
  cases htook : x.inbox.receiving && x.inbox.hasRoom awaited with
  | false =>
    rw [submit_of_no_room htook]
    exact { law with }
  | true =>
    have hopen : x.phase ≠ .gone := by
      intro hgone
      rw [law.closed hgone] at htook
      exact Bool.noConfusion htook
    have hphase : (x.submit r awaited).phase ≠ .gone := hopen
    have hafter : (x.submit r awaited).unread = x.unread ++ [r] := by
      rw [unread_of_ne_gone hphase, unread_of_ne_gone hopen, submit_of_room htook]
      exact Arrivals.toList_push ..
    rw [submit_of_room htook] at hafter ⊢
    refine { law with
      accepted_eq := ?_
      count_eq := ?_
      missed_nil := fun hreads => ?_
      missed_eq := fun hreads => ?_ }
    · rw [hafter, law.accepted_eq, List.append_assoc]
    · rw [law.count_eq, List.length_append, List.length_singleton]
    · rw [if_pos hreads]
      exact law.missed_nil hreads
    · rw [hafter, hreads, law.missed_eq hreads]
      rfl

/-- What the collector does with records that it takes out keeps the law if it does for the batches
that were open. -/
theorem Lawful.absorb (law : Lawful sink s x) {α : Type} {e : Effect σ Collector α} {phase : Phase}
    {inbox : Inbox} {records : List Record} (reads : x.phase.reads = true)
    (stays : phase.reads = true)
    (items : ∀ key, Batch.itemsUnder key e.flushed ++ phase.itemsOf key =
      x.phase.itemsOf key ++ Record.payloadsUnder key records)
    (distinct : phase.Distinct) (fed : e.sink = sink.feed e.flushed x.sink)
    (queue : x.inbox.queue.toList = records ++ inbox.queue.toList)
    (count : inbox.accepted = x.inbox.accepted) :
    Lawful sink s (x.absorb e phase inbox records) where
  accepted_eq := by
    have hunread : (x.absorb e phase inbox records).unread = inbox.queue.toList :=
      unread_of_ne_gone (ne_gone_of_reads stays)
    rw [hunread]
    show x.accepted = (x.taken ++ records) ++ inbox.queue.toList
    rw [law.accepted_eq, unread_of_ne_gone (ne_gone_of_reads reads), queue, List.append_assoc]
  count_eq := count.trans law.count_eq
  missed_nil _ := law.missed_nil reads
  missed_eq h := by
    have hreads : phase.reads = false := h
    rw [stays] at hreads
    exact Bool.noConfusion hreads
  items key := by
    show Batch.itemsUnder key (x.flushed ++ e.flushed) ++ phase.itemsOf key =
      Record.payloadsUnder key (x.taken ++ records)
    rw [Record.payloadsUnder_append]
    exact Batch.itemsUnder_trans (law.items key) (items key)
  distinct := distinct
  fed := by
    show e.sink = sink.feed (x.flushed ++ e.flushed) s
    rw [fed, law.fed, Sink.feed_append]
  closed h := absurd h (ne_gone_of_reads stays)

theorem Lawful.round (law : Lawful sink s x) (returns : sink.Returns) {d : Collector}
    (hphase : x.phase = .looping d) (record : Option Record) (now : Nat) {inbox : Inbox}
    (queue : x.inbox.queue.toList = record.toList ++ inbox.queue.toList)
    (count : inbox.accepted = x.inbox.accepted) :
    Lawful sink s (x.absorb (d.receive sink record now x.sink)
      (.afterRound (d.receive sink record now x.sink) now) inbox record.toList) := by
  have hdistinct : d.batches.Distinct := by
    have h := law.distinct
    rwa [hphase] at h
  obtain ⟨hsink, full, hresult⟩ := Collector.receive_of_returns returns d record now x.sink
  have hafter : Phase.afterRound (d.receive sink record now x.sink) now =
      .looping (d.receive sink record now x.sink).after := by
    rw [Phase.afterRound, hresult]
  rw [hafter]
  refine law.absorb (by rw [hphase]; rfl) rfl ?_
    (Collector.receive_distinct hdistinct sink record now x.sink) hsink queue count
  intro key
  rw [hphase]
  exact Collector.receive_items returns hdistinct record now x.sink key

theorem Lawful.look (law : Lawful sink s x) (returns : sink.Returns) {d : Collector} {now : Nat}
    (hphase : x.phase = .draining d now) {r : Record} {rest : Inbox}
    (received : x.inbox.receive = some (r, rest)) :
    Lawful sink s (x.absorb (d.add sink r now x.sink)
      (.draining (d.add sink r now x.sink).after now) rest [r]) := by
  have hdistinct : d.batches.Distinct := by
    have h := law.distinct
    rwa [hphase] at h
  refine law.absorb (by rw [hphase]; rfl) rfl ?_ ?_ ?_ (Inbox.receive_eq_some received).1
    (Inbox.accepted_of_receive received)
  · intro key
    rw [hphase]
    exact d.add_items sink r now x.sink key
  · show (d.add sink r now x.sink).after.batches.Distinct
    rw [Collector.add_after]
    exact Collector.filled_distinct hdistinct r now
  · rw [Collector.add_of_returns returns]

theorem Lawful.start (law : Lawful sink s x) (hphase : x.phase = .waiting) (now : Nat) :
    Lawful sink s { x with phase := .looping (.start settings now), missed := [] } := by
  have hitems := law.items
  have haccepted := law.accepted_eq
  rw [hphase] at hitems
  rw [unread_of_ne_gone (by rw [hphase]; exact Phase.noConfusion)] at haccepted
  exact { law with
    accepted_eq := haccepted
    missed_nil := fun _ => rfl
    missed_eq := fun hreads => Bool.noConfusion hreads
    items := hitems
    distinct := OpenBatches.distinct_empty
    closed := fun hgone => Phase.noConfusion hgone }

theorem Lawful.stop (law : Lawful sink s x) {d : Collector} (hphase : x.phase = .looping d)
    (now : Nat) : Lawful sink s { x with phase := .draining d now } := by
  obtain ⟨haccepted, hcount, hmissed, -, hitems, hdistinct, hfed, -⟩ := law
  rw [hphase] at hmissed hitems hdistinct
  rw [unread_of_ne_gone (by rw [hphase]; exact Phase.noConfusion)] at haccepted
  exact ⟨haccepted, hcount, hmissed, fun hreads => Bool.noConfusion hreads, hitems, hdistinct,
    hfed, fun hgone => Phase.noConfusion hgone⟩

/-- The last look. From here on, what is accepted is missed. -/
theorem Lawful.lastLook (law : Lawful sink s x) {d : Collector} {now : Nat}
    (hphase : x.phase = .draining d now) (received : x.inbox.receive = none) :
    Lawful sink s { x with phase := .handing d.batches.drain.1 } := by
  obtain ⟨haccepted, hcount, hmissed, -, hitems, hdistinct, hfed, -⟩ := law
  rw [hphase] at hmissed hitems hdistinct
  rw [unread_of_ne_gone (by rw [hphase]; exact Phase.noConfusion)] at haccepted
  refine ⟨haccepted, hcount, fun hreads => Bool.noConfusion hreads, fun _ => ?_, fun key => ?_,
    trivial, hfed, fun hgone => Phase.noConfusion hgone⟩
  · show x.missed = x.inbox.queue.toList
    rw [hmissed rfl, Inbox.receive_eq_none_iff.1 received]
  · rw [← hitems key]
    exact congrArg _ (OpenBatches.itemsOf_drain hdistinct key)

theorem Lawful.hand (law : Lawful sink s x) {b : Batch} {rest : List Batch}
    (hphase : x.phase = .handing (b :: rest)) :
    Lawful sink s { x with
      sink := (sink b x.sink).2
      phase := .handing rest
      flushed := x.flushed ++ [b] } := by
  obtain ⟨haccepted, hcount, -, hmissed, hitems, -, hfed, -⟩ := law
  have hunread := unread_of_ne_gone (x := x) (by rw [hphase]; exact Phase.noConfusion)
  rw [hphase] at hmissed hitems
  rw [hunread] at haccepted hmissed
  refine ⟨haccepted, hcount, fun hreads => Bool.noConfusion hreads, fun _ => hmissed rfl,
    fun key => ?_, trivial, ?_, fun hgone => Phase.noConfusion hgone⟩
  · rw [← hitems key, Batch.itemsUnder_append, List.append_assoc]
    exact congrArg _ (Batch.itemsUnder_append key [b] rest).symm
  · rw [Sink.feed_append, ← hfed]
    rfl

theorem Lawful.close (law : Lawful sink s x) (hphase : x.phase = .handing []) :
    Lawful sink s { x with phase := .gone, inbox := x.inbox.close } := by
  obtain ⟨haccepted, hcount, -, hmissed, hitems, -, hfed, -⟩ := law
  rw [← hmissed (by rw [hphase]; rfl)] at haccepted
  rw [hphase] at hitems
  exact ⟨haccepted, hcount, fun hreads => Bool.noConfusion hreads, fun _ => rfl, hitems, trivial,
    hfed, fun _ => rfl⟩

/-- Every step keeps the law. -/
theorem Lawful.step (law : Lawful sink s x) (returns : sink.Returns) {event : Event}
    (h : x.step settings sink event = some after) : Lawful sink s after := by
  cases step_cases h with
  | submit r awaited => exact law.submit r awaited
  | start now waiting => exact law.start waiting now
  | @read d r rest now looping received =>
    exact law.round returns looping (some r) now (Inbox.receive_eq_some received).1
      (Inbox.accepted_of_receive received)
  | idle now looping => exact law.round returns looping none now rfl rfl
  | unstarted now waiting => exact law
  | stop now looping => exact law.stop looping now
  | look draining received => exact law.look returns draining received
  | lastLook draining received => exact law.lastLook draining received
  | hand handing => exact law.hand handing
  | close handing => exact law.close handing

theorem Lawful.run (law : Lawful sink s x) (returns : sink.Returns) {events : List Event}
    (h : x.run settings sink events = some after) : Lawful sink s after := by
  induction events generalizing x with
  | nil =>
    obtain rfl := Option.some.inj h
    exact law
  | cons event rest ih =>
    obtain ⟨next, hnext, hrest⟩ := Option.bind_eq_some_iff.1 h
    exact ih (law.step returns hnext) hrest

end Steps

/-! ## A shutdown that no producer interrupts -/

section Shutdown

variable (settings : Settings) (sink : Sink σ)

theorem run_append (events later : List Event) (x : Shift σ) :
    x.run settings sink (events ++ later) =
      (x.run settings sink events).bind fun y => y.run settings sink later := by
  induction events generalizing x with
  | nil => rfl
  | cons event rest ih =>
    rw [List.cons_append, run, run, Option.bind_assoc]
    exact congrArg _ (funext ih)

/-- Looks take out what is queued, and one more look finds nothing. -/
theorem run_looks {x : Shift σ} {d : Collector} {now : Nat} (hphase : x.phase = .draining d now)
    {queue : List Record} (hqueue : x.inbox.queue.toList = queue) :
    let drained := d.drainQueue sink now queue x.sink
    x.run settings sink (List.replicate (queue.length + 1) .look) =
      some { x with
        inbox := { x.inbox with queue := .empty }
        sink := drained.sink
        phase := .handing drained.after.batches.drain.1
        flushed := x.flushed ++ drained.flushed
        taken := x.taken ++ queue } := by
  induction queue generalizing x d with
  | nil =>
    have hnone := Inbox.receive_eq_none_iff.2 hqueue
    have hempty := Inbox.eq_of_toList_eq_nil hqueue
    have hstep : x.step settings sink .look =
        some { x with phase := .handing d.batches.drain.1 } := by
      rw [step, hphase, hnone]
    simp only [List.length_nil, List.replicate, run, hstep, Option.bind_some,
      Collector.drainQueue, List.append_nil, ← hempty]
  | cons r rest ih =>
    cases hreceived : x.inbox.receive with
    | none =>
      rw [Inbox.receive_eq_none_iff.1 hreceived] at hqueue
      exact absurd hqueue (by simp)
    | some found =>
      obtain ⟨r', inbox⟩ := found
      obtain ⟨htoList, hinbox⟩ := Inbox.receive_eq_some hreceived
      obtain ⟨rfl, hrest⟩ := List.cons.inj (htoList.symm.trans hqueue)
      have hstep : x.step settings sink .look = some (x.absorb (d.add sink r' now x.sink)
          (.draining (d.add sink r' now x.sink).after now) inbox [r']) := by
        rw [step, hphase, hreceived]
      have hlater := ih (x := x.absorb (d.add sink r' now x.sink)
        (.draining (d.add sink r' now x.sink).after now) inbox [r']) rfl hrest
      rw [List.length_cons, List.replicate_succ, run, hstep, Option.bind_some, hlater, hinbox]
      simp only [absorb, Collector.drainQueue, List.append_assoc, List.singleton_append]

theorem run_hands {x : Shift σ} {leftover : List Batch} (hphase : x.phase = .handing leftover) :
    x.run settings sink (List.replicate leftover.length .hand) =
      some { x with
        sink := (Collector.handOverAll sink leftover x.sink).1
        phase := .handing []
        flushed := x.flushed ++ leftover } := by
  induction leftover generalizing x with
  | nil =>
    simp only [List.length_nil, List.replicate, run, Collector.handOverAll, List.append_nil,
      ← hphase]
  | cons b rest ih =>
    have hstep : x.step settings sink .hand = some { x with
        sink := (sink b x.sink).2
        phase := .handing rest
        flushed := x.flushed ++ [b] } := by
      rw [step, hphase]
    have hlater := ih (x := { x with
      sink := (sink b x.sink).2
      phase := .handing rest
      flushed := x.flushed ++ [b] }) rfl
    rw [List.length_cons, List.replicate_succ, run, hstep, Option.bind_some, hlater,
      Collector.handOverAll_cons]
    simp only [List.append_assoc, List.singleton_append]

/-- The steps of a shutdown that no producer interrupts do what `Collector.shutdownInbox` does, and
nothing is missed that was not missed before. -/
theorem run_shutdown {x : Shift σ} {d : Collector} {now : Nat}
    (hphase : x.phase = .draining d now) :
    ∃ looks hands, x.run settings sink
        (List.replicate looks .look ++ (List.replicate hands .hand ++ [.close])) =
      some { x with
        inbox := x.inbox.close
        sink := (d.shutdownInbox sink x.inbox now x.sink).1.sink
        phase := .gone
        flushed := x.flushed ++ (d.shutdownInbox sink x.inbox now x.sink).1.flushed
        taken := x.taken ++ x.inbox.queue.toList } := by
  let drained := d.drainQueue sink now x.inbox.queue.toList x.sink
  let leftover := drained.after.batches.drain.1
  refine ⟨x.inbox.queue.toList.length + 1, leftover.length, ?_⟩
  rw [run_append, run_looks settings sink hphase rfl, Option.bind_some, run_append,
    run_hands settings sink rfl, Option.bind_some, Collector.shutdownInbox_eq]
  simp only [run, step, Option.bind_some, List.append_assoc]
  rfl

end Shutdown

/-! ## After a stop -/

theorem payloadsUnder_eq_nil_iff {rs : List Record} :
    (∀ key, Record.payloadsUnder key rs = []) ↔ rs = [] := by
  constructor
  · intro h
    cases rs with
    | nil => rfl
    | cons r rest =>
      have hr := h r.key
      rw [Record.payloadsUnder_cons, if_pos rfl] at hr
      exact absurd hr (List.cons_ne_nil r.payload _)
  · rintro rfl key
    rfl

/-- **What was accepted is handed over exactly if nothing was accepted after the last look.** When a
collector has ended, or was told to stop without having been started, everything that it took out of
the inbox is handed over, each record in one batch and each key in its order; the rest of what was
accepted is what came when the collector would not look again. -/
theorem stopped_complete_iff {sink : Sink σ} (returns : sink.Returns) (settings : Settings) (s : σ)
    (events : List Event) {x : Shift σ}
    (reached : (begin settings s).run settings sink events = some x)
    (stopped : x.phase = .gone ∨ x.phase = .waiting) :
    x.inbox.accepted = x.accepted.length ∧ x.accepted = x.taken ++ x.missed ∧
      x.sink = sink.feed x.flushed s ∧
      (∀ key, Batch.itemsUnder key x.flushed = Record.payloadsUnder key x.taken) ∧
      ((∀ key, Batch.itemsUnder key x.flushed = Record.payloadsUnder key x.accepted) ↔
        x.missed = []) := by
  have law : Lawful sink s x := (lawful_begin sink settings s).run returns reached
  -- the collector holds nothing any more, or nothing yet, and will not look again
  have hnone : ∀ key, x.phase.itemsOf key = [] := by
    intro key
    rcases stopped with hphase | hphase <;> rw [hphase] <;> rfl
  have hreads : x.phase.reads = false := by
    rcases stopped with hphase | hphase <;> rw [hphase] <;> rfl
  have haccepted : x.accepted = x.taken ++ x.missed := by
    rw [law.accepted_eq, law.missed_eq hreads]
  have htaken : ∀ key, Batch.itemsUnder key x.flushed = Record.payloadsUnder key x.taken := by
    intro key
    rw [← law.items key, hnone key, List.append_nil]
  refine ⟨law.count_eq, haccepted, law.fed, htaken, ?_⟩
  rw [← payloadsUnder_eq_nil_iff]
  refine forall_congr' fun key => ?_
  rw [htaken key, haccepted, Record.payloadsUnder_append]
  exact List.self_eq_append_right

/-- Records that are submitted before and during the shutdown, the last of them between two looks at
the inbox. -/
def timelySubmits : List Event :=
  [.start 0, .submit ⟨"a", .null⟩ false, .read 1, .submit ⟨"b", .null⟩ false, .stop 2, .look,
    .submit ⟨"a", .bool true⟩ false, .look, .look, .hand, .hand, .close,
    .submit ⟨"a", .bool false⟩ false]

theorem stopped_complete_iff_timelySubmits :
    Sink.keep.Returns ∧
      ∃ x, (begin { recordQueue := 1 } []).run { recordQueue := 1 } Sink.keep timelySubmits =
          some x ∧
        x.phase = .gone ∧ x.missed = [] ∧ x.inbox.accepted = 3 ∧
        ∀ key, Batch.itemsUnder key x.flushed = Record.payloadsUnder key x.accepted := by
  have hend : ((begin { recordQueue := 1 } []).run { recordQueue := 1 } Sink.keep
      timelySubmits).map (fun x => (x.phase, x.missed, x.inbox.accepted)) = some (.gone, [], 3) :=
    rfl
  obtain ⟨x, reached, hx⟩ := Option.map_eq_some_iff.1 hend
  obtain ⟨hphase, hrest⟩ := Prod.mk.inj hx
  obtain ⟨hmissed, haccepted⟩ := Prod.mk.inj hrest
  obtain ⟨-, -, -, -, hcomplete⟩ := stopped_complete_iff Sink.keep_returns { recordQueue := 1 } []
    timelySubmits reached (.inl hphase)
  exact ⟨Sink.keep_returns, x, reached, hphase, hmissed, haccepted, hcomplete.2 hmissed⟩

/-- A record that is submitted after the shutdown has found the inbox empty. -/
def lateSubmit : List Event :=
  [.start 0, .submit ⟨"a", .null⟩ false, .read 1, .stop 2, .look,
    .submit ⟨"a", .bool true⟩ false, .hand, .close]

/-- What is accepted after the last look is lost with the inbox; what is accepted by a collector
that is never started stays in it. -/
theorem accepted_and_lost :
    (∃ x, (begin { recordQueue := 1 } []).run { recordQueue := 1 } Sink.keep lateSubmit = some x ∧
      x.phase = .gone ∧ x.inbox.accepted = 2 ∧
      x.accepted = [⟨"a", .null⟩, ⟨"a", .bool true⟩] ∧ x.sink = [⟨"a", [.null]⟩] ∧
      ¬∀ key, Batch.itemsUnder key x.flushed = Record.payloadsUnder key x.accepted) ∧
    ∃ x, (begin { recordQueue := 1 } []).run { recordQueue := 1 } Sink.keep
        [.submit ⟨"a", .null⟩ false, .stop 0] = some x ∧
      x.phase = .waiting ∧ x.inbox.accepted = 1 ∧ x.accepted = [⟨"a", .null⟩] ∧ x.sink = [] ∧
      ¬∀ key, Batch.itemsUnder key x.flushed = Record.payloadsUnder key x.accepted := by
  constructor
  · refine ⟨_, rfl, rfl, rfl, rfl, rfl, fun complete => ?_⟩
    have hlength := congrArg List.length (complete "a")
    exact absurd hlength (by decide)
  · refine ⟨_, rfl, rfl, rfl, rfl, rfl, fun complete => ?_⟩
    have hlength := congrArg List.length (complete "a")
    exact absurd hlength (by decide)

end Shift

end EventBatching
