import EventBatching.Proofs.Pipeline.EndToEnd

/-!
# Stopping a pipeline

A pipeline is told to take records, to start and to stop, in any order and as often as anybody
likes. Each of these calls ends before the next one begins, while the collector and the senders go
on all the time. To stop is to interrupt the collector, to wait until it has ended, and to close the
pool; a panic may have ended the collector before. A pipeline that was not started has no collector,
and nobody closes its inbox. So a stop is final exactly if a start came before it. This is herald's
`Processor` with its `submit`, `start` and `stop` among threads.

* `Lifetime` is a pipeline with the calls that it is given. `Lifetime.step` is one step of a caller,
  of the collector or of the pool, and `Lifetime.run` a sequence of them; `Lifetime.Step` lists what
  a step can do.
* `Shift.step_kept` says that a sink which never panics might as well only keep what it is given, so
  that the pool may do what it likes meanwhile.
* `Lifetime.Sound` is what every step keeps, and `Lifetime.Calm` what every step keeps if the sink
  never panics. `Lifetime.Over` is what a stop leaves that is final.
* `Lifetime.run_stopped` is what holds after a stop, and `Lifetime.unstarted_stopped` the stop that
  is not final.
-/

namespace EventBatching

/-! ## Sinks that never panic -/

namespace Collector

variable {σ : Type} {flush : Sink σ}

theorem tick_keep (returns : flush.Returns) (d : Collector) (flushed : Bool) (now : Nat) (s : σ)
    (kept : List Batch) :
    (d.tick flush flushed now s).flushed = (d.tick Sink.keep flushed now kept).flushed ∧
      (d.tick flush flushed now s).after = (d.tick Sink.keep flushed now kept).after := by
  rw [tick, tick]
  split
  · rw [sweep_of_returns returns, sweep_of_returns Sink.keep_returns]
    exact ⟨rfl, rfl⟩
  · exact ⟨rfl, rfl⟩

/-- What a round closes and what stays open is the same for every sink that never panics. -/
theorem receive_keep (returns : flush.Returns) (d : Collector) (record : Option Record) (now : Nat)
    (s : σ) (kept : List Batch) :
    (d.receive flush record now s).flushed = (d.receive Sink.keep record now kept).flushed ∧
      (d.receive flush record now s).after = (d.receive Sink.keep record now kept).after := by
  cases record with
  | none => exact tick_keep returns d false now s kept
  | some r =>
    simp only [receive, add_of_returns returns, add_of_returns Sink.keep_returns]
    obtain ⟨hflushed, hafter⟩ := tick_keep returns { d with batches := (d.filled r now).2 }
      (d.filled r now).1.isSome now (flush.feed (d.filled r now).1.toList s)
      (Sink.keep.feed (d.filled r now).1.toList kept)
    rw [hflushed, hafter]
    exact ⟨rfl, rfl⟩

end Collector

theorem Sink.keep_feed (bs kept : List Batch) : Sink.keep.feed bs kept = kept ++ bs := by
  induction bs generalizing kept with
  | nil => exact (List.append_nil kept).symm
  | cons b rest ih =>
    rw [feed_cons, ih]
    exact List.append_assoc kept [b] rest

namespace Phase

variable {σ : Type} {e : Effect σ Collector Bool}

theorem afterRound_of_ok {full : Bool} (ok : e.result = .ok full) (now : Nat) :
    afterRound e now = .looping e.after := by rw [afterRound, ok]

theorem afterRound_of_error {message : String} (error : e.result = .error message) (now : Nat) :
    afterRound e now = .draining e.after now := by rw [afterRound, error]

end Phase

namespace Shift

variable {σ : Type} {settings : Settings} {flush : Sink σ} {x after : Shift σ} {event : Event}

/-- The shift with a sink that keeps what it is given. -/
def kept (x : Shift σ) : Shift (List Batch) :=
  ⟨x.inbox, x.flushed, x.phase, x.flushed, x.accepted, x.taken, x.missed⟩

theorem afterRound_of_returns (returns : flush.Returns) (d : Collector) (record : Option Record)
    (now : Nat) (s : σ) :
    Phase.afterRound (d.receive flush record now s) now =
      .looping (d.receive flush record now s).after := by
  obtain ⟨-, full, hresult⟩ := Collector.receive_of_returns returns d record now s
  exact Phase.afterRound_of_ok hresult now

/-- What the collector takes in does not hang on the sink. -/
theorem absorb_kept (returns : flush.Returns) (d : Collector) (record : Option Record) (now : Nat)
    (inbox : Inbox) (records : List Record) :
    (x.absorb (d.receive flush record now x.sink)
        (.afterRound (d.receive flush record now x.sink) now) inbox records).kept =
      x.kept.absorb (d.receive Sink.keep record now x.flushed)
        (.afterRound (d.receive Sink.keep record now x.flushed) now) inbox records := by
  obtain ⟨hflushed, hafter⟩ := Collector.receive_keep returns d record now x.sink x.flushed
  obtain ⟨hsink, -⟩ :=
    Collector.receive_of_returns Sink.keep_returns d record now x.flushed
  rw [afterRound_of_returns returns, afterRound_of_returns Sink.keep_returns]
  simp only [kept, absorb, hflushed, hafter, hsink, Sink.keep_feed]

/-- A sink that never panics might as well keep what it is given. -/
theorem step_kept (returns : flush.Returns) (h : x.step settings flush event = some after) :
    x.kept.step settings Sink.keep event = some after.kept := by
  cases step_cases h with
  | submit r awaited => rfl
  | start now waiting => simp only [step, kept, waiting]
  | @read d r rest now looping received =>
    rw [absorb_kept returns]
    simp only [step, kept, looping, received]
  | @idle d now looping =>
    rw [absorb_kept returns]
    simp only [step, kept, looping]
  | unstarted now waiting => simp only [step, kept, waiting]
  | stop now looping => simp only [step, kept, looping]
  | @look d now r rest draining received =>
    simp only [step, kept, draining, received, absorb, Collector.add_of_returns returns,
      Collector.add_of_returns Sink.keep_returns, Sink.keep_feed]
  | lastLook draining received => simp only [step, kept, draining, received]
  | hand handing =>
    simp only [step, kept, handing]
    rfl
  | close handing => simp only [step, kept, handing]

/-! ## What a collector does to its inbox -/

/-- Only a start begins the work of a collector. -/
theorem waiting_step (h : x.step settings flush event = some after)
    (starts : ∀ now, event ≠ .start now) : after.phase = .waiting ↔ x.phase = .waiting := by
  cases step_cases h with
  | submit r awaited => exact Iff.rfl
  | start now waiting => exact absurd rfl (starts now)
  | unstarted now waiting => exact Iff.rfl
  | read now looping received =>
    simp only [absorb, looping, Phase.afterRound, reduceCtorEq, iff_false]
    split <;> exact Phase.noConfusion
  | idle now looping =>
    simp only [absorb, looping, Phase.afterRound, reduceCtorEq, iff_false]
    split <;> exact Phase.noConfusion
  | stop now looping => simp [looping]
  | look draining received => simp [absorb, draining]
  | lastLook draining received => simp [draining]
  | hand handing => simp [handing]
  | close handing => simp [handing]

theorem afterRound_ne_gone {α : Type} (e : Effect α Collector Bool) (now : Nat) :
    Phase.afterRound e now ≠ .gone := by
  rw [Phase.afterRound]
  split <;> exact Phase.noConfusion

/-- Nobody but a collector that ends closes the inbox. -/
theorem receiving_step (h : x.step settings flush event = some after)
    (closed : x.inbox.receiving = false ↔ x.phase = .gone) :
    after.inbox.receiving = false ↔ after.phase = .gone := by
  have hopen : ∀ {y : Shift σ}, x.phase ≠ .gone → y.phase ≠ .gone →
      y.inbox.receiving = x.inbox.receiving →
      (y.inbox.receiving = false ↔ y.phase = .gone) := by
    intro y hx hy hsame
    rw [hsame, closed]
    exact ⟨fun hgone => absurd hgone hx, fun hgone => absurd hgone hy⟩
  cases step_cases h with
  | submit r awaited =>
    cases htook : x.inbox.receiving && x.inbox.hasRoom awaited with
    | false =>
      rw [submit_of_no_room htook]
      exact closed
    | true =>
      rw [submit_of_room htook]
      exact closed
  | start now waiting => exact hopen (by simp [waiting]) nofun rfl
  | unstarted now waiting => exact closed
  | read now looping received =>
    refine hopen (by simp [looping]) (afterRound_ne_gone _ now) ?_
    rw [(Inbox.receive_eq_some received).2]
    rfl
  | idle now looping => exact hopen (by simp [looping]) (afterRound_ne_gone _ now) rfl
  | stop now looping => exact hopen (by simp [looping]) nofun rfl
  | look draining received =>
    refine hopen (by simp [draining]) nofun ?_
    rw [(Inbox.receive_eq_some received).2]
    rfl
  | lastLook draining received => exact hopen (by simp [draining]) nofun rfl
  | hand handing => exact hopen (by simp [handing]) nofun rfl
  | close handing => exact ⟨fun _ => rfl, fun _ => rfl⟩

/-- What was accepted is counted. -/
theorem count_step (h : x.step settings flush event = some after)
    (count : x.inbox.accepted = x.accepted.length) :
    after.inbox.accepted = after.accepted.length := by
  cases step_cases h with
  | submit r awaited =>
    cases htook : x.inbox.receiving && x.inbox.hasRoom awaited with
    | false =>
      rw [submit_of_no_room htook]
      exact count
    | true =>
      rw [submit_of_room htook]
      show x.inbox.accepted + 1 = (x.accepted ++ [r]).length
      rw [count, List.length_append, List.length_singleton]
  | read now looping received => exact (Inbox.accepted_of_receive received).trans count
  | look draining received => exact (Inbox.accepted_of_receive received).trans count
  | _ => exact count

end Shift

namespace Sending

variable {π ρ : Type}

/-- The pool takes no more batches. -/
def close (s : Sending π ρ) : Sending π ρ := { s with pool := s.pool.shutdown }

/-- To give a batch to the pool panics only if the policy does. -/
theorem trySend_returns {d : Downstream π ρ} (returns : d.policy.Returns) (b : Batch)
    (s : Sending π ρ) : ∃ result, (trySend d b s).1 = .ok result := by
  rw [trySend]
  split
  · exact ⟨_, rfl⟩
  · next why hwhy =>
    simp only [returns b why s.refused]
    exact ⟨_, rfl⟩

theorem sink_returns {d : Downstream π ρ} (returns : d.policy.Returns) : (sink d).Returns := by
  intro b s
  obtain ⟨result, hresult⟩ := trySend_returns returns b { s with flushed := s.flushed + 1 }
  simp only [sink, hresult]

end Sending

/-! ## A pipeline with its calls -/

/-- A pipeline with the calls that it is given, one after another. -/
structure Lifetime (π ρ : Type) where
  /-- The inbox and the collector, in front of the pool. -/
  shift : Shift (Sending π ρ)
  /-- Whether a stop is under way. -/
  stopping : Bool := false
  /-- The number of starts that succeeded. -/
  starts : Nat := 0

namespace Phase

/-- Whether a stop need not wait for the collector: there was none, or it has ended. -/
def idle : Phase → Bool
  | waiting | gone => true
  | looping _ | draining _ _ | handing _ => false

/-- Whether the collector shuts down. -/
def closing : Phase → Bool
  | draining _ _ | handing _ => true
  | waiting | looping _ | gone => false

end Phase

namespace Lifetime

variable {π ρ : Type}

/-- What happens next. -/
inductive Event (π ρ : Type) where
  /-- A record is submitted. -/
  | submit (r : Record) (awaited : Bool)
  /-- The pipeline is told to start. -/
  | start (now : Nat)
  /-- A stop begins. -/
  | stop
  /-- The stop ends. -/
  | stopped
  /-- The collector does a step. -/
  | collector (event : Shift.Event)
  /-- The pool does something. -/
  | pool (work : Sending π ρ → Sending π ρ)

/-- Whether a record is submitted. -/
def Event.isSubmit : Event π ρ → Bool
  | .submit _ _ => true
  | .start _ | .stop | .stopped | .collector _ | .pool _ => false

/-- Whether the pool does something. -/
def Event.isPool : Event π ρ → Bool
  | .pool _ => true
  | .submit _ _ | .start _ | .stop | .stopped | .collector _ => false

/-- A pipeline to which nothing has happened. -/
def begin (settings : Settings) (s : Sending π ρ) : Lifetime π ρ := { shift := .begin settings s }

/-- Whether the collector may do a step by itself. Only a stop interrupts it. -/
def allows (life : Lifetime π ρ) : Shift.Event → Bool
  | .read _ | .idle _ | .look | .hand | .close => true
  | .stop _ => life.stopping
  | .submit _ _ | .start _ => false

/-- Something is done to the pool. -/
def work (life : Lifetime π ρ) (change : Sending π ρ → Sending π ρ) : Lifetime π ρ :=
  { life with shift := { life.shift with sink := change life.shift.sink } }

/-- The counters. -/
def counters (life : Lifetime π ρ) : Counters :=
  { accepted := life.shift.inbox.accepted
    dropped := life.shift.inbox.dropped
    batchesFlushed := life.shift.sink.flushed
    batchesSent := life.shift.sink.pool.sent
    sendRejected := life.shift.sink.pool.rejected
    sendFailed := life.shift.sink.pool.failed }

/-- Performs a step, if it can be performed. While a stop is under way there is no other call. -/
def step (settings : Settings) (flush : Sink (Sending π ρ)) (life : Lifetime π ρ) :
    Event π ρ → Option (Lifetime π ρ)
  | .submit r awaited =>
    if life.stopping then none else some { life with shift := life.shift.submit r awaited }
  | .start now =>
    if life.stopping then none
    else
      match life.shift.step settings flush (.start now) with
      | some shift => some { life with shift := shift, starts := life.starts + 1 }
      | none => some life
  | .stop => if life.stopping then none else some { life with stopping := true }
  | .stopped =>
    if life.stopping && life.shift.phase.idle then
      some { life.work Sending.close with stopping := false }
    else none
  | .collector event =>
    if life.allows event then
      (life.shift.step settings flush event).map fun shift => { life with shift := shift }
    else none
  | .pool change => some (life.work change)

/-- Performs steps one after another. -/
def run (settings : Settings) (flush : Sink (Sending π ρ)) :
    List (Event π ρ) → Lifetime π ρ → Option (Lifetime π ρ)
  | [], life => some life
  | event :: rest, life => (life.step settings flush event).bind (run settings flush rest)

/-! ### What a step can do -/

/-- What a step can do to a pipeline. -/
inductive Step (settings : Settings) (flush : Sink (Sending π ρ)) (life : Lifetime π ρ) :
    Event π ρ → Lifetime π ρ → Prop
  | submit (r : Record) (awaited : Bool) (free : life.stopping = false) :
      Step settings flush life (.submit r awaited)
        { life with shift := life.shift.submit r awaited }
  | start {shift : Shift (Sending π ρ)} (now : Nat) (free : life.stopping = false)
      (moved : life.shift.step settings flush (.start now) = some shift) :
      Step settings flush life (.start now)
        { life with shift := shift, starts := life.starts + 1 }
  | startAgain (now : Nat) (free : life.stopping = false) (started : life.shift.phase ≠ .waiting) :
      Step settings flush life (.start now) life
  | stop (free : life.stopping = false) :
      Step settings flush life .stop { life with stopping := true }
  | stopped (stopping : life.stopping = true) (idle : life.shift.phase.idle = true) :
      Step settings flush life .stopped { life.work Sending.close with stopping := false }
  | collector {event : Shift.Event} {shift : Shift (Sending π ρ)}
      (allowed : life.allows event = true)
      (moved : life.shift.step settings flush event = some shift) :
      Step settings flush life (.collector event) { life with shift := shift }
  | pool (change : Sending π ρ → Sending π ρ) :
      Step settings flush life (.pool change) (life.work change)

section Steps

variable {settings : Settings} {flush : Sink (Sending π ρ)} {life after : Lifetime π ρ}
  {event : Event π ρ}

theorem step_cases (h : life.step settings flush event = some after) :
    Step settings flush life event after := by
  cases event with
  | submit r awaited =>
    obtain ⟨free, hafter⟩ := Option.ite_none_left_eq_some.1 h
    obtain rfl := Option.some.inj hafter
    exact .submit r awaited (by simpa using free)
  | start now =>
    obtain ⟨free, hafter⟩ := Option.ite_none_left_eq_some.1 h
    split at hafter
    · next shift moved =>
      obtain rfl := Option.some.inj hafter
      exact .start now (by simpa using free) moved
    · next refused =>
      obtain rfl := Option.some.inj hafter
      refine .startAgain now (by simpa using free) fun waiting => ?_
      simp [Shift.step, waiting] at refused
  | stop =>
    obtain ⟨free, hafter⟩ := Option.ite_none_left_eq_some.1 h
    obtain rfl := Option.some.inj hafter
    exact .stop (by simpa using free)
  | stopped =>
    obtain ⟨hboth, hafter⟩ := Option.ite_none_right_eq_some.1 h
    obtain ⟨stopping, idle⟩ := Bool.and_eq_true_iff.1 hboth
    obtain rfl := Option.some.inj hafter
    exact .stopped stopping idle
  | collector event =>
    obtain ⟨allowed, hmap⟩ := Option.ite_none_right_eq_some.1 h
    obtain ⟨shift, moved, rfl⟩ := Option.map_eq_some_iff.1 hmap
    exact .collector allowed moved
  | pool change =>
    obtain rfl := Option.some.inj h
    exact .pool change

theorem run_append (events later : List (Event π ρ)) (life : Lifetime π ρ) :
    life.run settings flush (events ++ later) =
      (life.run settings flush events).bind fun life => life.run settings flush later := by
  induction events generalizing life with
  | nil => rfl
  | cons event rest ih =>
    rw [List.cons_append, run, run, Option.bind_assoc]
    exact congrArg _ (funext ih)

/-- What every step keeps is kept by a run. -/
theorem run_keeps {P : Lifetime π ρ → Prop}
    (kept : ∀ {life after : Lifetime π ρ} {event : Event π ρ}, P life →
      Step settings flush life event after → P after)
    (h : P life) {events : List (Event π ρ)}
    (reached : life.run settings flush events = some after) : P after := by
  induction events generalizing life with
  | nil =>
    obtain rfl := Option.some.inj reached
    exact h
  | cons event rest ih =>
    obtain ⟨next, hnext, hrest⟩ := Option.bind_eq_some_iff.1 reached
    exact ih (kept h (step_cases hnext)) hrest

/-! ### What every step keeps -/

/-- A start succeeds once, and the inbox is open until the collector has ended. -/
structure Sound (life : Lifetime π ρ) : Prop where
  /-- No second start succeeds. -/
  starts_le : life.starts ≤ 1
  /-- The collector waits for the first one. -/
  waiting_iff : life.shift.phase = .waiting ↔ life.starts = 0
  /-- Nobody but a collector that ends closes the inbox. -/
  closed_iff : life.shift.inbox.receiving = false ↔ life.shift.phase = .gone
  /-- What was accepted is counted. -/
  count_eq : life.shift.inbox.accepted = life.shift.accepted.length

theorem sound_begin (settings : Settings) (s : Sending π ρ) : (begin settings s).Sound :=
  ⟨Nat.zero_le 1, ⟨fun _ => rfl, fun _ => rfl⟩, ⟨nofun, nofun⟩, rfl⟩

/-- A step of a producer or of the collector is not a start. -/
theorem ne_start_of_allows {event : Shift.Event} (allowed : life.allows event = true) (now : Nat) :
    event ≠ .start now := by
  rintro rfl
  exact Bool.noConfusion allowed

/-- What is done to the front of a pipeline keeps it sound, if it is not a start. -/
theorem Sound.shift (sound : life.Sound) {event : Shift.Event} {shift : Shift (Sending π ρ)}
    (moved : life.shift.step settings flush event = some shift)
    (started : ∀ now, event ≠ .start now) : Sound { life with shift := shift } :=
  ⟨sound.starts_le, (Shift.waiting_step moved started).trans sound.waiting_iff,
    Shift.receiving_step moved sound.closed_iff, Shift.count_step moved sound.count_eq⟩

theorem Sound.step (sound : life.Sound) (hstep : Step settings flush life event after) :
    after.Sound := by
  cases hstep with
  | submit r awaited free =>
    have hmoved : life.shift.step settings flush (.submit r awaited) =
        some (life.shift.submit r awaited) := rfl
    exact sound.shift hmoved nofun
  | start now free moved =>
    obtain ⟨hle, hwaiting, hclosed, hcount⟩ := sound
    have hreceiving := Shift.receiving_step moved hclosed
    have hcount' := Shift.count_step moved hcount
    cases Shift.step_cases moved with
    | start now waiting =>
      have hnone : life.starts = 0 := hwaiting.1 waiting
      refine ⟨?_, ⟨nofun, ?_⟩, hreceiving, hcount'⟩
      · show life.starts + 1 ≤ 1
        rw [hnone]
      · exact fun h => absurd h (Nat.succ_ne_zero _)
  | startAgain now free started => exact sound
  | stop free => exact { sound with }
  | stopped stopping idle => exact { sound with }
  | collector allowed moved => exact sound.shift moved (ne_start_of_allows allowed)
  | pool change => exact { sound with }

/-- What every step keeps if the sink never panics. Then the collector shuts down only because it is
told to, and nobody submits anything meanwhile. -/
structure Calm (life : Lifetime π ρ) : Prop where
  /-- The records are where they should be. -/
  lawful : Shift.Lawful Sink.keep [] life.shift.kept
  /-- The collector shuts down only during a stop. -/
  stopping : life.shift.phase.closing = true → life.stopping = true
  /-- A collector that was started has missed nothing. -/
  missed : life.shift.phase ≠ .waiting → life.shift.missed = []

theorem calm_begin (settings : Settings) (s : Sending π ρ) : (begin settings s).Calm :=
  ⟨Shift.lawful_begin Sink.keep settings [], nofun, fun h => absurd rfl h⟩

theorem Calm.submit (calm : life.Calm) (free : life.stopping = false) (r : Record)
    (awaited : Bool) : Calm { life with shift := life.shift.submit r awaited } := by
  have hlawful := calm.lawful.submit r awaited
  refine ⟨hlawful, calm.stopping, fun hstarted => ?_⟩
  cases hphase : life.shift.phase with
  | waiting => exact absurd hphase hstarted
  | looping d => exact hlawful.missed_nil (by simp [Shift.kept, Shift.submit, hphase, Phase.reads])
  | draining d now =>
    exact absurd (calm.stopping (by rw [hphase]; rfl)) (by simp [free])
  | handing leftover =>
    exact absurd (calm.stopping (by rw [hphase]; rfl)) (by simp [free])
  | gone =>
    -- the inbox is closed, so the record is dropped
    have hclosed : life.shift.inbox.receiving = false := calm.lawful.closed hphase
    show (life.shift.submit r awaited).missed = []
    rw [Shift.submit_of_closed hclosed]
    exact calm.missed (by simp [hphase])

theorem Calm.collector (calm : life.Calm) (returns : flush.Returns) {event : Shift.Event}
    {shift : Shift (Sending π ρ)} (allowed : life.allows event = true)
    (moved : life.shift.step settings flush event = some shift) :
    Calm { life with shift := shift } := by
  have hwaiting := Shift.waiting_step moved (ne_start_of_allows allowed)
  have hsubmit : event.isSubmit = false := by
    cases event with
    | submit r awaited => exact Bool.noConfusion allowed
    | _ => rfl
  refine ⟨calm.lawful.step Sink.keep_returns (Shift.step_kept returns moved), ?_,
    fun hstarted => Shift.missed_step moved hsubmit
      (calm.missed fun h => hstarted (hwaiting.2 h))⟩
  -- the sink never panics, so a round goes on to the next one
  cases Shift.step_cases moved with
  | submit r awaited => exact Bool.noConfusion allowed
  | start now waiting => exact Bool.noConfusion allowed
  | read now looping received =>
    simp only [Shift.absorb, Shift.afterRound_of_returns returns]
    exact fun h => Bool.noConfusion h
  | idle now looping =>
    simp only [Shift.absorb, Shift.afterRound_of_returns returns]
    exact fun h => Bool.noConfusion h
  | unstarted now waiting => exact calm.stopping
  | stop now looping => exact fun _ => allowed
  | look draining received => exact fun _ => calm.stopping (by rw [draining]; rfl)
  | lastLook draining received => exact fun _ => calm.stopping (by rw [draining]; rfl)
  | hand handing => exact fun _ => calm.stopping (by rw [handing]; rfl)
  | close handing => exact fun h => Bool.noConfusion h

theorem Calm.step (calm : life.Calm) (returns : flush.Returns)
    (hstep : Step settings flush life event after) : after.Calm := by
  cases hstep with
  | submit r awaited free => exact calm.submit free r awaited
  | start now free moved =>
    have hlawful := calm.lawful.step Sink.keep_returns (Shift.step_kept returns moved)
    cases Shift.step_cases moved with
    | start now waiting => exact ⟨hlawful, nofun, fun _ => rfl⟩
  | startAgain now free started => exact calm
  | stop free => exact ⟨calm.lawful, fun _ => rfl, calm.missed⟩
  | stopped stopping idle =>
    refine ⟨calm.lawful, fun closing => ?_, calm.missed⟩
    have hclosing : life.shift.phase.closing = true := closing
    cases hphase : life.shift.phase <;> simp [hphase, Phase.idle, Phase.closing] at idle hclosing
  | collector allowed moved => exact calm.collector returns allowed moved
  | pool change => exact ⟨calm.lawful, calm.stopping, calm.missed⟩

/-! ### After a final stop -/

/-- The collector has ended and closed the inbox. -/
structure Over (life : Lifetime π ρ) : Prop where
  /-- The collector has ended. -/
  gone : life.shift.phase = .gone
  /-- The inbox is closed. -/
  closed : life.shift.inbox.receiving = false

/-- Nothing happens any more but that records are dropped and that the pool goes on. -/
theorem Over.step (isOver : life.Over) (hstep : Step settings flush life event after) :
    after.Over ∧ after.shift.kept = life.shift.kept.dropping event.isSubmit.toNat ∧
      (event.isPool = false →
        after.counters =
          { life.counters with dropped := life.counters.dropped + event.isSubmit.toNat }) := by
  cases hstep with
  | submit r awaited free =>
    rw [Shift.submit_of_closed isOver.closed]
    exact ⟨⟨isOver.gone, isOver.closed⟩, rfl, fun _ => rfl⟩
  | start now free moved =>
    obtain ⟨hsubmit, -⟩ := Shift.step_of_gone moved isOver.gone isOver.closed
    exact Bool.noConfusion hsubmit
  | startAgain now free started => exact ⟨isOver, rfl, fun _ => rfl⟩
  | stop free => exact ⟨⟨isOver.gone, isOver.closed⟩, rfl, fun _ => rfl⟩
  | stopped stopping idle => exact ⟨⟨isOver.gone, isOver.closed⟩, rfl, fun _ => rfl⟩
  | @collector event shift allowed moved =>
    obtain ⟨hsubmit, -⟩ := Shift.step_of_gone moved isOver.gone isOver.closed
    cases event with
    | submit r awaited => exact Bool.noConfusion allowed
    | _ => exact Bool.noConfusion hsubmit
  | pool change => exact ⟨⟨isOver.gone, isOver.closed⟩, rfl, nofun⟩

theorem countP_isSubmit_cons (event : Event π ρ) (rest : List (Event π ρ)) :
    (event :: rest).countP Event.isSubmit =
      event.isSubmit.toNat + rest.countP Event.isSubmit := by
  rw [List.countP_cons, Nat.add_comm]
  cases event.isSubmit <;> rfl

theorem Over.run (isOver : life.Over) {events : List (Event π ρ)}
    (reached : life.run settings flush events = some after) :
    after.Over ∧ after.shift.kept = life.shift.kept.dropping (events.countP Event.isSubmit) ∧
      ((∀ event ∈ events, event.isPool = false) →
        after.counters = { life.counters with
          dropped := life.counters.dropped + events.countP Event.isSubmit }) := by
  induction events generalizing life with
  | nil =>
    obtain rfl := Option.some.inj reached
    exact ⟨isOver, rfl, fun _ => rfl⟩
  | cons event rest ih =>
    obtain ⟨next, hnext, hrest⟩ := Option.bind_eq_some_iff.1 reached
    obtain ⟨hover, hshift, hcounters⟩ := isOver.step (step_cases hnext)
    obtain ⟨hend, hshift', hcounters'⟩ := ih hover hrest
    rw [countP_isSubmit_cons, ← Nat.add_assoc]
    refine ⟨hend, ?_, fun hquiet => ?_⟩
    · rw [hshift', hshift]
      simp only [Shift.dropping, Nat.add_assoc]
    · obtain ⟨hevent, hothers⟩ := List.forall_mem_cons.1 hquiet
      rw [hcounters' hothers, hcounters hevent]

/-- A stop that finds the collector ended has nothing to do but to close the pool once more. -/
theorem Over.run_stop (isOver : life.Over) (free : life.stopping = false) :
    life.run settings flush [.stop, .stopped] = some (life.work Sending.close) := by
  obtain ⟨shift, stopping, starts⟩ := life
  obtain rfl : stopping = false := free
  have hidle : shift.phase.idle = true := by
    rw [isOver.gone]
    rfl
  simp [Lifetime.run, Lifetime.step, hidle, work]

end Steps

/-! ## Runs -/

section Runs

variable {settings : Settings} {flush : Sink (Sending π ρ)}

/-- A stop of a pipeline that was started ends when the collector has. -/
theorem over_of_started {s : Sending π ρ} {events : List (Event π ρ)} {stopped : Lifetime π ρ}
    (reached : (begin settings s).run settings flush (events ++ [.stopped]) = some stopped)
    (started : stopped.starts = 1) : stopped.Over := by
  have hsound : stopped.Sound := run_keeps Sound.step (sound_begin settings s) reached
  rw [run_append] at reached
  obtain ⟨before, -, hlast⟩ := Option.bind_eq_some_iff.1 reached
  obtain ⟨after, hstep, hafter⟩ := Option.bind_eq_some_iff.1 hlast
  obtain rfl := Option.some.inj hafter
  have hidle : after.shift.phase.idle = true := by
    cases step_cases hstep with
    | stopped stopping idle => exact idle
  have hgone : after.shift.phase = .gone := by
    cases hphase : after.shift.phase with
    | waiting =>
      rw [hsound.waiting_iff.1 hphase] at started
      exact absurd started Nat.zero_ne_one
    | gone => rfl
    | _ => simp [hphase, Phase.idle] at hidle
  exact ⟨hgone, hsound.closed_iff.2 hgone⟩

/-- An inbox that is closed was that of a collector that was started. -/
theorem Sound.started_of_closed {life : Lifetime π ρ} (sound : life.Sound)
    (closed : life.shift.inbox.receiving = false) : life.starts = 1 := by
  have hgone : life.shift.phase = .gone := sound.closed_iff.1 closed
  have hsome : life.starts ≠ 0 := fun h => by simp [sound.waiting_iff.2 h] at hgone
  have hle := sound.starts_le
  omega

/-- Once a collector that was started has ended without a panic, everything that was accepted is
handed over. -/
theorem Calm.complete {life : Lifetime π ρ} (calm : life.Calm) (isOver : life.Over) :
    (∀ key, Batch.itemsUnder key life.shift.flushed =
        Record.payloadsUnder key life.shift.accepted) ∧
      (life.shift.flushed.flatMap Batch.records).Perm life.shift.accepted := by
  have hmissed : life.shift.missed = [] := calm.missed (by simp [isOver.gone])
  have hall : ∀ key, Batch.itemsUnder key life.shift.flushed =
      Record.payloadsUnder key life.shift.accepted := by
    intro key
    have hitems := calm.lawful.items key
    have haccepted := calm.lawful.accepted_eq
    simp only [Shift.kept, Shift.unread, isOver.gone, hmissed, Phase.itemsOf, List.append_nil]
      at hitems haccepted
    rw [haccepted, hitems]
  refine ⟨hall, Record.perm_of_payloadsUnder fun key => ?_⟩
  rw [Batch.payloadsUnder_flatMap_records, hall]

/-- **A stop is final exactly if a start came before it.** A pipeline is told to take records, to
start and to stop, in any order; the last of these calls is a stop, which has ended. No two starts
succeed, then or later. The inbox is closed if and only if a start had succeeded, and then, whatever
comes later: the number of accepted records and the batches that were handed over stay as they are,
every submit is counted as dropped, and no counter changes otherwise unless the pool changes it by
itself. If handing over never panics, everything that was accepted was handed over, each record in
one batch, and each key in its order. A further stop ends at once; it closes the pool again, and
changes no counter. -/
theorem run_stopped (s : Sending π ρ) {earlier later : List (Event π ρ)}
    {stopped ended : Lifetime π ρ}
    (reached : (begin settings s).run settings flush (earlier ++ [.stopped]) = some stopped)
    (continued : stopped.run settings flush later = some ended) :
    ended.starts ≤ 1 ∧
      (stopped.shift.inbox.receiving = false ↔ stopped.starts = 1) ∧
      (stopped.starts = 1 →
        ended.counters.accepted = stopped.counters.accepted ∧
        ended.shift.flushed = stopped.shift.flushed ∧
        ended.counters.dropped = stopped.counters.dropped + later.countP Event.isSubmit ∧
        ((∀ event ∈ later, event.isPool = false) →
          ended.counters = { stopped.counters with dropped := ended.counters.dropped }) ∧
        (flush.Returns →
          stopped.counters.accepted = stopped.shift.accepted.length ∧
          (∀ key, Batch.itemsUnder key stopped.shift.flushed =
            Record.payloadsUnder key stopped.shift.accepted) ∧
          (stopped.shift.flushed.flatMap Batch.records).Perm stopped.shift.accepted) ∧
        (ended.stopping = false →
          ended.run settings flush [.stop, .stopped] = some (ended.work Sending.close) ∧
          (ended.work Sending.close).counters = ended.counters ∧
          (ended.work Sending.close).shift.flushed = ended.shift.flushed)) := by
  have hstopped : stopped.Sound := run_keeps Sound.step (sound_begin settings s) reached
  have hended : ended.Sound := run_keeps Sound.step hstopped continued
  refine ⟨hended.starts_le,
    ⟨hstopped.started_of_closed, fun started => (over_of_started reached started).closed⟩,
    fun started => ?_⟩
  have isOver : stopped.Over := over_of_started reached started
  obtain ⟨hover, hshift, hcounters⟩ := isOver.run continued
  have hdropped : ended.counters.dropped =
      stopped.counters.dropped + later.countP Event.isSubmit :=
    congrArg (fun x => x.inbox.dropped) hshift
  refine ⟨congrArg (fun x => x.inbox.accepted) hshift, congrArg (fun x => x.flushed) hshift,
    hdropped, fun hquiet => ?_, fun returns => ?_,
    fun free => ⟨hover.run_stop free, rfl, rfl⟩⟩
  · rw [hdropped]
    exact hcounters hquiet
  · have hcalm : stopped.Calm :=
      run_keeps (fun calm hstep => calm.step returns hstep) (calm_begin settings s) reached
    exact ⟨hstopped.count_eq, hcalm.complete isOver⟩

end Runs

/-- A pool with one regular sender, before anything has happened. -/
def onePlace : Sending Nat Nat :=
  { pool := { workers := 1, ceiling := 2, capacity := 1 }, published := 0, refused := 0,
    gated := false }

/-- A record is submitted before the start and one after it, a second start fails, and the stop
finds one record in the inbox and one in an open batch. -/
def startedOnce : List (Event Nat Nat) :=
  [.submit ⟨"taken", .null⟩ false, .start 0, .collector (.read 1),
    .submit ⟨"failing", .null⟩ false, .start 2, .stop, .collector (.stop 3), .collector .look,
    .collector .look, .collector .hand, .collector .hand, .collector .close]

/-- Calls after a stop. -/
def callsAfter : List (Event Nat Nat) :=
  [.submit ⟨"late", .null⟩ false, .start 4, .stop, .stopped, .submit ⟨"late", .null⟩ false]

theorem run_stopped_startedOnce :
    (Sending.sink Desk.mixedDownstream).Returns ∧
      ∃ stopped ended,
        (begin { recordQueue := 1 } onePlace).run { recordQueue := 1 }
          (Sending.sink Desk.mixedDownstream) (startedOnce ++ [.stopped]) = some stopped ∧
        stopped.run { recordQueue := 1 } (Sending.sink Desk.mixedDownstream) callsAfter =
          some ended ∧
        stopped.starts = 1 ∧ stopped.counters = ⟨2, 0, 2, 1, 0, 1⟩ ∧
        ended.counters.accepted = 2 ∧ ended.counters.dropped = 2 ∧
        (∀ key, Batch.itemsUnder key stopped.shift.flushed =
          Record.payloadsUnder key stopped.shift.accepted) ∧
        (ended.work Sending.close).counters = ended.counters := by
  have returns : (Sending.sink Desk.mixedDownstream).Returns :=
    Sending.sink_returns fun _ _ _ => rfl
  have hend : ((begin { recordQueue := 1 } onePlace).run { recordQueue := 1 }
      (Sending.sink Desk.mixedDownstream) (startedOnce ++ [.stopped])).bind (fun stopped =>
        (stopped.run { recordQueue := 1 } (Sending.sink Desk.mixedDownstream) callsAfter).map
          fun ended => (stopped.starts, stopped.counters, ended.stopping)) =
      some (1, ⟨2, 0, 2, 1, 0, 1⟩, false) := rfl
  obtain ⟨stopped, reached, hlater⟩ := Option.bind_eq_some_iff.1 hend
  obtain ⟨ended, continued, hends⟩ := Option.map_eq_some_iff.1 hlater
  obtain ⟨started, hrest⟩ := Prod.mk.inj hends
  obtain ⟨hcounters, free⟩ := Prod.mk.inj hrest
  obtain ⟨-, -, hfinal⟩ := run_stopped onePlace reached continued
  obtain ⟨haccepted, -, hdropped, -, hcomplete, hagain⟩ := hfinal started
  refine ⟨returns, stopped, ended, reached, continued, started, hcounters, ?_, ?_,
    (hcomplete returns).2.1, (hagain free).2.1⟩
  · rw [haccepted, hcounters]
  · rw [hdropped, hcounters]
    rfl

/-- A stop that comes to a pipeline which was not started leaves the inbox open. What is submitted
later is accepted, and a further stop hands over what a late start has read; what was submitted
before is not handed over. -/
theorem unstarted_stopped :
    (∃ stopped ended,
      (begin {} onePlace).run {} (Sending.sink Desk.mixedDownstream) [.stop, .stopped] =
        some stopped ∧
      stopped.run {} (Sending.sink Desk.mixedDownstream) [.submit ⟨"taken", .null⟩ false] =
        some ended ∧
      stopped.counters.accepted = 0 ∧ ended.counters.accepted = 1 ∧ ended.counters.dropped = 0) ∧
    (∃ stopped,
      (begin {} onePlace).run {} (Sending.sink Desk.mixedDownstream)
        [.submit ⟨"taken", .null⟩ false, .stop, .stopped] = some stopped ∧
      stopped.counters.accepted = 1 ∧ stopped.shift.accepted = [⟨"taken", .null⟩] ∧
      stopped.shift.flushed = []) ∧
    ∃ stopped ended,
      (begin {} onePlace).run {} (Sending.sink Desk.mixedDownstream)
        [.stop, .stopped, .submit ⟨"taken", .null⟩ false, .start 0] = some stopped ∧
      stopped.run {} (Sending.sink Desk.mixedDownstream)
        [.stop, .collector (.stop 1), .collector .look, .collector .look, .collector .hand,
          .collector .close, .stopped] = some ended ∧
      stopped.shift.flushed = [] ∧ ended.shift.flushed = [⟨"taken", [.null]⟩] ∧
      ended.counters.sendRejected = 1 := by
  refine ⟨⟨_, _, rfl, rfl, rfl, rfl, rfl⟩, ⟨_, rfl, rfl, rfl, rfl⟩, _, _, rfl, rfl, rfl, rfl, rfl⟩

end Lifetime

end EventBatching
