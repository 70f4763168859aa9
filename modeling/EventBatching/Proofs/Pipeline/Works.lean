import EventBatching.Proofs.Collector.Departure
import EventBatching.Proofs.Pool.Crew

/-!
# An inbox, a collector and a pool

Producers submit records, a collector puts them together into batches, and a pool publishes the
batches, each at its own pace. What a round of the collector closes is laid out in one step, since
nobody else sees the open batches. Then the collector gives it to the pool, one batch after another,
by calls like any other, and goes on when the last of them has ended; producers and senders do not
wait for it. To stop is to interrupt the collector, to wait until it has ended, and then to shut
down the pool. A submit queues its record and counts it in one step, as nothing is said of the
counters while a submit is under way. This is herald's `Processor` among threads: producers, the
dispatcher and the workers.

* `Works` is an inbox with its collector and a pool with its threads. `Works.step` is one step of
  whoever comes next, `Works.run` a sequence of them, and `Works.Step` lists what a step can do.
* `Shift.total_step`, `Shift.missed_step`, `Shift.flushed_step` and `Shift.step_of_gone` say what a
  step of a producer or of the collector leaves as it is, and `Crew.Step.given_eq` and
  `Crew.Step.keepsQuiet` the same for a step of the pool.
-/

namespace EventBatching

/-! ## What a step of a collector leaves -/

namespace Shift

variable {σ : Type} {settings : Settings} {sink : Sink σ} {x after : Shift σ} {event : Event}

/-- Whether a producer submits a record. -/
def Event.isSubmit : Event → Bool
  | .submit _ _ => true
  | .start _ | .read _ | .idle _ | .stop _ | .look | .hand | .close => false

/-- The counters of an inbox count the records that were submitted to it. -/
def total (x : Shift σ) : Nat := x.inbox.accepted + x.inbox.dropped

theorem total_submit (x : Shift σ) (r : Record) (awaited : Bool) :
    (x.submit r awaited).total = x.total + 1 := by
  cases htook : x.inbox.receiving && x.inbox.hasRoom awaited with
  | false =>
    rw [submit_of_no_room htook]
    rfl
  | true =>
    rw [submit_of_room htook]
    exact Nat.add_right_comm ..

theorem total_receive {x : Shift σ} {r : Record} {rest : Inbox}
    (received : x.inbox.receive = some (r, rest)) : rest.accepted + rest.dropped = x.total := by
  rw [(Inbox.receive_eq_some received).2]
  rfl

/-- Only a submit changes the counters, and it adds one to one of them. -/
theorem total_step (h : x.step settings sink event = some after) :
    after.total = x.total + event.isSubmit.toNat := by
  cases step_cases h with
  | submit r awaited => exact total_submit x r awaited
  | read now looping received => exact total_receive received
  | look draining received => exact total_receive received
  | _ => rfl

/-- Only a submit can be missed. -/
theorem missed_step (h : x.step settings sink event = some after) (quiet : event.isSubmit = false)
    (missed : x.missed = []) : after.missed = [] := by
  cases step_cases h with
  | submit r awaited => exact Bool.noConfusion quiet
  | start now waiting => rfl
  | _ => exact missed

/-- What was handed over stays handed over. -/
theorem flushed_step (h : x.step settings sink event = some after) :
    x.flushed <+: after.flushed := by
  cases step_cases h with
  | submit r awaited => exact List.prefix_refl _
  | read now looping received => exact List.prefix_append ..
  | idle now looping => exact List.prefix_append ..
  | look draining received => exact List.prefix_append ..
  | hand handing => exact List.prefix_append ..
  | _ => exact List.prefix_refl _

/-- More records are dropped. -/
def dropping (x : Shift σ) (n : Nat) : Shift σ :=
  { x with inbox := { x.inbox with dropped := x.inbox.dropped + n } }

theorem submit_of_closed (closed : x.inbox.receiving = false) (r : Record) (awaited : Bool) :
    x.submit r awaited = x.dropping 1 :=
  submit_of_no_room (by rw [closed]; rfl)

/-- When the collector has ended, a producer can only have a record dropped. -/
theorem step_of_gone (h : x.step settings sink event = some after) (gone : x.phase = .gone)
    (closed : x.inbox.receiving = false) :
    event.isSubmit = true ∧ after = x.dropping 1 := by
  cases step_cases h with
  | submit r awaited => exact ⟨rfl, submit_of_closed closed r awaited⟩
  | start now waiting => exact Phase.noConfusion (gone.symm.trans waiting)
  | read now looping received => exact Phase.noConfusion (gone.symm.trans looping)
  | idle now looping => exact Phase.noConfusion (gone.symm.trans looping)
  | unstarted now waiting => exact Phase.noConfusion (gone.symm.trans waiting)
  | stop now looping => exact Phase.noConfusion (gone.symm.trans looping)
  | look draining received => exact Phase.noConfusion (gone.symm.trans draining)
  | lastLook draining received => exact Phase.noConfusion (gone.symm.trans draining)
  | hand handing => exact Phase.noConfusion (gone.symm.trans handing)
  | close handing => exact Phase.noConfusion (gone.symm.trans handing)

end Shift

/-! ## What a step of a crew leaves -/

namespace Crew

variable {π ρ : Type} {d : Downstream π ρ} {crew after : Crew π ρ} {duty : Duty}

/-- Whether no call is under way. -/
def quiet (crew : Crew π ρ) : Bool :=
  crew.desk.calls.isEmpty && crew.desk.leaving == 0 && crew.hiring.isNone

theorem quiet_iff :
    crew.quiet = true ↔ crew.desk.calls = [] ∧ crew.desk.leaving = 0 ∧ crew.hiring = none := by
  simp [quiet, and_assoc]

/-- Only a call that begins gives anything. -/
theorem Step.given_eq (hstep : Step d crew duty after) (nothing : ∀ b, duty ≠ .give b) :
    after.desk.given = crew.desk.given := by
  cases hstep with
  | give b => exact absurd rfl (nothing b)
  | _ => rfl

/-- When no call is under way, only a call that begins changes that. -/
theorem Step.keepsQuiet (hstep : Step d crew duty after) (quiet : crew.quiet = true)
    (nothing : ∀ b, duty ≠ .give b) : after.quiet = true := by
  obtain ⟨hcalls, hleaving, hhiring⟩ := quiet_iff.1 quiet
  cases hstep with
  | give b => exact absurd rfl (nothing b)
  | proceed found free turn => exact absurd found (by simp [hcalls])
  | spawn found turn => exact absurd found (by simp [hcalls])
  | enqueue found turn => exact absurd found (by simp [hcalls])
  | refuse found turn => exact absurd found (by simp [hcalls])
  | start hiring => exact absurd hiring (by simp [hhiring])
  | count leaving => exact absurd hleaving (Nat.ne_of_gt leaving)
  | _ => exact quiet

theorem mirrors_step (returns : d.policy.Returns) (headcount : crew.Headcount)
    (hstep : Step d crew duty after) (h : crew.desk.Mirrors) : after.desk.Mirrors :=
  hstep.keepsOnDesk headcount (fun _ _ _ hdesk hmove => hdesk.step returns hmove) h

end Crew

/-! ## A collector with a pool -/

/-- What happens next. -/
inductive Act where
  /-- A producer or the collector does a step. -/
  | shift (event : Shift.Event)
  /-- A stop begins: the collector is interrupted. -/
  | interrupt
  /-- The collector counts the batch that is next, and begins the call that gives it to the pool. -/
  | flush
  /-- A thread of the pool, or the call of the collector, does a step. -/
  | crew (duty : Duty)
  /-- The collector has ended, and the stop shuts down the pool. -/
  | shutdown

/-- Whether a producer submits a record. -/
def Act.isSubmit : Act → Bool
  | .shift event => event.isSubmit
  | .interrupt | .flush | .crew _ | .shutdown => false

/-- Whether a step of a crew is one of its own: what is given comes from the collector, and the end
from the stop. -/
def Duty.isOwn : Duty → Bool
  | .give _ | .shutdown => false
  | _ => true

/-- An inbox with its collector, and a pool with its threads. -/
structure Works (π ρ : Type) where
  /-- The inbox and the collector, with the batches that it has handed over. -/
  shift : Shift (List Batch)
  /-- The pool. -/
  crew : Crew π ρ
  /-- The number of batches that the collector has counted. -/
  flushed : Nat := 0
  /-- Whether the collector was interrupted. -/
  stopping : Bool := false

namespace Works

variable {π ρ : Type}

/-- A works before anything has happened. -/
def begin (settings : Settings) (pool : Pool) (s : π) (r : ρ) : Works π ρ :=
  { shift := .begin settings [], crew := .begin pool s r }

/-- The batch that the pool is given next. -/
def next? (w : Works π ρ) : Option Batch := w.shift.flushed[w.crew.desk.given.length]?

/-- Whether the collector can go on: the pool was given everything that was handed over, and the
call has ended. -/
def free (w : Works π ρ) : Bool :=
  w.crew.quiet && w.crew.desk.given.length == w.shift.flushed.length

/-- Whether a producer or the collector may do a step. Producers need not wait. -/
def allows (w : Works π ρ) : Shift.Event → Bool
  | .submit _ _ | .start _ => true
  | .stop _ => w.stopping && w.free
  | .read _ | .idle _ | .look | .hand | .close => w.free

/-- The collector counts a batch and begins to give it to the pool. -/
def give (w : Works π ρ) (b : Batch) : Works π ρ :=
  { w with
    crew := { w.crew with desk := w.crew.desk.give b }
    flushed := w.flushed + 1 }

/-- The crew does a step. -/
def perform (d : Downstream π ρ) (w : Works π ρ) (duty : Duty) : Option (Works π ρ) :=
  (w.crew.step d duty).map fun crew => { w with crew := crew }

/-- The counters. -/
def counters (w : Works π ρ) : Counters :=
  { accepted := w.shift.inbox.accepted
    dropped := w.shift.inbox.dropped
    batchesFlushed := w.flushed
    batchesSent := w.crew.desk.pool.sent
    sendRejected := w.crew.desk.pool.rejected
    sendFailed := w.crew.desk.pool.failed }

/-- Performs a step, if it can be performed. -/
def step (d : Downstream π ρ) (settings : Settings) (w : Works π ρ) : Act → Option (Works π ρ)
  | .shift event =>
    if w.allows event then
      (w.shift.step settings Sink.keep event).map fun shift => { w with shift := shift }
    else none
  | .interrupt =>
    match w.shift.phase with
    | .looping _ => some { w with stopping := true }
    | _ => none
  | .flush => if w.crew.quiet then w.next?.map w.give else none
  | .crew duty => if duty.isOwn then w.perform d duty else none
  | .shutdown =>
    match w.shift.phase with
    | .gone => if w.free then w.perform d .shutdown else none
    | _ => none

/-- Performs steps one after another. -/
def run (d : Downstream π ρ) (settings : Settings) :
    List Act → Works π ρ → Option (Works π ρ)
  | [], w => some w
  | act :: rest, w => (w.step d settings act).bind (run d settings rest)

/-! ## What a step can do -/

/-- What a step can do to a works. -/
inductive Step (d : Downstream π ρ) (settings : Settings) (w : Works π ρ) :
    Act → Works π ρ → Prop
  | shift {event : Shift.Event} {shift : Shift (List Batch)} (allowed : w.allows event = true)
      (moved : w.shift.step settings Sink.keep event = some shift) :
      Step d settings w (.shift event) { w with shift := shift }
  | interrupt {c : Collector} (looping : w.shift.phase = .looping c) :
      Step d settings w .interrupt { w with stopping := true }
  | flush {b : Batch} (quiet : w.crew.quiet = true) (next : w.next? = some b) :
      Step d settings w .flush (w.give b)
  | crew {duty : Duty} {crew : Crew π ρ} (own : duty.isOwn = true)
      (moved : Crew.Step d w.crew duty crew) :
      Step d settings w (.crew duty) { w with crew := crew }
  | shutdown {crew : Crew π ρ} (gone : w.shift.phase = .gone) (free : w.free = true)
      (moved : Crew.Step d w.crew .shutdown crew) :
      Step d settings w .shutdown { w with crew := crew }

section Steps

variable {d : Downstream π ρ} {settings : Settings} {w after : Works π ρ} {act : Act}

theorem step_cases (h : w.step d settings act = some after) : Step d settings w act after := by
  cases act with
  | shift event =>
    obtain ⟨allowed, hmap⟩ := Option.ite_none_right_eq_some.1 h
    obtain ⟨shift, moved, rfl⟩ := Option.map_eq_some_iff.1 hmap
    exact .shift allowed moved
  | interrupt =>
    rw [step] at h
    split at h
    · next c looping =>
      obtain rfl := Option.some.inj h
      exact .interrupt looping
    · exact absurd h (by simp)
  | flush =>
    obtain ⟨quiet, hmap⟩ := Option.ite_none_right_eq_some.1 h
    obtain ⟨b, next, rfl⟩ := Option.map_eq_some_iff.1 hmap
    exact .flush quiet next
  | crew duty =>
    obtain ⟨own, hmap⟩ := Option.ite_none_right_eq_some.1 h
    obtain ⟨crew, moved, rfl⟩ := Option.map_eq_some_iff.1 hmap
    exact .crew own (Crew.step_cases moved)
  | shutdown =>
    rw [step] at h
    split at h
    · next gone =>
      obtain ⟨free, hmap⟩ := Option.ite_none_right_eq_some.1 h
      obtain ⟨crew, moved, rfl⟩ := Option.map_eq_some_iff.1 hmap
      exact .shutdown gone free (Crew.step_cases moved)
    · exact absurd h (by simp)

theorem run_append (acts later : List Act) (w : Works π ρ) :
    w.run d settings (acts ++ later) =
      (w.run d settings acts).bind fun w => w.run d settings later := by
  induction acts generalizing w with
  | nil => rfl
  | cons act rest ih =>
    rw [List.cons_append, run, run, Option.bind_assoc]
    exact congrArg _ (funext ih)

end Steps

end Works

end EventBatching
