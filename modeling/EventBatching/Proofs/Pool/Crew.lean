import EventBatching.Proofs.Pool.Bounds

/-!
# The threads of a pool

On a desk a sender is started in one step and leaves in one step. Its thread does both in several. A
call reserves a place for a sender first and starts the thread later; a sender whose time is up is
told so first, and only then looks whether it may go; a sender that finds the queue closed and empty
gives up its place later, and its thread ends later still. In between the other threads go on: calls
put batches into the queue, other senders find that their time is up too, the pool is shut down.
This is herald's `SendExecutor` with what its workers do besides: `spawn_worker`, `retire_idle`, and
the end of their threads that `await_termination` waits for.

To wait for the end of a pool is to wait until nobody has a handle any more. The pool itself has one
until its shutdown, and every thread has one until its end.

* `Crew` is a desk with its threads; `Crew.step` is one step of one thread and `Crew.run` a sequence
  of them. `Crew.Step` lists what a step can do.
* `Crew.Keyed`, `Crew.Headcount` and `Crew.Kept` are what every step keeps: who has the lock, how
  many threads there are, and where the accepted batches are.
* `Crew.Step.onDesk` says that the desk of a crew does steps of a desk, so that what is known of
  desks is known of crews.
* `Crew.Sound.serves` says that a batch which waits always has a sender that can go on.
* `Crew.run_bounded` puts them together: the bounds hold at every moment, no batch is left behind,
  and at the end nothing is left at all.
-/

namespace EventBatching

/-! ## Threads -/

/-- One step of one thread. -/
inductive Duty where
  /-- A call begins. -/
  | give (b : Batch)
  /-- The call at a place does its next step. To start a sender is only to reserve a place for
  it. -/
  | advance (call : Nat)
  /-- The call that has reserved a place starts the thread of the sender, and ends. -/
  | start
  /-- A call whose batch the policy took is counted and ends. -/
  | count
  /-- The sender at a place calls the publisher. -/
  | publish (place : Nat)
  /-- The sender at a place counts how the publication ended, and is idle. -/
  | finish (place : Nat)
  /-- An idle sender takes a batch. -/
  | take
  /-- The time of an idle sender is up. -/
  | expire
  /-- A sender whose time is up gives up its place if it is beyond the regular number, and waits
  again if it is not. -/
  | retire
  /-- An idle sender finds the queue closed and empty. -/
  | cut
  /-- A sender that has found the queue closed and empty gives up its place. -/
  | depart
  /-- The thread of a sender that has given up its place ends. -/
  | part
  /-- The pool is shut down. -/
  | shutdown
  /-- After a shutdown, the handle of the pool itself goes. -/
  | release
  deriving Inhabited

/-- Whether a step is one of a sender at work, or starts one. -/
def Duty.serves : Duty → Bool
  | .start | .publish _ | .finish _ | .take | .retire => true
  | .give _ | .advance _ | .count | .expire | .cut | .depart | .part | .shutdown | .release => false

/-- A desk with its threads. -/
structure Crew (π ρ : Type) where
  /-- The desk. The senders of its pool are those that have a place. -/
  desk : Desk π ρ
  /-- The batch for which a place is reserved and no thread is started yet. Its call has the
  lock. -/
  hiring : Option Slip := none
  /-- The number of idle senders whose time is up. -/
  expired : Nat := 0
  /-- The number of idle senders that have found the queue closed and empty. -/
  cutOff : Nat := 0
  /-- The number of threads of senders. -/
  threads : Nat := 0
  /-- The number of threads whose sender has given up its place. -/
  parting : Nat := 0
  /-- Whether the pool itself has a handle. -/
  own : Bool := true
  /-- What calls were told was accepted, in the order in which they ended. -/
  accepted : List Slip := []

namespace Crew

variable {π ρ : Type}

/-- A pool before the first call. -/
def begin (pool : Pool) (s : π) (r : ρ) : Crew π ρ := { desk := .start pool s r }

/-- The number of idle senders that wait for a batch. -/
def resting (crew : Crew π ρ) : Nat := crew.desk.pool.idle - crew.expired - crew.cutOff

/-- The number of handles. Who waits for the end of the pool waits until there are none. -/
def handles (crew : Crew π ρ) : Nat := crew.own.toNat + crew.threads

/-- Whether the sender at a place has a thread. -/
def started (crew : Crew π ρ) (place : Nat) : Bool :=
  match crew.hiring, crew.desk.held[place]? with
  | some slip, some (held, _) => slip.ticket != held.ticket
  | _, _ => true

/-! ## Steps -/

/-- The desk does a step, and nothing else happens. -/
def work (d : Downstream π ρ) (crew : Crew π ρ) (move : Move) : Option (Crew π ρ) :=
  (crew.desk.step d move).map fun desk => { crew with desk := desk }

/-- A call has done its turn at the desk. -/
def follow (crew : Crew π ρ) (desk : Desk π ρ) (slip : Slip) : Turn → Crew π ρ
  | .go _ | .refuse _ => { crew with desk := desk }
  | .spawn => { crew with desk := desk, hiring := some slip }
  | .enqueue => { crew with desk := desk, accepted := crew.accepted ++ [slip] }

/-- The call at a place does its next step, unless it waits for the lock and another has it. -/
def advance (d : Downstream π ρ) (crew : Crew π ρ) (call : Nat) : Option (Crew π ρ) :=
  match crew.desk.calls[call]? with
  | none => none
  | some (slip, stage) =>
    if stage = .arrived ∧ crew.hiring.isSome then none
    else (crew.desk.advance d call).map fun desk =>
      crew.follow desk slip (crew.desk.pool.turn stage)

/-- The thread of a sender is started. -/
def start (crew : Crew π ρ) (slip : Slip) : Crew π ρ :=
  { crew with
    hiring := none
    threads := crew.threads + 1
    accepted := crew.accepted ++ [slip] }

/-- A sender whose time is up gives up its place, if it may. -/
def retire (crew : Crew π ρ) : Crew π ρ :=
  match crew.desk.pool.retire with
  | some pool =>
    { crew with
      desk := { crew.desk with pool := pool }
      expired := crew.expired - 1
      parting := crew.parting + 1 }
  | none => { crew with expired := crew.expired - 1 }

/-- A sender gives up its place. -/
def depart (crew : Crew π ρ) : Crew π ρ :=
  { crew with
    desk := { crew.desk with pool := { crew.desk.pool with idle := crew.desk.pool.idle - 1 } }
    cutOff := crew.cutOff - 1
    parting := crew.parting + 1 }

/-- Performs a step, if it can be performed. -/
def step (d : Downstream π ρ) (crew : Crew π ρ) : Duty → Option (Crew π ρ)
  | .give b => crew.work d (.give b)
  | .advance call => crew.advance d call
  | .start => crew.hiring.map crew.start
  | .count => crew.work d .count
  | .publish place => if crew.started place then crew.work d (.publish place) else none
  | .finish place => crew.work d (.finish place)
  | .take => if 0 < crew.resting then crew.work d .take else none
  | .expire =>
    if 0 < crew.resting then some { crew with expired := crew.expired + 1 } else none
  | .retire => if 0 < crew.expired then some crew.retire else none
  | .cut =>
    if 0 < crew.resting ∧ crew.desk.pool.accepting = false ∧ crew.desk.pool.queue.size = 0 then
      some { crew with cutOff := crew.cutOff + 1 }
    else none
  | .depart => if 0 < crew.cutOff then some crew.depart else none
  | .part =>
    if 0 < crew.parting then
      some { crew with threads := crew.threads - 1, parting := crew.parting - 1 }
    else none
  | .shutdown => if crew.hiring.isSome then none else crew.work d .shutdown
  | .release =>
    if crew.desk.pool.accepting = false ∧ crew.own = true then some { crew with own := false }
    else none

/-- Performs steps one after another. -/
def run (d : Downstream π ρ) : List Duty → Crew π ρ → Option (Crew π ρ)
  | [], crew => some crew
  | duty :: rest, crew => (crew.step d duty).bind (run d rest)

/-! ## What a step can do -/

/-- What a step can do to a crew. -/
inductive Step (d : Downstream π ρ) (crew : Crew π ρ) : Duty → Crew π ρ → Prop
  | give (b : Batch) : Step d crew (.give b) { crew with desk := crew.desk.give b }
  | proceed {call : Nat} {slip : Slip} {stage next : Stage}
      (found : crew.desk.calls[call]? = some (slip, stage))
      (free : stage = .arrived → crew.desk.locked = false ∧ crew.hiring = none)
      (turn : crew.desk.pool.turn stage = .go next) :
      Step d crew (.advance call) { crew with desk := crew.desk.proceed call slip next }
  | spawn {call : Nat} {slip : Slip} {stage : Stage}
      (found : crew.desk.calls[call]? = some (slip, stage))
      (turn : crew.desk.pool.turn stage = .spawn) :
      Step d crew (.advance call)
        { crew with desk := crew.desk.spawn call slip, hiring := some slip }
  | enqueue {call : Nat} {slip : Slip} {stage : Stage}
      (found : crew.desk.calls[call]? = some (slip, stage))
      (turn : crew.desk.pool.turn stage = .enqueue) :
      Step d crew (.advance call)
        { crew with desk := crew.desk.enqueue call slip, accepted := crew.accepted ++ [slip] }
  | refuse {call : Nat} {slip : Slip} {stage : Stage} {why : Rejection}
      (found : crew.desk.calls[call]? = some (slip, stage))
      (turn : crew.desk.pool.turn stage = .refuse why) :
      Step d crew (.advance call) { crew with desk := crew.desk.refuse d call slip why }
  | start {slip : Slip} (hiring : crew.hiring = some slip) : Step d crew .start (crew.start slip)
  | count (leaving : 0 < crew.desk.leaving) :
      Step d crew .count { crew with desk := crew.desk.count }
  | publish {place : Nat} {slip : Slip} (found : crew.desk.held[place]? = some (slip, none))
      (started : ∀ hired, crew.hiring = some hired → hired ≠ slip) :
      Step d crew (.publish place) { crew with desk := crew.desk.publish d place slip }
  | finish {place : Nat} {slip : Slip} {result : Publication} {pool : Pool}
      (found : crew.desk.held[place]? = some (slip, some result))
      (completed : crew.desk.pool.complete place result = some pool) :
      Step d crew (.finish place) { crew with desk := crew.desk.finish place slip result pool }
  | take {slip : Slip} {rest : List Slip} {pool : Pool} (rests : 0 < crew.resting)
      (found : crew.desk.waiting = slip :: rest) (taken : crew.desk.pool.take = some pool) :
      Step d crew .take { crew with desk := crew.desk.take slip rest pool }
  | expire (rests : 0 < crew.resting) :
      Step d crew .expire { crew with expired := crew.expired + 1 }
  | retire {pool : Pool} (expired : 0 < crew.expired)
      (retired : crew.desk.pool.retire = some pool) :
      Step d crew .retire
        { crew with
          desk := { crew.desk with pool := pool }
          expired := crew.expired - 1
          parting := crew.parting + 1 }
  | stay (expired : 0 < crew.expired) (stays : crew.desk.pool.retire = none) :
      Step d crew .retire { crew with expired := crew.expired - 1 }
  | cut (rests : 0 < crew.resting) (closed : crew.desk.pool.accepting = false)
      (empty : crew.desk.pool.queue.size = 0) :
      Step d crew .cut { crew with cutOff := crew.cutOff + 1 }
  | depart (cutOff : 0 < crew.cutOff) : Step d crew .depart crew.depart
  | part (parting : 0 < crew.parting) :
      Step d crew .part { crew with threads := crew.threads - 1, parting := crew.parting - 1 }
  | shutdown (free : crew.desk.locked = false) (hiring : crew.hiring = none) :
      Step d crew .shutdown
        { crew with desk := { crew.desk with pool := crew.desk.pool.shutdown } }
  | release (closed : crew.desk.pool.accepting = false) (owns : crew.own = true) :
      Step d crew .release { crew with own := false }

theorem advance_cases {d : Downstream π ρ} {crew after : Crew π ρ} {call : Nat}
    (h : crew.advance d call = some after) : Step d crew (.advance call) after := by
  rw [advance] at h
  split at h
  · exact absurd h (by simp)
  · next slip stage found =>
    obtain ⟨hwaits, hmap⟩ := Option.ite_none_left_eq_some.1 h
    obtain ⟨desk, hdesk, rfl⟩ := Option.map_eq_some_iff.1 hmap
    have hfree : stage = .arrived → crew.desk.locked = false ∧ crew.hiring = none := by
      rintro rfl
      refine ⟨?_, by simpa using hwaits⟩
      by_contra hlocked
      rw [Desk.advance, found] at hdesk
      exact absurd hdesk (by simp [hlocked])
    have hsame : desk = crew.desk.follow d call slip (crew.desk.pool.turn stage) := by
      rw [Desk.advance, found] at hdesk
      exact (Option.some.inj (Option.ite_none_left_eq_some.1 hdesk).2).symm
    rw [hsame]
    cases turn : crew.desk.pool.turn stage with
    | go next => exact .proceed found hfree turn
    | spawn => exact .spawn found turn
    | enqueue => exact .enqueue found turn
    | refuse why => exact .refuse found turn

/-- The batch whose sender has no thread yet is not that of a sender that has one. -/
theorem ne_of_started {crew : Crew π ρ} {place : Nat} (h : crew.started place = true)
    {hired slip : Slip} {result : Option Publication} (hiring : crew.hiring = some hired)
    (found : crew.desk.held[place]? = some (slip, result)) : hired ≠ slip := by
  rintro rfl
  simp [started, hiring, found] at h

theorem retire_cases {d : Downstream π ρ} {crew : Crew π ρ} (expired : 0 < crew.expired) :
    Step d crew .retire crew.retire := by
  rw [retire]
  cases hretire : crew.desk.pool.retire with
  | none => exact .stay expired hretire
  | some pool => exact .retire expired hretire

theorem step_cases {d : Downstream π ρ} {crew after : Crew π ρ} {duty : Duty}
    (h : crew.step d duty = some after) : Step d crew duty after := by
  have hwork : ∀ move, crew.work d move = some after →
      ∃ desk, Desk.Step d crew.desk move desk ∧ after = { crew with desk := desk } := by
    intro move hmove
    obtain ⟨desk, hdesk, rfl⟩ := Option.map_eq_some_iff.1 hmove
    exact ⟨desk, Desk.step_cases hdesk, rfl⟩
  cases duty with
  | give b =>
    obtain ⟨desk, hdesk, rfl⟩ := hwork _ h
    cases hdesk
    exact .give b
  | advance call => exact advance_cases h
  | start =>
    obtain ⟨slip, hiring, rfl⟩ := Option.map_eq_some_iff.1 h
    exact .start hiring
  | count =>
    obtain ⟨desk, hdesk, rfl⟩ := hwork _ h
    cases hdesk with
    | count leaving => exact .count leaving
  | publish place =>
    obtain ⟨hstarted, hmove⟩ := Option.ite_none_right_eq_some.1 h
    obtain ⟨desk, hdesk, rfl⟩ := hwork _ hmove
    cases hdesk with
    | publish found => exact .publish found fun _ hiring => ne_of_started hstarted hiring found
  | finish place =>
    obtain ⟨desk, hdesk, rfl⟩ := hwork _ h
    cases hdesk with
    | finish found completed => exact .finish found completed
  | take =>
    obtain ⟨rests, hmove⟩ := Option.ite_none_right_eq_some.1 h
    obtain ⟨desk, hdesk, rfl⟩ := hwork _ hmove
    cases hdesk with
    | take found taken => exact .take rests found taken
  | expire =>
    obtain ⟨rests, hafter⟩ := Option.ite_none_right_eq_some.1 h
    obtain rfl := Option.some.inj hafter
    exact .expire rests
  | retire =>
    obtain ⟨expired, hafter⟩ := Option.ite_none_right_eq_some.1 h
    obtain rfl := Option.some.inj hafter
    exact retire_cases expired
  | cut =>
    obtain ⟨⟨rests, closed, empty⟩, hafter⟩ := Option.ite_none_right_eq_some.1 h
    obtain rfl := Option.some.inj hafter
    exact .cut rests closed empty
  | depart =>
    obtain ⟨cutOff, hafter⟩ := Option.ite_none_right_eq_some.1 h
    obtain rfl := Option.some.inj hafter
    exact .depart cutOff
  | part =>
    obtain ⟨parting, hafter⟩ := Option.ite_none_right_eq_some.1 h
    obtain rfl := Option.some.inj hafter
    exact .part parting
  | shutdown =>
    obtain ⟨hiring, hmove⟩ := Option.ite_none_left_eq_some.1 h
    obtain ⟨desk, hdesk, rfl⟩ := hwork _ hmove
    cases hdesk with
    | shutdown free => exact .shutdown free (by simpa using hiring)
  | release =>
    obtain ⟨⟨closed, owns⟩, hafter⟩ := Option.ite_none_right_eq_some.1 h
    obtain rfl := Option.some.inj hafter
    exact .release closed owns

/-- What every step keeps holds after every run. -/
theorem run_invariant {d : Downstream π ρ} {holds : Crew π ρ → Prop}
    (kept : ∀ crew duty after, holds crew → Step d crew duty after → holds after)
    {duties : List Duty} {crew after : Crew π ρ} (hcrew : holds crew)
    (hrun : run d duties crew = some after) : holds after := by
  induction duties generalizing crew with
  | nil =>
    obtain rfl := Option.some.inj hrun
    exact hcrew
  | cons duty rest ih =>
    obtain ⟨next, hnext, hrest⟩ := Option.bind_eq_some_iff.1 hrun
    exact ih (kept crew duty next hcrew (step_cases hnext)) hrest

section Steps

variable {d : Downstream π ρ} {crew after : Crew π ρ} {duty : Duty}

/-! ## Who has the lock -/

/-- A call that has reserved a place has the lock, and who has the lock keeps the pool open. -/
structure Keyed (crew : Crew π ρ) : Prop where
  /-- No other call has the lock. -/
  alone : crew.hiring.isSome = true → crew.desk.locked = false
  /-- The pool is open. -/
  opened : crew.hiring.isSome = true → crew.desk.pool.accepting = true
  /-- An open pool has its handle. -/
  owned : crew.desk.pool.accepting = true → crew.own = true

/-- While a call has reserved a place, no call that has the lock is at the desk. -/
theorem Keyed.hiring_eq_none (h : crew.Keyed) {call : Nat} {slip : Slip} {stage : Stage}
    (found : crew.desk.calls[call]? = some (slip, stage)) (locks : stage.locks = true) :
    crew.hiring = none := by
  cases hhiring : crew.hiring with
  | none => rfl
  | some hired =>
    have hfree := h.alone (by rw [hhiring]; rfl)
    have hstage := Desk.locked_eq_false_iff.1 hfree _ (List.mem_of_getElem? found)
    rw [locks] at hstage
    exact Bool.noConfusion hstage

theorem Keyed.spawn (h : crew.Keyed) (staffed : crew.desk.Staffed) {call : Nat} {slip : Slip}
    {stage : Stage} (found : crew.desk.calls[call]? = some (slip, stage))
    (locks : stage.locks = true) :
    Keyed { crew with desk := crew.desk.spawn call slip, hiring := some slip } := by
  refine ⟨fun _ => ?_, fun _ => ?_, h.owned⟩
  · -- the call that has reserved the place was the only one with the lock
    have hcount := Desk.countP_locks_eraseIdx found
    have hone := staffed.locks_le
    rw [locks, Bool.toNat_true] at hcount
    have hnone : (crew.desk.calls.eraseIdx call).countP (·.2.locks) = 0 := by omega
    rw [Desk.locked_eq_false_iff]
    intro other hother
    simpa using List.countP_eq_zero.1 hnone other hother
  · exact staffed.accepting _ (List.mem_of_getElem? found) locks

theorem Keyed.step (h : crew.Keyed) (staffed : crew.desk.Staffed)
    (hstep : Step d crew duty after) : after.Keyed := by
  cases hstep with
  | give b =>
    refine { h with alone := fun hhiring => ?_ }
    have hfree := h.alone hhiring
    show (crew.desk.calls ++ [(_, Stage.arrived)]).any (·.2.locks) = false
    rw [List.any_append, ← Desk.locked, hfree]
    rfl
  | @proceed call slip stage next found free turn =>
    refine { h with alone := fun hhiring => ?_ }
    have hnone : crew.hiring = none := by
      cases stage with
      | arrived => exact (free rfl).2
      | admitted => exact h.hiring_eq_none found rfl
      | unplaced => exact h.hiring_eq_none found rfl
      | crowded => exact h.hiring_eq_none found rfl
      | turnedAway why => exact absurd turn (by simp [Pool.turn])
    exact absurd hhiring (by simp [hnone])
  | spawn found turn => exact h.spawn staffed found (Pool.turn_eq_spawn turn).1
  | enqueue found turn =>
    exact { h with alone := fun hhiring => Desk.locked_eraseIdx rfl (h.alone hhiring) }
  | refuse found turn =>
    exact { h with alone := fun hhiring => Desk.locked_eraseIdx rfl (h.alone hhiring) }
  | start hiring =>
    exact ⟨fun hnone => Bool.noConfusion hnone, fun hnone => Bool.noConfusion hnone, h.owned⟩
  | count leaving => exact { h with }
  | publish found started => exact { h with }
  | @finish place slip result pool found completed =>
    obtain ⟨-, rfl⟩ := Pool.complete_eq_some completed
    cases result <;> exact { h with }
  | take rests found taken =>
    obtain ⟨idle, b, queue, -, -, rfl⟩ := Pool.take_eq_some taken
    exact { h with }
  | expire rests => exact { h with }
  | retire expired retired =>
    obtain ⟨-, -, rfl⟩ := Pool.retire_eq_some retired
    exact { h with }
  | stay expired stays => exact { h with }
  | cut rests closed empty => exact { h with }
  | depart cutOff => exact { h with }
  | part parting => exact { h with }
  | shutdown free hiring =>
    refine ⟨fun _ => free, fun hhiring => ?_, fun hopen => Bool.noConfusion hopen⟩
    exact absurd hhiring (by simp [hiring])
  | release closed owns =>
    refine { h with owned := fun hopen => ?_ }
    rw [closed] at hopen
    exact Bool.noConfusion hopen

/-! ## How many threads there are -/

/-- Every place of a sender has a thread, or will have one at once. -/
structure Headcount (crew : Crew π ρ) : Prop where
  /-- The threads are those of the senders that have a place and of those that have given it up. -/
  threads_eq : crew.threads + crew.hiring.toList.length = crew.desk.pool.live + crew.parting
  /-- Senders whose time is up, and those that have found the queue closed, are idle. -/
  idle_le : crew.expired + crew.cutOff ≤ crew.desk.pool.idle
  /-- A reserved place is that of its batch, which nobody publishes yet. -/
  hired : ∀ slip, crew.hiring = some slip → (slip, none) ∈ crew.desk.held
  /-- The queue is still closed and empty when a sender has found it so. -/
  cutOff_closed : 0 < crew.cutOff →
    crew.desk.pool.accepting = false ∧ crew.desk.pool.queue.size = 0

theorem Headcount.spawn (h : crew.Headcount) (keyed : crew.Keyed) {call : Nat} {slip : Slip}
    {stage : Stage} (found : crew.desk.calls[call]? = some (slip, stage))
    (locks : stage.locks = true) :
    Headcount { crew with desk := crew.desk.spawn call slip, hiring := some slip } := by
  have hthreads := h.threads_eq
  have hlive := Pool.live_spawn crew.desk.pool slip.batch
  rw [keyed.hiring_eq_none found locks, Option.toList_none, List.length_nil] at hthreads
  refine { h with threads_eq := ?_, hired := ?_ }
  · show crew.threads + 1 = (crew.desk.pool.spawn slip.batch).live + crew.parting
    omega
  · intro hired hhired
    obtain rfl := Option.some.inj hhired
    exact List.mem_concat_self

/-- A sender publishes, and the reserved place stays as it is. -/
theorem Headcount.publish (h : crew.Headcount) {place : Nat} {slip : Slip}
    (found : crew.desk.held[place]? = some (slip, none))
    (started : ∀ hired, crew.hiring = some hired → hired ≠ slip) :
    Headcount { crew with desk := crew.desk.publish d place slip } := by
  refine { h with hired := fun hired hhiring => ?_ }
  obtain ⟨other, hother⟩ := List.getElem?_of_mem (h.hired hired hhiring)
  have hne : place ≠ other := by
    rintro rfl
    rw [hother] at found
    exact started hired hhiring (congrArg Prod.fst (Option.some.inj found))
  refine List.mem_of_getElem? (i := other) ?_
  show (crew.desk.held.set place _)[other]? = some (hired, none)
  rw [List.getElem?_set_ne hne, hother]

theorem Headcount.finish (h : crew.Headcount) {place : Nat} {slip : Slip} {result : Publication}
    {pool : Pool} (found : crew.desk.held[place]? = some (slip, some result))
    (completed : crew.desk.pool.complete place result = some pool) :
    Headcount { crew with desk := crew.desk.finish place slip result pool } := by
  have hthreads := h.threads_eq
  have hlive := Pool.live_complete completed
  obtain ⟨-, rfl⟩ := Pool.complete_eq_some completed
  have hmore : crew.expired + crew.cutOff ≤ crew.desk.pool.idle + 1 :=
    h.idle_le.trans (Nat.le_succ _)
  have hhired : ∀ hired, crew.hiring = some hired →
      (hired, none) ∈ crew.desk.held.eraseIdx place := by
    intro hired hhiring
    obtain ⟨other, hother⟩ := List.getElem?_of_mem (h.hired hired hhiring)
    refine List.mem_eraseIdx_iff_getElem?.2 ⟨other, ?_, hother⟩
    rintro rfl
    exact absurd (hother.symm.trans found) (by simp)
  rw [← hlive] at hthreads
  cases result <;> exact { h with threads_eq := hthreads, idle_le := hmore, hired := hhired }

theorem Headcount.take (h : crew.Headcount) {slip : Slip} {rest : List Slip} {pool : Pool}
    (rests : 0 < crew.resting) (taken : crew.desk.pool.take = some pool) :
    Headcount { crew with desk := crew.desk.take slip rest pool } := by
  have hthreads := h.threads_eq
  have hlive := Pool.live_take taken
  have hshorter := Pool.size_take taken
  rw [resting] at rests
  obtain ⟨idle, b, queue, hidle, -, rfl⟩ := Pool.take_eq_some taken
  rw [← hlive] at hthreads
  refine ⟨hthreads, ?_, fun hired hhiring => ?_, fun hcutOff => ?_⟩
  · show crew.expired + crew.cutOff ≤ idle
    omega
  · exact List.mem_append_left _ (h.hired hired hhiring)
  · rw [(h.cutOff_closed hcutOff).2] at hshorter
    exact absurd hshorter (Nat.succ_ne_zero _)

theorem Headcount.retire (h : crew.Headcount) (expired : 0 < crew.expired) {pool : Pool}
    (retired : crew.desk.pool.retire = some pool) :
    Headcount { crew with
      desk := { crew.desk with pool := pool }
      expired := crew.expired - 1
      parting := crew.parting + 1 } := by
  have hthreads := h.threads_eq
  have hidle := h.idle_le
  have hlive := Pool.live_retire retired
  obtain ⟨-, -, rfl⟩ := Pool.retire_eq_some retired
  refine { h with threads_eq := ?_, idle_le := ?_ }
  · rw [← hlive] at hthreads
    exact hthreads.trans (Nat.add_right_comm ..)
  · show crew.expired - 1 + crew.cutOff ≤ crew.desk.pool.idle - 1
    omega

theorem Headcount.depart (h : crew.Headcount) (cutOff : 0 < crew.cutOff) :
    crew.depart.Headcount := by
  have hthreads := h.threads_eq
  have hidle := h.idle_le
  refine ⟨?_, ?_, h.hired, fun _ => h.cutOff_closed cutOff⟩
  · simp only [Crew.depart, Pool.live] at hthreads ⊢
    omega
  · simp only [Crew.depart]
    omega

/-- A reserved place is one of the places of senders, so a sender that has given up its place has a
thread of its own. -/
theorem Headcount.length_hiring_le (h : crew.Headcount) (tallied : crew.desk.Tallied) :
    crew.hiring.toList.length ≤ crew.desk.pool.live := by
  cases hhiring : crew.hiring with
  | none => exact Nat.zero_le _
  | some slip =>
    have hheld := List.length_pos_of_mem (h.hired slip hhiring)
    rw [tallied.held_eq] at hheld
    exact hheld.trans_le (Nat.le_add_right ..)

theorem Headcount.step (h : crew.Headcount) (keyed : crew.Keyed) (staffed : crew.desk.Staffed)
    (tallied : crew.desk.Tallied) (hstep : Step d crew duty after) : after.Headcount := by
  have hthreads := h.threads_eq
  have hidle := h.idle_le
  cases hstep with
  | give b => exact { h with }
  | proceed found free turn => exact { h with }
  | spawn found turn => exact h.spawn keyed found (Pool.turn_eq_spawn turn).1
  | @enqueue call slip stage found turn =>
    -- nobody has found the queue closed, as the call that fills it has the lock
    have hlocks := Stage.locks_of_seeks (Pool.turn_eq_enqueue turn).1
    have hopen := staffed.accepting _ (List.mem_of_getElem? found) hlocks
    refine { h with cutOff_closed := fun hcutOff => ?_ }
    rw [(h.cutOff_closed hcutOff).1] at hopen
    exact Bool.noConfusion hopen
  | refuse found turn => exact { h with }
  | @start slip hiring =>
    rw [hiring] at hthreads
    exact { h with threads_eq := hthreads, hired := fun _ hnone => absurd hnone nofun }
  | count leaving => exact { h with }
  | publish found started => exact h.publish found started
  | finish found completed => exact h.finish found completed
  | take rests found taken => exact h.take rests taken
  | expire rests =>
    rw [resting] at rests
    refine { h with idle_le := ?_ }
    show crew.expired + 1 + crew.cutOff ≤ crew.desk.pool.idle
    omega
  | retire expired retired => exact h.retire expired retired
  | stay expired stays =>
    refine { h with idle_le := ?_ }
    show crew.expired - 1 + crew.cutOff ≤ crew.desk.pool.idle
    omega
  | cut rests closed empty =>
    rw [resting] at rests
    refine { h with idle_le := ?_, cutOff_closed := fun _ => ⟨closed, empty⟩ }
    show crew.expired + (crew.cutOff + 1) ≤ crew.desk.pool.idle
    omega
  | depart cutOff => exact h.depart cutOff
  | part parting =>
    have hreserved := h.length_hiring_le tallied
    refine { h with threads_eq := ?_ }
    show crew.threads - 1 + crew.hiring.toList.length = crew.desk.pool.live + (crew.parting - 1)
    omega
  | shutdown free hiring =>
    exact { h with cutOff_closed := fun hcutOff => ⟨rfl, (h.cutOff_closed hcutOff).2⟩ }
  | release closed owns => exact { h with }

/-! ## Where the accepted batches are -/

/-- The slips that are in the pool, or were. -/
def tookIn (desk : Desk π ρ) : List Slip :=
  desk.slipsAt .held ++ desk.slipsAt .waiting ++ desk.slipsAt .published ++ desk.slipsAt .failed

/-- What was accepted, with the batch whose sender is about to be started, is in the pool or was
published or has failed. -/
def Kept (crew : Crew π ρ) : Prop :=
  (crew.accepted ++ crew.hiring.toList).Perm (tookIn crew.desk)

theorem Kept.step (h : crew.Kept) (keyed : crew.Keyed) (hstep : Step d crew duty after) :
    after.Kept := by
  classical
  rw [Kept, List.perm_iff_count] at h ⊢
  intro slip
  have hslip := h slip
  simp only [tookIn, Desk.slipsAt, List.count_append] at hslip ⊢
  cases hstep with
  | give b => exact hslip
  | proceed found free turn => exact hslip
  | @spawn call moved stage found turn =>
    rw [keyed.hiring_eq_none found (Pool.turn_eq_spawn turn).1] at hslip
    simp only [Desk.spawn, List.map_append, List.map_cons, List.map_nil, Option.toList_some,
      Option.toList_none, List.count_append, List.count_cons, List.count_nil] at hslip ⊢
    omega
  | @enqueue call moved stage found turn =>
    simp only [Desk.enqueue, List.count_append, List.count_cons, List.count_nil]
    omega
  | refuse found turn => exact hslip
  | @start moved hiring =>
    simp only [start, hiring, Option.toList_some, Option.toList_none, List.count_append,
      List.count_cons, List.count_nil] at hslip ⊢
    omega
  | count leaving => exact hslip
  | @publish place moved found started =>
    simp only [Desk.publish, map_set_eq found (·.1)]
    exact hslip
  | @finish place moved result pool found completed =>
    have hheld := ((perm_cons_eraseIdx found).map (·.1)).count_eq slip
    simp only [Desk.finish, List.map_cons, List.count_cons] at hheld ⊢
    split
    · simp only [List.count_append, List.count_cons, List.count_nil]
      omega
    · simp only [List.map_append, List.map_cons, List.map_nil, List.count_append, List.count_cons,
        List.count_nil]
      omega
  | @take moved rest pool rests found taken =>
    simp only [Desk.take, found, List.map_append, List.map_cons, List.map_nil, List.count_append,
      List.count_cons, List.count_nil] at hslip ⊢
    omega
  | expire rests => exact hslip
  | retire expired retired => exact hslip
  | stay expired stays => exact hslip
  | cut rests closed empty => exact hslip
  | depart cutOff => exact hslip
  | part parting => exact hslip
  | shutdown free hiring => exact hslip
  | release closed owns => exact hslip

/-- What was given is accepted, is about to be, is still in hand or was refused. -/
theorem Kept.given_perm (h : crew.Kept) (placed : crew.desk.Placed) :
    (crew.desk.slipsAt .inHand ++ ((crew.accepted ++ crew.hiring.toList) ++
      crew.desk.slipsAt .refused)).Perm crew.desk.given := by
  refine List.Perm.trans ?_ placed
  have hkept := (h.append_right (crew.desk.slipsAt .refused)).append_left
    (crew.desk.slipsAt .inHand)
  simpa [tookIn, Desk.Place.all] using hkept

/-! ## The desk of a crew -/

/-- The desk of a crew stays as it is, or does a step of a desk. -/
theorem Step.onDesk (hstep : Step d crew duty after) (headcount : crew.Headcount) :
    after.desk = crew.desk ∨ ∃ move, Desk.Step d crew.desk move after.desk := by
  cases hstep with
  | give b => exact .inr ⟨_, .give b⟩
  | proceed found free turn => exact .inr ⟨_, .proceed found (fun h => (free h).1) turn⟩
  | spawn found turn => exact .inr ⟨_, .spawn found turn⟩
  | enqueue found turn => exact .inr ⟨_, .enqueue found turn⟩
  | refuse found turn => exact .inr ⟨_, .refuse found turn⟩
  | start hiring => exact .inl rfl
  | count leaving => exact .inr ⟨_, .count leaving⟩
  | publish found started => exact .inr ⟨_, .publish found⟩
  | finish found completed => exact .inr ⟨_, .finish found completed⟩
  | take rests found taken => exact .inr ⟨_, .take found taken⟩
  | expire rests => exact .inl rfl
  | retire expired retired => exact .inr ⟨_, .retire retired⟩
  | stay expired stays => exact .inl rfl
  | cut rests closed empty => exact .inl rfl
  | depart cutOff =>
    -- the sender looked at the queue earlier, but what it saw has not changed
    obtain ⟨hclosed, hempty⟩ := headcount.cutOff_closed cutOff
    have hidle := headcount.idle_le
    refine .inr ⟨_, .leave ?_⟩
    rw [Pool.leave, if_pos ⟨by simp [hclosed], by simp [Arrivals.isEmpty, hempty], by omega⟩]
  | part parting => exact .inl rfl
  | shutdown free hiring => exact .inr ⟨_, .shutdown free⟩
  | release closed owns => exact .inl rfl

theorem Step.keepsOnDesk (hstep : Step d crew duty after) (headcount : crew.Headcount)
    {holds : Desk π ρ → Prop}
    (kept : ∀ desk move after, holds desk → Desk.Step d desk move after → holds after)
    (h : holds crew.desk) : holds after.desk := by
  rcases hstep.onDesk headcount with hsame | ⟨move, hmove⟩
  · rwa [hsame]
  · exact kept _ _ _ h hmove

end Steps

/-! ## Every run -/

/-- What every step of a crew keeps. -/
structure Sound (settings : Settings) (crew : Crew π ρ) : Prop where
  /-- The pool is as large as the settings say. -/
  within : crew.desk.pool.Within settings
  /-- Whoever waits has senders to wait for. -/
  staffed : crew.desk.Staffed
  /-- The desk has as many slips as the pool has batches. -/
  tallied : crew.desk.Tallied
  /-- Every slip is in one place. -/
  placed : crew.desk.Placed
  /-- One call has the lock. -/
  keyed : crew.Keyed
  /-- Every place has a thread. -/
  headcount : crew.Headcount
  /-- What was accepted is in the pool, or is done with. -/
  kept : crew.Kept

section Runs

variable {d : Downstream π ρ} {settings : Settings} {crew after : Crew π ρ}

theorem Sound.step (h : crew.Sound settings) (positive : 1 ≤ settings.sendQueue) {duty : Duty}
    (hstep : Step d crew duty after) : after.Sound settings where
  within := by
    have hkept : ∀ (desk : Desk π ρ) move after, desk.pool.Within settings →
        Desk.Step d desk move after → after.pool.Within settings :=
      fun _ _ _ hdesk hmove => Desk.within_step positive hdesk hmove
    exact hstep.keepsOnDesk h.headcount hkept h.within
  staffed := hstep.keepsOnDesk h.headcount (fun _ _ _ hdesk hmove => hdesk.step hmove) h.staffed
  tallied := hstep.keepsOnDesk h.headcount (fun _ _ _ hdesk hmove => hdesk.step hmove) h.tallied
  placed := hstep.keepsOnDesk h.headcount (fun _ _ _ hdesk hmove => hdesk.step hmove) h.placed
  keyed := h.keyed.step h.staffed hstep
  headcount := h.headcount.step h.keyed h.staffed h.tallied hstep
  kept := h.kept.step h.keyed hstep

theorem sound_begin {pool : Pool} (made : Pool.make settings = .ok pool) (s : π) (r : ρ) :
    (begin pool s r).Sound settings := by
  have hwithin := Pool.within_make made
  obtain rfl := Pool.make_eq_ok made
  refine ⟨hwithin, Desk.staffed_start _ s r rfl, ⟨rfl, rfl, rfl, rfl⟩, Desk.placed_start _ s r,
    ⟨nofun, nofun, fun _ => rfl⟩, ⟨rfl, Nat.le_refl _, nofun, nofun⟩, List.Perm.refl _⟩

theorem sound_run {pool : Pool} (made : Pool.make settings = .ok pool)
    (positive : 1 ≤ settings.sendQueue) (s : π) (r : ρ) {duties : List Duty}
    (reached : run d duties (begin pool s r) = some crew) : crew.Sound settings :=
  run_invariant (fun _ _ _ h hstep => h.step positive hstep) (sound_begin made s r) reached

/-- A sender gives up its place because its time was up, and leaves the regular number behind, or
because the pool is closed and nothing waits. -/
theorem Sound.fewer (h : crew.Sound settings) {duty : Duty} (hstep : Step d crew duty after)
    (fewer : after.desk.pool.live < crew.desk.pool.live) :
    duty = .retire ∧ settings.workers ≤ after.desk.pool.live ∨
      duty = .depart ∧ crew.desk.pool.accepting = false ∧ crew.desk.pool.queue.size = 0 := by
  cases hstep with
  | @spawn call slip stage found turn =>
    have hmore := Pool.live_spawn crew.desk.pool slip.batch
    exact absurd fewer (Nat.not_lt.2 ((Nat.le_succ _).trans hmore.ge))
  | finish found completed => exact absurd fewer (Pool.live_complete completed).not_lt
  | take rests found taken => exact absurd fewer (Pool.live_take taken).not_lt
  | @retire pool expired retired =>
    have hfewer := Pool.live_retire retired
    obtain ⟨-, hbeyond, -⟩ := Pool.retire_eq_some retired
    refine .inl ⟨rfl, ?_⟩
    rw [h.within.workers_eq] at hbeyond
    exact Nat.le_of_lt_succ (hbeyond.trans_eq hfewer.symm)
  | depart cutOff => exact .inr ⟨rfl, h.headcount.cutOff_closed cutOff⟩
  | _ => exact absurd fewer (Nat.lt_irrefl _)

/-- While a batch waits, there is a sender that can go on with its work, or one that is about to be
started. -/
theorem Sound.serves (h : crew.Sound settings) (positive : 1 ≤ settings.workers)
    (waits : 0 < crew.desk.pool.queue.size) :
    ∃ duty, duty.serves = true ∧ (crew.step d duty).isSome = true := by
  have hregular := h.staffed.waiting waits
  have hcutOff : crew.cutOff = 0 := by
    by_contra hsome
    have hempty := (h.headcount.cutOff_closed (Nat.pos_of_ne_zero hsome)).2
    exact absurd hempty (Nat.ne_of_gt waits)
  rw [h.within.workers_eq, Pool.live] at hregular
  cases hhiring : crew.hiring with
  | some slip => exact ⟨.start, rfl, by simp [Crew.step, hhiring]⟩
  | none =>
    cases hheld : crew.desk.held with
    | cons first others =>
      obtain ⟨slip, result⟩ := first
      have hbusy : 0 < crew.desk.pool.busy.length := by
        rw [← h.tallied.held_eq, hheld]
        exact Nat.zero_lt_succ _
      cases result with
      | none =>
        exact ⟨.publish 0, rfl, by simp [Crew.step, started, hhiring, work, Desk.step, hheld]⟩
      | some result =>
        exact ⟨.finish 0, rfl, by simp [Crew.step, work, Desk.step, hheld, Pool.complete, hbusy]⟩
    | nil =>
      have hbusy : crew.desk.pool.busy.length = 0 := by
        rw [← h.tallied.held_eq, hheld]
        rfl
      by_cases hexpired : 0 < crew.expired
      · exact ⟨.retire, rfl, by simp [Crew.step, hexpired]⟩
      · -- nobody else's time is up, so an idle sender waits for a batch
        have hidle : 0 < crew.desk.pool.idle := by omega
        have hrests : 0 < crew.resting := by
          rw [resting]
          omega
        obtain ⟨idle, hidle⟩ := Nat.exists_eq_add_one_of_ne_zero (Nat.ne_of_gt hidle)
        obtain ⟨slip, rest, hwaiting⟩ : ∃ slip rest, crew.desk.waiting = slip :: rest := by
          refine List.exists_cons_of_length_pos ?_
          rwa [h.tallied.waiting_eq]
        obtain ⟨taken, htaken⟩ : ∃ taken, crew.desk.pool.queue.takeFirst? = some taken := by
          rw [← Option.ne_none_iff_exists']
          intro hnone
          have hempty := congrArg List.length (Arrivals.takeFirst?_eq_none_iff.1 hnone)
          rw [Arrivals.length_toList] at hempty
          exact absurd hempty (Nat.ne_of_gt waits)
        refine ⟨.take, rfl, ?_⟩
        simp [Crew.step, hrests, work, Desk.step, hwaiting, Pool.take, hidle, htaken]

/-- When nobody has a handle any more, the pool is closed, no sender is left, nothing waits, and
what was accepted was published or has failed. -/
theorem Sound.ended (h : crew.Sound settings) (positive : 1 ≤ settings.workers)
    (nobody : crew.handles = 0) :
    crew.desk.pool.accepting = false ∧ crew.desk.pool.live = 0 ∧ crew.desk.pool.queue.size = 0 ∧
      crew.hiring = none ∧
      crew.accepted.Perm (crew.desk.slipsAt .published ++ crew.desk.slipsAt .failed) := by
  obtain ⟨howns, hthreads⟩ := Nat.add_eq_zero_iff.1 nobody
  have hclosed : crew.desk.pool.accepting = false := by
    by_contra hopen
    have howned := h.keyed.owned (by simpa using hopen)
    rw [howned] at howns
    exact absurd howns (by decide)
  have hhiring : crew.hiring = none := by
    by_contra hsome
    have hopen := h.keyed.opened (Option.isSome_iff_ne_none.2 hsome)
    rw [hclosed] at hopen
    exact Bool.noConfusion hopen
  have hlive : crew.desk.pool.live = 0 := by
    have hcount := h.headcount.threads_eq
    rw [hhiring, Option.toList_none, List.length_nil] at hcount
    omega
  have hqueue : crew.desk.pool.queue.size = 0 := by
    by_contra hwaits
    have hregular := h.staffed.waiting (Nat.pos_of_ne_zero hwaits)
    rw [hlive, h.within.workers_eq] at hregular
    omega
  have hheld : crew.desk.held = [] := by
    have hbusy := (Nat.add_eq_zero_iff.1 hlive).1
    rw [← h.tallied.held_eq] at hbusy
    exact List.length_eq_zero_iff.1 hbusy
  have hwaiting : crew.desk.waiting = [] := by
    rw [← h.tallied.waiting_eq] at hqueue
    exact List.length_eq_zero_iff.1 hqueue
  refine ⟨hclosed, hlive, hqueue, hhiring, ?_⟩
  have hkept := h.kept
  rw [Kept, hhiring, Option.toList_none, List.append_nil] at hkept
  simpa [tookIn, Desk.slipsAt, hheld, hwaiting] using hkept

/-- **The pool is never too large, and leaves no batch behind.** Whatever steps the threads do, in
any order: there are at most twice as many senders as the regular number, and no more batches wait
than may. While a batch waits there is the regular number of senders, and one of them can go on with
its work, or is about to be started. There come to be fewer senders only when one whose time is up
leaves at least the regular number behind, or when the pool is closed and nothing waits. When nobody
has a handle any more, the pool is closed, without senders and empty, and has published, or failed
on, as many batches as it accepted. -/
theorem run_bounded {pool : Pool} (made : Pool.make settings = .ok pool)
    (workers : 1 ≤ settings.workers) (places : 1 ≤ settings.sendQueue) (s : π) (r : ρ)
    {duties : List Duty} (reached : run d duties (begin pool s r) = some crew) :
    crew.desk.pool.live ≤ 2 * settings.workers ∧
      crew.desk.pool.queue.size ≤ settings.sendQueue ∧
      (0 < crew.desk.pool.queue.size → settings.workers ≤ crew.desk.pool.live ∧
        ∃ duty, duty.serves = true ∧ (crew.step d duty).isSome = true) ∧
      (∀ duty after, crew.step d duty = some after →
        after.desk.pool.live < crew.desk.pool.live →
          duty = .retire ∧ settings.workers ≤ after.desk.pool.live ∨
          duty = .depart ∧ crew.desk.pool.accepting = false ∧ crew.desk.pool.queue.size = 0) ∧
      (crew.handles = 0 →
        crew.desk.pool.accepting = false ∧ crew.desk.pool.live = 0 ∧
          crew.desk.pool.queue.size = 0 ∧
          crew.desk.pool.sent + crew.desk.pool.failed = crew.accepted.length) := by
  have hsound : crew.Sound settings := sound_run made places s r reached
  refine ⟨hsound.within.live_le, hsound.within.size_le, fun hwaits => ?_,
    fun duty after h fewer => hsound.fewer (step_cases h) fewer, fun nobody => ?_⟩
  · have hregular := hsound.staffed.waiting hwaits
    rw [hsound.within.workers_eq] at hregular
    exact ⟨hregular, hsound.serves workers hwaits⟩
  · obtain ⟨hclosed, hlive, hqueue, -, hperm⟩ := hsound.ended workers nobody
    refine ⟨hclosed, hlive, hqueue, ?_⟩
    rw [hperm.length_eq, List.length_append, hsound.tallied.sent_eq, hsound.tallied.failed_eq]
    simp only [Desk.slipsAt, List.length_map]

end Runs

/-- Steps of three calls and two senders: one batch has a regular sender, one waits, and one has a
further sender. When both senders are idle, the time of one is up while the batch still waits; the
other takes it. Then the pool is shut down, and the last thread ends. -/
def burstDuties : List Duty :=
  [.give ⟨"taken", []⟩, .advance 0, .advance 0, .start,
    .give ⟨"failing", []⟩, .give ⟨"panicking", []⟩, .advance 1, .advance 1, .advance 1,
    .advance 0, .advance 0, .advance 0, .advance 0, .publish 0, .start,
    .publish 1, .finish 0, .finish 0, .expire, .retire, .part, .take, .publish 0,
    .shutdown, .finish 0, .release, .cut, .depart, .part]

theorem run_bounded_burstDuties :
    1 ≤ ({ workers := 1, sendQueue := 1 } : Settings).workers ∧
      1 ≤ ({ workers := 1, sendQueue := 1 } : Settings).sendQueue ∧
      ∃ pool crew, Pool.make { workers := 1, sendQueue := 1 } = .ok pool ∧
        run Desk.mixedDownstream burstDuties (begin pool 0 0) = some crew ∧
        crew.handles = 0 ∧ crew.desk.pool.live = 0 ∧ crew.desk.pool.queue.size = 0 ∧
        crew.accepted.length = 3 ∧ crew.desk.pool.sent + crew.desk.pool.failed = 3 := by
  let settings : Settings := { workers := 1, sendQueue := 1 }
  let pool : Pool := { workers := 1, ceiling := 2, capacity := 1 }
  have made : Pool.make settings = .ok pool := rfl
  have workers : 1 ≤ settings.workers := Nat.le_refl _
  have places : 1 ≤ settings.sendQueue := Nat.le_refl _
  have hend : (run Desk.mixedDownstream burstDuties (begin pool 0 0)).map (fun crew =>
      (crew.handles, crew.accepted.length)) = some (0, 3) := by
    decide
  obtain ⟨crew, reached, hcrew⟩ := Option.map_eq_some_iff.1 hend
  obtain ⟨nobody, haccepted⟩ := Prod.mk.inj hcrew
  obtain ⟨-, -, -, -, hended⟩ := run_bounded made workers places 0 0 reached
  obtain ⟨-, hlive, hqueue, hdone⟩ := hended nobody
  exact ⟨workers, places, pool, crew, made, reached, nobody, hlive, hqueue, haccepted,
    hdone.trans haccepted⟩

end Crew

end EventBatching
