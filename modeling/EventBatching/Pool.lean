import EventBatching.Arrivals
import EventBatching.Publication

/-!
# The pool of senders

Batches are published by senders, each of which holds one batch at a time. A regular number of
senders is kept once there has been work for them. A batch for which no regular sender can be
started waits in a queue; when the queue is full, further senders are started up to a greatest
number; after that, batches are refused. Senders beyond the regular number leave when they have had
no work for a while. After a shutdown the pool refuses every batch, and the senders leave when the
queue is empty. This models herald's `SendExecutor`: its task queue, its base workers and its burst
workers.

Each operation is one step of one thread, so that every history of the pool is a sequence of them.

* `Pool.offer` gives a batch to the pool.
* `Pool.take`, `Pool.complete`, `Pool.retire` and `Pool.leave` are the steps of a sender.
* `Pool.settle` performs steps of idle senders until none can.
-/

namespace EventBatching

/-- The senders and the batches that wait for them. -/
structure Pool where
  /-- The regular number of senders. -/
  workers : Nat
  /-- The greatest number of senders. -/
  ceiling : Nat
  /-- How many batches may wait. -/
  capacity : Nat
  /-- The batches that senders hold, in the order in which they were taken up. -/
  busy : List Batch := []
  /-- The number of senders that wait for a batch. -/
  idle : Nat := 0
  /-- The batches that wait. -/
  queue : Arrivals Batch := .empty
  /-- Whether the pool takes batches. -/
  accepting : Bool := true
  /-- The number of batches that were published. -/
  sent : Nat := 0
  /-- The number of batches that the publisher failed on. -/
  failed : Nat := 0
  /-- The number of batches that went to the policy, which returned. -/
  rejected : Nat := 0
  deriving Repr, Inhabited

namespace Pool

/-- A pool without senders, if the settings allow for one. -/
def make (settings : Settings) : Except Settings.Excess Pool :=
  settings.poolCeiling.map fun ceiling =>
    { workers := settings.workers, ceiling := ceiling, capacity := settings.sendQueue }

/-- The number of senders. -/
def live (p : Pool) : Nat := p.busy.length + p.idle

/-- Whether one more batch may wait. Where no batch may wait, one can still be handed to a sender
that waits for it. -/
def hasRoom (p : Pool) : Bool :=
  if p.capacity = 0 then p.queue.size < p.idle else p.queue.size < p.capacity

/-! ## Giving batches -/

/-- Starts a sender for a batch. -/
def spawn (p : Pool) (b : Batch) : Pool := { p with busy := p.busy ++ [b] }

/-- Puts a batch into the queue. -/
def enqueue (p : Pool) (b : Batch) : Pool := { p with queue := p.queue.push b }

/-- Gives a batch to the pool, which may refuse it. -/
def offer (p : Pool) (b : Batch) : Except Rejection Pool :=
  if !p.accepting then .error .shutDown
  else if p.live < p.workers then .ok (p.spawn b)
  else if p.hasRoom then .ok (p.enqueue b)
  else if p.live < p.ceiling then .ok (p.spawn b)
  else .error (.queueFull p.capacity)

/-- Takes no more batches. -/
def shutdown (p : Pool) : Pool := { p with accepting := false }

/-! ## The steps of a sender -/

/-- An idle sender takes the batch that has waited longest. -/
def take (p : Pool) : Option Pool :=
  match p.idle, p.queue.takeFirst? with
  | idle + 1, some (b, rest) => some { p with idle := idle, busy := p.busy ++ [b], queue := rest }
  | _, _ => none

/-- Counts a publication. -/
def count (p : Pool) : Publication → Pool
  | .published => { p with sent := p.sent + 1 }
  | .failed _ | .panicked _ => { p with failed := p.failed + 1 }

/-- The sender of the batch at a place is done with it. -/
def complete (p : Pool) (place : Nat) (result : Publication) : Option Pool :=
  if place < p.busy.length then
    some ({ p with busy := p.busy.eraseIdx place, idle := p.idle + 1 }.count result)
  else none

/-- An idle sender beyond the regular number leaves. -/
def retire (p : Pool) : Option Pool :=
  if 0 < p.idle ∧ p.workers < p.live then some { p with idle := p.idle - 1 } else none

/-- After a shutdown, an idle sender leaves when no batch waits. -/
def leave (p : Pool) : Option Pool :=
  if !p.accepting ∧ p.queue.isEmpty ∧ 0 < p.idle then some { p with idle := p.idle - 1 } else none

/-- Whether all senders have left after a shutdown. -/
def terminated (p : Pool) : Bool := !p.accepting && p.live == 0

/-! ## Coming to rest -/

/-- Idle senders take batches, at most `steps` of them. -/
def takeAll : (steps : Nat) → Pool → Pool
  | 0, p => p
  | steps + 1, p =>
    match p.take with
    | some p => takeAll steps p
    | none => p

/-- Idle senders leave after a shutdown, at most `steps` of them. -/
def leaveAll : (steps : Nat) → Pool → Pool
  | 0, p => p
  | steps + 1, p =>
    match p.leave with
    | some p => leaveAll steps p
    | none => p

/-- Idle senders beyond the regular number leave, at most `steps` of them. -/
def retireAll : (steps : Nat) → Pool → Pool
  | 0, p => p
  | steps + 1, p =>
    match p.retire with
    | some p => retireAll steps p
    | none => p

/-- The pool when every idle sender has done what it can. -/
def settle (p : Pool) : Pool :=
  let p := takeAll p.idle p
  leaveAll p.idle p

/-- Waits for `patience` until at most `limit` senders are left: whether that happens, and the pool
then. Idle senders beyond the regular number leave if their time is up before. -/
def awaitLive (p : Pool) (limit patience keepAlive : Nat) : Bool × Pool :=
  if p.live ≤ limit then (true, p)
  else
    let p := if keepAlive < patience then retireAll p.idle p else p
    (p.live ≤ limit, p)

/-! ## Sending -/

/-- What is said about a batch that was not published. -/
def failureText (b : Batch) (cause : String) : String :=
  s!"Failed to send single batch for unknown reason ({b.label}): {cause}"

/-- The line for a batch that was not published; none for one that was. -/
def resultLine (b : Batch) (thread : Option String) : Publication → Option Log.Entry
  | .published => none
  | .failed cause => some ⟨.error, .pool, thread, failureText b cause⟩
  | .panicked _ => some ⟨.error, .pool, thread, failureText b "publisher panicked"⟩

/-- Publishes a batch with the checks on the pipeline's own batches. -/
def publish {π : Type} (publisher : Publisher π) (b : Batch) (s : π) : Publication × π :=
  publisher b.body b.category .internal s

end Pool

end EventBatching
