import EventBatching.OpenBatches
import EventBatching.Settings

/-!
# The collector

The collector collects records into open batches and hands a batch over when it is full or overdue.
Time is an argument of every operation. The collector remembers the earliest time at which it must
look at the open batches again; between two looks it sleeps, but never for less than a millisecond.
Times are numbers without a greatest one: a clock of the platform has an end, and to add a timeout
to a time beyond it panics, which is left out. This models herald's `Dispatcher`, the state machine
inside the dispatcher loop; a sink stands for its `flush`.

Batches go to a *sink*, which may stop the operation that hands it a batch: a sink *panics* with a
message. The batch is gone in that case, and so is the rest of the operation.

* `Collector.add` folds a record into its batch and hands the batch over when it is full.
* `Collector.sweep` hands over every overdue batch.
* `Collector.tick` sweeps when it has to, and `Collector.receive` is one round of the loop.
-/

namespace EventBatching

/-! ## Handing over batches -/

/-- How handing over a batch ended. -/
inductive Outcome where
  /-- The sink took the batch. -/
  | returned
  /-- The sink stopped the caller. -/
  | panicked (message : String)
  deriving Repr, DecidableEq

/-- Where batches go. The sink has a state of its own. -/
abbrev Sink (σ : Type) := Batch → σ → Outcome × σ

/-- What an operation leaves behind. -/
structure Effect (σ δ α : Type) where
  /-- The collector, or whatever else the operation changes. -/
  after : δ
  /-- The state of the sink. -/
  sink : σ
  /-- The batches handed to the sink, in order; the one that it panicked on is the last. -/
  flushed : List Batch
  /-- The result, or the message of the panic that stopped the operation. -/
  result : Except String α

/-- Hands batches over one after another until one panics. -/
def Sink.takeAll {σ : Type} (sink : Sink σ) : List Batch → σ → Effect σ Unit Unit
  | [], s => ⟨(), s, [], .ok ()⟩
  | b :: rest, s =>
    match sink b s with
    | (.panicked message, s) => ⟨(), s, [b], .error message⟩
    | (.returned, s) =>
      let later := takeAll sink rest s
      { later with flushed := b :: later.flushed }

/-! ## The collector -/

/-- The state of a collector. Times are in microseconds. -/
structure Collector where
  /-- The open batches. -/
  batches : OpenBatches
  /-- The earliest time at which the open batches must be looked at again. -/
  nextWake : Nat
  /-- The longest time a batch stays open. -/
  timeout : Nat
  /-- The number of records at which a batch is full. -/
  maxBatchSize : Nat
  deriving Repr, Inhabited

namespace Collector

variable {σ : Type}

/-- The shortest sleep between two looks at the open batches. -/
def minWait : Nat := 1000

/-- A collector without open batches. -/
def start (settings : Settings) (now : Nat) : Collector :=
  { batches := .empty
    nextWake := now + settings.collectionTimeout
    timeout := settings.collectionTimeout
    maxBatchSize := settings.maxBatchSize }

/-- How long the loop may sleep for the next record. -/
def waitFor (d : Collector) (now : Nat) : Nat := max (d.nextWake - now) minWait

/-- Folds a record into the batch of its key, and hands the batch over if that makes it full. The
result tells whether it did. -/
def add (d : Collector) (sink : Sink σ) (r : Record) (now : Nat) (s : σ) :
    Effect σ Collector Bool :=
  let collected := d.batches.push r.key (now + d.timeout) r.payload
  if collected.sizeOf r.key < d.maxBatchSize then
    ⟨{ d with batches := collected }, s, [], .ok false⟩
  else
    let (full, rest) := collected.remove r.key
    let handed := sink.takeAll full.toList s
    { after := { d with batches := rest }
      sink := handed.sink
      flushed := handed.flushed
      result := handed.result.map fun _ => true }

/-- The earliest deadline among open batches, if it is before `latest`, and else `latest`. -/
def earliest (latest : Nat) (a : OpenBatches) : Nat :=
  a.entries.foldl (fun t (_, b) => min t b.deadline) latest

/-- Hands over every batch whose deadline has passed, and settles when to look again: at the
earliest deadline that is left, or one full timeout from now. The batches go to the sink in the
order in which the open batches come up, and the order of the keys stands for an arbitrary one: what
depends on it, namely which batches a panic loses, is to be said for every order. -/
def sweep (d : Collector) (sink : Sink σ) (now : Nat) (s : σ) : Effect σ Collector Unit :=
  let (overdue, rest) := d.batches.extractAll fun b => b.deadline < now
  let handed := sink.takeAll overdue s
  { after := { d with batches := rest, nextWake := earliest (now + d.timeout) rest }
    sink := handed.sink
    flushed := handed.flushed
    result := handed.result }

/-- Sweeps if a batch was handed over or the time to look again has passed. -/
def tick (d : Collector) (sink : Sink σ) (flushed : Bool) (now : Nat) (s : σ) :
    Effect σ Collector Unit :=
  if flushed || d.nextWake < now then d.sweep sink now s else ⟨d, s, [], .ok ()⟩

/-- One round of the loop: a record, if one came before the time to look again, and then a tick. The
result tells whether the record made its batch full. -/
def receive (d : Collector) (sink : Sink σ) (record : Option Record) (now : Nat) (s : σ) :
    Effect σ Collector Bool :=
  match record with
  | none =>
    let ticked := d.tick sink false now s
    { ticked with result := ticked.result.map fun _ => false }
  | some r =>
    let added := d.add sink r now s
    match added.result with
    | .error _ => added
    | .ok full =>
      let ticked := added.after.tick sink full now added.sink
      { ticked with
        flushed := added.flushed ++ ticked.flushed
        result := ticked.result.map fun _ => full }

end Collector

end EventBatching
