import EventBatching.Counters
import EventBatching.Inbox
import EventBatching.Pool

/-!
# The pipeline

A pipeline takes a record all the way: from an inbox to a collector, which puts records together
into batches, and on to a pool of senders, which publishes them. It can be started once. To stop it
interrupts the collector, which hands over everything it holds, and then closes the pool; batches
that were handed over are still published. This models herald's `Processor`, the lifecycle of intake
queue, dispatcher and send executor together.

The operations take no time. A collector that was started reads nothing until time passes; from
then on it takes every record as soon as it is queued. So a stop right after a start finds in the
queue everything that was submitted before. The senders have always done what they can. A publisher
may be *gated*: then every publication waits until the gate is opened.

* `Pipeline.submit`, `Pipeline.start`, `Pipeline.stop` are the operations.
* `Pipeline.settle` is the first moment that passes for a collector.
* `Pipeline.awaitCounters` and `Pipeline.awaitTermination` let time pass.
-/

namespace EventBatching

/-! ## Sending -/

/-- What lies behind the collector: what is done with batches and with refused batches. -/
structure Downstream (π ρ : Type) where
  /-- The publisher. -/
  publisher : Publisher π
  /-- The policy for batches that have no sender. -/
  policy : Policy ρ

/-- The pool with what it acts on. -/
structure Sending (π ρ : Type) where
  /-- The pool. -/
  pool : Pool
  /-- The state of the publisher. -/
  published : π
  /-- The state of the policy. -/
  refused : ρ
  /-- Whether publications wait. -/
  gated : Bool
  /-- The number of batches that the collector handed over. -/
  flushed : Nat := 0
  /-- The lines that were logged. -/
  logs : Arrivals Log.Entry := .empty

namespace Sending

variable {π ρ : Type}

/-- The name of the thread of the first sender. -/
def senderThread : String := "batch-sender-0"

/-- Adds lines. -/
def log (s : Sending π ρ) (entries : List Log.Entry) : Sending π ρ :=
  { s with logs := s.logs.append entries }

/-- The sender of the batch at a place publishes it, and the idle senders do what they can. -/
def publishAt (d : Downstream π ρ) (place : Nat) (s : Sending π ρ) : Sending π ρ :=
  match s.pool.busy[place]? with
  | none => s
  | some b =>
    let (result, published) := Pool.publish d.publisher b s.published
    let pool := (s.pool.complete place result).getD s.pool
    let s := { s with pool := pool.settle, published := published }
    s.log (Pool.resultLine b (some senderThread) result).toList

/-- Publishes what the senders hold, the batch taken up first at first, in at most `steps` steps. -/
def publishAll (d : Downstream π ρ) : (steps : Nat) → Sending π ρ → Sending π ρ
  | 0, s => s
  | steps + 1, s => if s.pool.busy.isEmpty then s else publishAll d steps (publishAt d 0 s)

/-- The senders do what they can: they publish everything unless publications wait. -/
def settle (d : Downstream π ρ) (s : Sending π ρ) : Sending π ρ :=
  let s := { s with pool := s.pool.settle }
  if s.gated then s else publishAll d (s.pool.busy.length + s.pool.queue.size) s

/-- Opens the gate. -/
def openGate (d : Downstream π ρ) (s : Sending π ρ) : Sending π ρ :=
  settle d { s with gated := false }

/-- Gives a batch to the pool. A refused batch goes to the policy; it is counted when the policy
returns. -/
def trySend (d : Downstream π ρ) (b : Batch) (s : Sending π ρ) :
    Except String (Except Rejection Unit) × Sending π ρ :=
  match s.pool.offer b with
  | .ok pool => (.ok (.ok ()), settle d { s with pool := pool })
  | .error why =>
    let disposal := d.policy b why s.refused
    let s := { s with refused := disposal.state }.log disposal.logs
    match disposal.outcome with
    | .panicked message => (.error message, s)
    | .returned =>
      (.ok (.error why), { s with pool := { s.pool with rejected := s.pool.rejected + 1 } })

/-- Where the collector hands batches over: every batch is counted and given to the pool. -/
def sink (d : Downstream π ρ) : Sink (Sending π ρ) := fun b s =>
  let (result, s) := trySend d b { s with flushed := s.flushed + 1 }
  match result with
  | .ok _ => (.returned, s)
  | .error message => (.panicked message, s)

/-- Closes the pool. -/
def shutdown (d : Downstream π ρ) (s : Sending π ρ) : Sending π ρ :=
  settle d { s with pool := s.pool.shutdown }

end Sending

/-! ## The pipeline -/

/-- The state of a pipeline between two operations. -/
structure Pipeline (π ρ : Type) where
  /-- The settings. -/
  settings : Settings
  /-- The queue of records. -/
  inbox : Inbox
  /-- The collector, while its loop runs. -/
  collector : Option Collector := none
  /-- Whether time has passed since the collector was started. -/
  reading : Bool := false
  /-- Whether the pipeline was ever started. -/
  started : Bool := false
  /-- Whether the pipeline was started and has not been stopped since. -/
  running : Bool := false
  /-- The pool and what lies behind it. -/
  sending : Sending π ρ
  /-- The time in microseconds. -/
  clock : Nat := 0

namespace Pipeline

variable {π ρ : Type}

/-- A pipeline that was not started, if the settings allow for one. The inbox is made before the
pool. -/
def make (settings : Settings) (published : π) (refused : ρ) (gated : Bool) :
    Except Settings.Excess (Pipeline π ρ) :=
  match settings.inboxExcess? with
  | some excess => .error excess
  | none =>
    (Pool.make settings).map fun pool =>
      { settings := settings
        inbox := { capacity := settings.recordQueue }
        sending := { pool := pool, published := published, refused := refused, gated := gated } }

/-- The counters. -/
def counters (p : Pipeline π ρ) : Counters :=
  { accepted := p.inbox.accepted
    dropped := p.inbox.dropped
    batchesFlushed := p.sending.flushed
    batchesSent := p.sending.pool.sent
    sendRejected := p.sending.pool.rejected
    sendFailed := p.sending.pool.failed }

/-- Adds lines. -/
def log (p : Pipeline π ρ) (entries : List Log.Entry) : Pipeline π ρ :=
  { p with sending := p.sending.log entries }

/-- The collector ends: its shutdown takes what is queued, and nobody reads the queue any more. -/
def conclude (d : Downstream π ρ) (collector : Collector) (endLine : Log.Entry)
    (queue : List Record) (p : Pipeline π ρ) : Pipeline π ρ :=
  let ended := collector.shutdown (Sending.sink d) queue p.clock (p.sending.log [endLine])
  { p with
    collector := none
    inbox := p.inbox.close
    sending := ended.sink.log ended.logs }

/-- The collector performs rounds. If one panics, it ends, and takes what the rounds did not come
to. -/
def perform (d : Downstream π ρ) (collector : Collector) (rounds : List Collector.Round)
    (p : Pipeline π ρ) : Pipeline π ρ :=
  let looped := collector.loop (Sending.sink d) rounds p.sending
  let p := { p with collector := some looped.after, sending := looped.sink }
  if looped.panicked.isSome then
    p.conclude d looped.after Collector.loopPanic (looped.missed.filterMap (·.record))
  else p

/-- A moment passes: the collector reads what is queued, and waits for more. -/
def settle (d : Downstream π ρ) (p : Pipeline π ρ) : Pipeline π ρ :=
  match p.collector with
  | none => p
  | some collector =>
    let rounds := p.inbox.queue.toList.map fun r => (⟨some r, p.clock⟩ : Collector.Round)
    { p with reading := true, inbox := { p.inbox with queue := .empty } }.perform d collector rounds

/-- Whether a collector waits for records. -/
def isAwaiting (p : Pipeline π ρ) : Bool := p.reading && p.collector.isSome

/-- Submits a record. A collector that waits for records takes it at once. -/
def submit (d : Downstream π ρ) (r : Record) (p : Pipeline π ρ) : Pipeline π ρ :=
  let (inbox, logs) := p.inbox.submit p.isAwaiting r
  let queued := { p with inbox := inbox }.log logs
  if p.isAwaiting then queued.settle d else queued

/-! ## Starting and stopping -/

/-- A pipeline was started for the second time. -/
structure AlreadyStarted where
  deriving Repr, DecidableEq

/-- The wording. -/
def AlreadyStarted.message (_ : AlreadyStarted) : String := "processor was already started"

/-- The line for a start. -/
def startLine (s : Settings) (ceiling : Nat) : Log.Entry :=
  let size := s.maxBatchSize
  let timeout := Duration.text s.collectionTimeout
  let workers := s!"{s.workers}..{ceiling}"
  ⟨.info, .pipeline, some "main",
    s!"Processor started: max_batch_size={size}, timeout={timeout}, workers={workers}"⟩

/-- Starts the collector, unless that has happened before. -/
def start (p : Pipeline π ρ) : Except AlreadyStarted (Pipeline π ρ) :=
  if p.started then .error {}
  else
    let p := { p with
      started := true
      running := true
      collector := some (.start p.settings p.clock) }
    .ok (p.log [startLine p.settings p.sending.pool.ceiling])

/-- Interrupts the collector, which finds what is still queued, and closes the pool. -/
def stop (d : Downstream π ρ) (p : Pipeline π ρ) : Pipeline π ρ :=
  let p := match p.collector with
    | none => p
    | some collector =>
      p.conclude d collector (Collector.stopLine .interrupted) p.inbox.queue.toList
  { p with running := false, sending := p.sending.shutdown d }

/-- Opens the gate. -/
def openGate (d : Downstream π ρ) (p : Pipeline π ρ) : Pipeline π ρ :=
  { p with sending := p.sending.openGate d }

/-- Whether all senders have left after a stop. -/
def terminated (p : Pipeline π ρ) : Bool := p.sending.pool.terminated

/-! ## Waiting -/

/-- The collector sleeps until just after the time to look at the open batches, if it has any and
that time comes before `limit`. -/
def wake (d : Downstream π ρ) (limit : Nat) (p : Pipeline π ρ) : Option (Pipeline π ρ) :=
  match p.collector with
  | none => none
  | some collector =>
    let next := p.clock + collector.waitFor p.clock + 1
    if collector.batches.isEmpty ∨ limit < next then none
    else some ({ p with clock := next }.perform d collector [⟨none, next⟩])

/-- Lets time pass until `limit`, or until the pipeline is as it should be, in at most `steps`
steps. -/
def awaitIn (d : Downstream π ρ) (reached : Pipeline π ρ → Bool) (limit : Nat) :
    (steps : Nat) → Pipeline π ρ → Bool × Pipeline π ρ
  | 0, p => (reached p, p)
  | steps + 1, p =>
    if reached p then (true, p)
    else
      match p.wake d limit with
      | some p => awaitIn d reached limit steps p
      | none => (false, { p with clock := max p.clock limit })

/-- Waits for `patience` until the pipeline is as it should be: whether that happens, and the
pipeline then. No time passes if there is nothing to wait for, or no patience. A look at the open
batches closes one of them or is the last before one that does. -/
def await (d : Downstream π ρ) (reached : Pipeline π ρ → Bool) (patience : Nat)
    (p : Pipeline π ρ) : Bool × Pipeline π ρ :=
  if reached p ∨ patience = 0 then (reached p, p)
  else
    let p := p.settle d
    let openBatches := (p.collector.map fun x => x.batches.size).getD 0
    p.awaitIn d reached (p.clock + patience) (2 * openBatches + 1)

/-- Waits for `patience` until counters have been reached. -/
def awaitCounters (d : Downstream π ρ) (goal : Counters) (patience : Nat) (p : Pipeline π ρ) :
    Bool × Pipeline π ρ :=
  p.await d (·.counters.reaches goal) patience

/-- Waits for `patience` until all senders have left. -/
def awaitTermination (d : Downstream π ρ) (patience : Nat) (p : Pipeline π ρ) :
    Bool × Pipeline π ρ :=
  p.await d (·.terminated) patience

end Pipeline

end EventBatching
