import EventBatching.Collector
import EventBatching.Log

/-!
# A collector's life

A collector runs its loop until it is told to stop, its queue is closed or a sink panics, and then
shuts down: it folds in every record that is still queued and hands over every open batch, whatever
its size or age, in whatever order they come up. A panic during the shutdown loses only the batch
that it happened on. This models herald's dispatcher loop, the function `run`, with the `shutdown`
of `Dispatcher`, the shutdown sequencer.

* `Collector.shutdown` empties the queue and the open batches.
* `Collector.loop` performs rounds until one panics.
* `Collector.run` is the loop followed by exactly one shutdown.
-/

namespace EventBatching.Collector

variable {σ : Type}

/-- The name of the thread that a collector runs on. -/
def threadName : String := "processor-dispatch"

/-- A line of the collector. -/
def entry (level : Log.Level) (message : String) : Log.Entry :=
  ⟨level, .collector, some threadName, message⟩

/-! ## Shutdown -/

/-- What a shutdown, or a part of it, leaves behind. -/
structure Ending (σ : Type) where
  /-- The collector. -/
  after : Collector
  /-- The state of the sink. -/
  sink : σ
  /-- The batches handed to the sink, in order, those that it panicked on included. -/
  flushed : List Batch
  /-- The lines that were logged, in order. -/
  logs : List Log.Entry

/-- The line for a panic on a record that was still queued. -/
def drainPanic (key : String) : Log.Entry :=
  entry .error s!"Flush panicked while draining a record for {key}"

/-- The line for a panic on a batch that was still open. -/
def leftoverPanic (b : Batch) : Log.Entry :=
  entry .error s!"Flush panicked for {b.label} during shutdown"

/-- The last line of a shutdown. -/
def shutDownLine (drained leftover : Nat) : Log.Entry :=
  entry .info
    s!"Dispatcher shut down: drained {drained} queued records, flushed {leftover} open batches"

/-- Folds in queued records. A panic is logged, and the next record follows. -/
def drainQueue (d : Collector) (sink : Sink σ) (now : Nat) : List Record → σ → Ending σ
  | [], s => ⟨d, s, [], []⟩
  | r :: rest, s =>
    let added := d.add sink r now s
    let later := drainQueue added.after sink now rest added.sink
    let logs := match added.result with
      | .ok _ => []
      | .error _ => [drainPanic r.key]
    { later with flushed := added.flushed ++ later.flushed, logs := logs ++ later.logs }

/-- Hands over batches. A panic is logged, and the next batch follows. -/
def handOverAll (sink : Sink σ) : List Batch → σ → σ × List Log.Entry
  | [], s => (s, [])
  | b :: rest, s =>
    let (outcome, s) := sink b s
    let (s, later) := handOverAll sink rest s
    match outcome with
    | .returned => (s, later)
    | .panicked _ => (s, leftoverPanic b :: later)

/-- Folds in what is queued and hands over every open batch. -/
def shutdown (d : Collector) (sink : Sink σ) (queue : List Record) (now : Nat) (s : σ) :
    Ending σ :=
  let drained := d.drainQueue sink now queue s
  let (leftover, rest) := drained.after.batches.drain
  let (s, logs) := handOverAll sink leftover drained.sink
  { after := { drained.after with batches := rest }
    sink := s
    flushed := drained.flushed ++ leftover
    logs := drained.logs ++ logs ++ [shutDownLine queue.length leftover.length] }

/-! ## The loop -/

/-- A round of the loop: the record that came, if any, and the time. -/
structure Round where
  /-- The record, or none if the loop slept until it had to look at the open batches. -/
  record : Option Record
  /-- The time of the round. -/
  now : Nat

/-- What the rounds of a loop leave behind. -/
structure Rounds (σ : Type) where
  /-- The collector. -/
  after : Collector
  /-- The state of the sink. -/
  sink : σ
  /-- The batches handed to the sink, in order. -/
  flushed : List Batch
  /-- The message of the panic that ended the loop, if one did. -/
  panicked : Option String
  /-- The rounds that did not take place because of the panic. -/
  missed : List Round

/-- Performs rounds until one panics. -/
def loop (d : Collector) (sink : Sink σ) : List Round → σ → Rounds σ
  | [], s => ⟨d, s, [], none, []⟩
  | round :: rest, s =>
    let received := d.receive sink round.record round.now s
    match received.result with
    | .error message => ⟨received.after, received.sink, received.flushed, some message, rest⟩
    | .ok _ =>
      let later := loop received.after sink rest received.sink
      { later with flushed := received.flushed ++ later.flushed }

/-- Why a loop ends that does not panic. -/
inductive Stop where
  /-- It was told to stop. -/
  | interrupted
  /-- All producers are gone and the queue is empty. -/
  | inboxClosed
  deriving Repr, DecidableEq

/-- The line for the end of a loop. -/
def stopLine : Stop → Log.Entry
  | .interrupted => entry .info "Was interrupted while dispatching batches"
  | .inboxClosed => entry .info "Intake queue closed, stopping dispatch"

/-- The line for a loop that panicked. -/
def loopPanic : Log.Entry := entry .error "Dispatcher loop panicked, flushing what is left"

/-- The rounds of a loop, its end and the shutdown. A record that the loop did not come to because
of a panic is still queued when the shutdown begins. -/
def run (d : Collector) (sink : Sink σ) (rounds : List Round) (stop : Stop) (queue : List Record)
    (now : Nat) (s : σ) : Ending σ :=
  let looped := d.loop sink rounds s
  let left := looped.missed.filterMap (·.record) ++ queue
  let ended := looped.after.shutdown sink left now looped.sink
  let endLine := if looped.panicked.isSome then loopPanic else stopLine stop
  { ended with flushed := looped.flushed ++ ended.flushed, logs := endLine :: ended.logs }

end EventBatching.Collector
