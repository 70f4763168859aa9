import EventBatching.Arrivals
import EventBatching.Batch
import EventBatching.Log

/-!
# The inbox

The inbox is a bounded queue: producers put records into it, and the collector takes them in the
same order. To submit a record never blocks and never fails: a record that finds the queue full, or
nobody to read it any more, is dropped with a warning and counted. This models herald's intake queue
with its `Submitter`s.

* `Inbox.submit` puts a record into the queue or drops it.
* `Inbox.receive` takes the oldest record.
* `Inbox.close` drops the queue and everything in it.
-/

namespace EventBatching

/-- The queue of records and its counters. -/
structure Inbox where
  /-- How many records may wait. -/
  capacity : Nat
  /-- The records that wait. -/
  queue : Arrivals Record := .empty
  /-- Whether there is still somebody who may read the queue. -/
  receiving : Bool := true
  /-- The number of records that were queued. -/
  accepted : Nat := 0
  /-- The number of records that were dropped. -/
  dropped : Nat := 0
  deriving Repr, Inhabited

namespace Inbox

/-- Whether one more record may wait. Where none may wait, one can still be handed to a collector
that waits for it. -/
def hasRoom (q : Inbox) (awaited : Bool) : Bool :=
  if q.capacity = 0 then awaited && q.queue.isEmpty else q.queue.size < q.capacity

/-- The line for a record that is dropped. -/
def dropLine (q : Inbox) (key : String) : Log.Entry :=
  let why := if q.receiving then " due to queue overload" else ": dispatcher is stopped"
  ⟨.warn, .inbox, none, s!"Rejecting events to be queued for {key}{why}"⟩

/-- Submits a record; `awaited` tells whether a collector waits for one. -/
def submit (q : Inbox) (awaited : Bool) (r : Record) : Inbox × List Log.Entry :=
  if q.receiving && q.hasRoom awaited then
    ({ q with queue := q.queue.push r, accepted := q.accepted + 1 }, [])
  else ({ q with dropped := q.dropped + 1 }, [q.dropLine r.key])

/-- Takes the oldest record. -/
def receive (q : Inbox) : Option (Record × Inbox) :=
  q.queue.takeFirst?.map fun (r, rest) => (r, { q with queue := rest })

/-- Nobody will read the queue any more; what is in it is lost. -/
def close (q : Inbox) : Inbox := { q with queue := .empty, receiving := false }

end Inbox

end EventBatching
