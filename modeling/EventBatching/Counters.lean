import EventBatching.Wire.Message

/-!
# Counters

What a pipeline counts. Nothing decides anything by these numbers. In a report every counter is a
64-bit word. These are herald's `ProcessorStats`, and `ProcessorStatus` is their report.
-/

namespace EventBatching

/-- The numbers of records and batches that came to each end. -/
structure Counters where
  /-- Records that were queued. -/
  accepted : Nat := 0
  /-- Records that were dropped. -/
  dropped : Nat := 0
  /-- Batches that were handed over for sending. -/
  batchesFlushed : Nat := 0
  /-- Batches that the publisher took. -/
  batchesSent : Nat := 0
  /-- Batches that the senders refused. -/
  sendRejected : Nat := 0
  /-- Batches that the publisher failed on. -/
  sendFailed : Nat := 0
  deriving Repr, DecidableEq, Inhabited

namespace Counters

/-- The report of the counters. -/
def status (c : Counters) : Status :=
  { accepted := UInt64.ofNat c.accepted
    dropped := UInt64.ofNat c.dropped
    batchesFlushed := UInt64.ofNat c.batchesFlushed
    batchesSent := UInt64.ofNat c.batchesSent
    sendRejected := UInt64.ofNat c.sendRejected
    sendFailed := UInt64.ofNat c.sendFailed }

/-- Whether every counter is at least as great as another one. -/
def reaches (c goal : Counters) : Bool :=
  goal.accepted ≤ c.accepted && goal.dropped ≤ c.dropped &&
    goal.batchesFlushed ≤ c.batchesFlushed && goal.batchesSent ≤ c.batchesSent &&
    goal.sendRejected ≤ c.sendRejected && goal.sendFailed ≤ c.sendFailed

end Counters

end EventBatching
