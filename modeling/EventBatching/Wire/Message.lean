/-!
# Messages

What a client and the daemon say to each other. A client submits an event, asks whether the daemon
is there, or asks for its counters; the payload of an event travels as JSON text. The daemon answers
every request with one response. These are herald's `DaemonRequest`, `SubmitRequest` and
`DaemonResponse`.
-/

namespace EventBatching

/-- The counters as the daemon reports them, as 64-bit words. -/
structure Status where
  /-- Records that were queued. -/
  accepted : UInt64
  /-- Records that were dropped because the queue was full or nobody read it any more. -/
  dropped : UInt64
  /-- Batches that were handed over for sending. -/
  batchesFlushed : UInt64
  /-- Batches that the publisher took. -/
  batchesSent : UInt64
  /-- Batches that the senders refused. -/
  sendRejected : UInt64
  /-- Batches that the publisher failed on. -/
  sendFailed : UInt64
  deriving Repr, DecidableEq, Inhabited

/-- An event to be collected under a category. -/
structure Submission where
  /-- The category. -/
  category : String
  /-- The event, as JSON text. -/
  payload : String
  deriving Repr, DecidableEq, Inhabited

/-- What a client asks. -/
inductive Request where
  /-- Take an event. -/
  | submit (submission : Submission)
  /-- Say that you are there. -/
  | ping
  /-- Report the counters. -/
  | status
  deriving Repr, DecidableEq, Inhabited

/-- What the daemon answers. -/
inductive Response where
  /-- The event was taken, or dropped because of overload. -/
  | accepted
  /-- The daemon is there. -/
  | pong
  /-- The counters. -/
  | status (status : Status)
  /-- The request was refused. -/
  | error (message : String)
  deriving Repr, DecidableEq, Inhabited

end EventBatching
