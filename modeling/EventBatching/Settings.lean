import EventBatching.Duration
import EventBatching.Memory

/-!
# Settings of the pipeline

How long and how many records a batch collects, how many senders there are, and how much may wait.
Sizes are 64-bit words and are taken as they are: a zero is not refused here. Only what cannot be
made at all is refused when it is made: a queue that takes too much memory, or too many senders.
These are the fields of herald's `ProcessorConfig`.

* `Settings.burstLimit?` is the greatest number of senders, twice the regular number. It does not
  exist when a word cannot hold it.
* `Settings.inboxExcess?` and `Settings.poolCeiling` tell what cannot be made.
-/

namespace EventBatching

/-- The end of the 64-bit words. -/
def wordEnd : Nat := 0x10000000000000000

/-- The settings of a pipeline. Times are in microseconds. -/
structure Settings where
  /-- The longest time a batch stays open after its first record. -/
  collectionTimeout : Nat := 1000000
  /-- The number of records at which a batch leaves at once. -/
  maxBatchSize : Nat := 100
  /-- The regular number of senders. -/
  workers : Nat := 1
  /-- The time without work after which a sender beyond the regular number leaves. -/
  keepAlive : Nat := 10000000
  /-- How many batches may wait for a sender. -/
  sendQueue : Nat := 100
  /-- How many records may wait for the collector. -/
  recordQueue : Nat := 10000
  deriving Repr, DecidableEq, Inhabited

namespace Settings

/-- The greatest number of senders: twice the regular number, if a word holds that. -/
def burstLimit? (s : Settings) : Option Nat :=
  if s.workers * 2 < wordEnd then some (s.workers * 2) else none

/-! ## What cannot be made -/

/-- What settings ask for although it cannot be made. -/
inductive Excess where
  /-- A queue that is longer than a queue can count. -/
  | queueLength
  /-- A queue that is larger than a piece of memory. -/
  | queueSize
  /-- More senders than a word can count. -/
  | senders
  deriving Repr, DecidableEq

/-- What a program says that stops over it. -/
def Excess.message : Excess → String
  | .queueLength => "bounded channel capacity is too large"
  | .queueSize => Memory.overflow
  | .senders => "attempt to multiply with overflow"

/-- The end of the lengths that a queue can count. -/
def queueEnd : Nat := 0x4000000000000000

/-- What a record takes in a queue, in bytes. -/
def recordSlot : Nat := 64

/-- What a batch takes in a queue, in bytes. -/
def batchSlot : Nat := 56

/-- Why there is no queue of a length with slots of a size, if there is none. -/
def queueExcess? (length slot : Nat) : Option Excess :=
  if queueEnd ≤ length then some .queueLength
  else if Memory.holds (length * slot) then none
  else some .queueSize

/-- Why there is no inbox, if there is none. -/
def inboxExcess? (s : Settings) : Option Excess := queueExcess? s.recordQueue recordSlot

/-- The greatest number of senders of a pool, or why there is no pool. Its queue is made before its
senders are counted. -/
def poolCeiling (s : Settings) : Except Excess Nat :=
  match queueExcess? s.sendQueue batchSlot, s.burstLimit? with
  | some excess, _ => .error excess
  | none, none => .error .senders
  | none, some limit => .ok limit

end Settings

end EventBatching
