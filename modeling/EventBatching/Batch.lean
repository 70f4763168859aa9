import EventBatching.Json.Parser
import EventBatching.Json.Printer

/-!
# Records and batches

A producer hands over records: a payload under a key. The payloads collected under one key leave
together as a batch, in the order in which they arrived. The key of a batch is its category. These
are herald's `IncomingRecord` and `Batch`.
-/

namespace EventBatching

/-- The body of an event. -/
abbrev Payload := Json

/-- One event as a producer hands it over. -/
structure Record where
  /-- The category that the event is collected under. -/
  key : String
  /-- The body of the event. -/
  payload : Payload
  deriving Repr, Inhabited

/-- The payloads collected for one category, in arrival order. -/
structure Batch where
  /-- The category. -/
  category : String
  /-- The payloads. -/
  items : List Payload
  deriving Repr, Inhabited

namespace Batch

/-- The number of payloads. -/
def size (b : Batch) : Nat := b.items.length

/-- Whether there are no payloads. -/
def isEmpty (b : Batch) : Bool := b.items.isEmpty

/-- The body that is published: the payloads as a JSON array. -/
def body (b : Batch) : String := Json.printList b.items

/-- How a batch is named in messages. -/
def label (b : Batch) : String := s!"Batch to {b.category} of size {b.size}"

end Batch

end EventBatching
