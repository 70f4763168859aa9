import EventBatching.Arrivals
import EventBatching.Batch

/-!
# Open batches

Records collect in open batches, one for each key. An open batch has a deadline, which is settled
when the batch is opened and which later records do not move. Nobody may rely on the order in which
the open batches come up when all of them are visited. Here they are kept and visited in the order
of their keys, which stands for an arbitrary order: it is settled only so that a run has one
outcome. This models herald's `Accumulator` and its `OpenBatch`.

* `OpenBatches.push` puts a payload into the batch of its key and opens one where there is none.
* `OpenBatches.remove` closes the batch of a key.
* `OpenBatches.extractWith` closes the batches that meet a condition, up to a number of them; it
  stops looking as soon as it has found enough. The condition may remember what it has looked at;
  `OpenBatches.extract` is for one that does not.
* `OpenBatches.drain` closes all of them.
-/

namespace EventBatching

/-- A batch that still collects records. -/
structure OpenBatch where
  /-- The payloads so far. -/
  items : Arrivals Payload
  /-- The time after which the batch is overdue. -/
  deadline : Nat
  deriving Repr, Inhabited

namespace OpenBatch

/-- The number of payloads. -/
def size (b : OpenBatch) : Nat := b.items.size

/-- Whether there are no payloads. -/
def isEmpty (b : OpenBatch) : Bool := b.items.isEmpty

/-- The batch with one more payload. -/
def push (b : OpenBatch) (p : Payload) : OpenBatch := { b with items := b.items.push p }

/-- The closed batch, with its payloads in arrival order. -/
def close (b : OpenBatch) (category : String) : Batch := ⟨category, b.items.toList⟩

end OpenBatch

/-- The open batches by key. -/
structure OpenBatches where
  /-- Keys and batches, in the order of the keys, which stands for any other. -/
  entries : List (String × OpenBatch) := []
  deriving Repr, Inhabited

namespace OpenBatches

/-! ## Looking -/

/-- No open batches. -/
def empty : OpenBatches := {}

/-- The keys of the open batches. -/
def keys (a : OpenBatches) : List String := a.entries.map (·.1)

/-- The number of open batches. -/
def size (a : OpenBatches) : Nat := a.entries.length

/-- Whether there are no open batches. -/
def isEmpty (a : OpenBatches) : Bool := a.entries.isEmpty

/-- The open batch of a key. -/
def get? (a : OpenBatches) (key : String) : Option OpenBatch := a.entries.lookup key

/-! ## Collecting -/

/-- Entries with one more in its place by key. -/
def insertEntry (key : String) (batch : OpenBatch) :
    List (String × OpenBatch) → List (String × OpenBatch)
  | [] => [(key, batch)]
  | (k, b) :: rest =>
    if key < k then (key, batch) :: (k, b) :: rest else (k, b) :: insertEntry key batch rest

/-- Opens a batch for a key, due at `deadline`, unless the key has one. -/
def touch (a : OpenBatches) (key : String) (deadline : Nat) : OpenBatches :=
  if (a.get? key).isSome then a else ⟨insertEntry key ⟨.empty, deadline⟩ a.entries⟩

/-- Changes the batch of a key. -/
def modify (a : OpenBatches) (key : String) (change : OpenBatch → OpenBatch) : OpenBatches :=
  ⟨a.entries.map fun (k, b) => if k = key then (k, change b) else (k, b)⟩

/-- Puts a payload into the batch of its key, which is opened with the given deadline if the key has
none. -/
def push (a : OpenBatches) (key : String) (deadline : Nat) (p : Payload) : OpenBatches :=
  (a.touch key deadline).modify key (·.push p)

/-- The number of payloads that wait under a key. -/
def sizeOf (a : OpenBatches) (key : String) : Nat := ((a.get? key).map OpenBatch.size).getD 0

/-! ## Closing -/

/-- Without the batch of a key. -/
def erase (a : OpenBatches) (key : String) : OpenBatches :=
  ⟨a.entries.filter fun (k, _) => k ≠ key⟩

/-- Closes the batch of a key, if it has one. -/
def remove (a : OpenBatches) (key : String) : Option Batch × OpenBatches :=
  ((a.get? key).map (·.close key), a.erase key)

/-- A condition on open batches: its verdict on a batch. It may remember something from one batch to
the next. -/
abbrev Condition (τ : Type) := OpenBatch → τ → Bool × τ

/-- A condition that remembers nothing. -/
def Condition.ofTest (meets : OpenBatch → Bool) : Condition Unit := fun b _ => (meets b, ())

/-- What looking through entries leaves. -/
structure Drawing (τ : Type) where
  /-- The entries that were drawn. -/
  drawn : List (String × OpenBatch)
  /-- The other entries. -/
  kept : List (String × OpenBatch)
  /-- What the condition remembers. -/
  memory : τ

/-- Draws entries that meet a condition, at most `limit` of them. It looks at entries only until it
has found enough. -/
def draw {τ : Type} (meets : Condition τ) :
    (limit : Nat) → List (String × OpenBatch) → τ → Drawing τ
  | 0, entries, memory => ⟨[], entries, memory⟩
  | _ + 1, [], memory => ⟨[], [], memory⟩
  | limit + 1, e :: rest, memory =>
    match meets e.2 memory with
    | (true, memory) =>
      let later := draw meets limit rest memory
      { later with drawn := e :: later.drawn }
    | (false, memory) =>
      let later := draw meets (limit + 1) rest memory
      { later with kept := e :: later.kept }

/-- Closed batches of entries. -/
def closeAll (entries : List (String × OpenBatch)) : List Batch :=
  entries.map fun (key, b) => b.close key

/-- Closes batches that meet a condition, at most `limit` of them, and tells what the condition
remembers. -/
def extractWith {τ : Type} (a : OpenBatches) (meets : Condition τ) (limit : Nat) (memory : τ) :
    List Batch × τ × OpenBatches :=
  let drawing := draw meets limit a.entries memory
  (closeAll drawing.drawn, drawing.memory, ⟨drawing.kept⟩)

/-- Closes batches that meet a condition, at most `limit` of them. -/
def extract (a : OpenBatches) (meets : OpenBatch → Bool) (limit : Nat) :
    List Batch × OpenBatches :=
  let (closed, _, rest) := a.extractWith (.ofTest meets) limit ()
  (closed, rest)

/-- Closes all batches that meet a condition. -/
def extractAll (a : OpenBatches) (meets : OpenBatch → Bool) : List Batch × OpenBatches :=
  (closeAll (a.entries.filter fun (_, b) => meets b), ⟨a.entries.filter fun (_, b) => !meets b⟩)

/-- Closes all batches. -/
def drain (a : OpenBatches) : List Batch × OpenBatches := (closeAll a.entries, empty)

end OpenBatches

end EventBatching
