import EventBatching.Batch
import EventBatching.Collector.Run

/-!
# Publishers and refusals

A publisher takes the body of a batch downstream. It may fail or panic; the batch is lost then, and
nobody tries again. A batch for which there is no sender goes to a policy instead, which is told
why. The policy may panic too. These are herald's `EventPublisher` and `RejectionPolicy`, and the
task that a worker performs for one batch.

Publishers and policies have a state of their own: what they wrote, what they collected.
-/

namespace EventBatching

/-! ## Publishing -/

/-- The checks that a publisher may run on a batch. -/
structure PublishOptions where
  /-- Whether the events may be published. -/
  checkAuthorization : Bool
  /-- Whether the body is what it should be. -/
  validate : Bool
  deriving Repr, DecidableEq

/-- The checks on the pipeline's own batches: none, since the events come from inside. -/
def PublishOptions.internal : PublishOptions := ⟨false, false⟩

/-- How a publication ended. -/
inductive Publication where
  /-- The publisher took the batch. -/
  | published
  /-- The publisher failed. -/
  | failed (message : String)
  /-- The publisher panicked. -/
  | panicked (message : String)
  deriving Repr, DecidableEq

/-- A publisher: it is given the body and the category of a batch and the checks to run. -/
abbrev Publisher (π : Type) := (body category : String) → PublishOptions → π → Publication × π

/-! ## Refusing -/

/-- Why there is no sender for a batch. -/
inductive Rejection where
  /-- As many batches wait as may wait. -/
  | queueFull (capacity : Nat)
  /-- The senders take no more batches. -/
  | shutDown
  deriving Repr, DecidableEq

/-- A refusal in words. -/
def Rejection.message : Rejection → String
  | .queueFull capacity => s!"batch publishing queue of size {capacity} is full"
  | .shutDown => "batch sender pool is shut down"

/-- What a policy did with a batch. -/
structure Disposal (ρ : Type) where
  /-- Whether the policy returned. -/
  outcome : Outcome
  /-- The state of the policy. -/
  state : ρ
  /-- The lines that it logged. -/
  logs : List Log.Entry

/-- What is done with a batch that has no sender. -/
abbrev Policy (ρ : Type) := Batch → Rejection → ρ → Disposal ρ

/-- The line for a batch that is dropped. -/
def Policy.dropLine (b : Batch) (why : Rejection) : Log.Entry :=
  ⟨.warn, .pool, some Collector.threadName, s!"Failed publish batch {b.label}, as {why.message}"⟩

/-- The standard policy: the batch is dropped with a warning. -/
def Policy.logAndDrop (ρ : Type) : Policy ρ := fun b why s => ⟨.returned, s, [dropLine b why]⟩

end EventBatching
