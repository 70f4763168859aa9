import EventBatching.Journal
import EventBatching.Buffer

/-!
# Rehearsals

Stand-ins for what lies behind a collector, which act by the category of a batch alone. With them
the whole pipeline can be driven through successes, failures and panics.
-/

namespace EventBatching.Rehearsal

/-! ## Sinks -/

/-- What a refusing sink panics with. -/
def refusal (b : Batch) : String := s!"flush refuses {b.label}"

/-- A sink that panics on the batches of some categories and takes all others. -/
def refusingSink (categories : List String) : Sink Unit :=
  fun b s => (if b.category ∈ categories then .panicked (refusal b) else .returned, s)

/-! ## Publishers -/

/-- A batch that was published. -/
structure Published where
  /-- The category. -/
  category : String
  /-- The body. -/
  body : String
  /-- The checks that were asked for. -/
  options : PublishOptions
  deriving Repr, DecidableEq

/-- A publisher that collects the batches that it takes. It fails on categories
that begin with `fail` or `chain` and panics on those that begin with `panic`. -/
def publisher : Publisher (Arrivals Published) := fun body category options taken =>
  if category.startsWith "fail" then (.failed s!"downstream rejected {category}", taken)
  else if category.startsWith "chain" then
    (.failed s!"outer context: root of {category}", taken)
  else if category.startsWith "panic" then
    (.panicked s!"publisher panics on {category}", taken)
  else (.published, taken.push ⟨category, body, options⟩)

/-! ## Policies -/

/-- A batch that was refused. -/
structure Refused where
  /-- How the batch is named. -/
  label : String
  /-- Why it was refused. -/
  why : Rejection
  deriving Repr, DecidableEq

/-- A policy that collects refused batches. -/
def collect : Policy (Arrivals Refused) := fun b why refused =>
  ⟨.returned, refused.push ⟨b.label, why⟩, []⟩

/-- A policy that collects refused batches and panics. -/
def collectAndPanic : Policy (Arrivals Refused) := fun b why refused =>
  ⟨.panicked s!"policy panics on {b.label}: {why.message}", refused.push ⟨b.label, why⟩, []⟩

/-- The policy with a name; the standard one for any other name. -/
def policy : (name : String) → Policy (Arrivals Refused)
  | "collect" => collect
  | "panic" => collectAndPanic
  | _ => .logAndDrop _

/-! ## Writers -/

/-- A buffer whose writer panics when it is called for the `panicAt`-th time. -/
structure FlakyBuffer where
  /-- What was written. -/
  out : Buffer := {}
  /-- The call that panics, counted from one. -/
  panicAt : Option Nat := none
  /-- The number of calls so far. -/
  calls : Nat := 0

/-- What a flaky writer panics with. -/
def writerPanic : String := "writer panics"

/-- Writes to a buffer in as many calls as it takes: the buffer takes what fits, and when some of it
did not fit, it is called again to learn that there is no room left. -/
def flakyWriter : Writer FlakyBuffer := fun bytes b =>
  let first := { b with calls := b.calls + 1 }
  if b.panicAt = some first.calls then (.panicked writerPanic, first)
  else if b.out.fits bytes.size then
    (.complete, { first with out := b.out.append bytes })
  else if b.out.room = some 0 then (.noRoom, first)
  else
    let second := { first with out := b.out.append bytes, calls := first.calls + 1 }
    if b.panicAt = some second.calls then (.panicked writerPanic, second) else (.noRoom, second)

end EventBatching.Rehearsal
