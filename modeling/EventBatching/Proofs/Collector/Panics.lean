import EventBatching.Proofs.Collector.AnyOrder
import EventBatching.Proofs.Collector.Holding
import Mathlib.Data.List.Permutation

/-!
# What a panic loses

A shutdown and a sweep hand over several batches, one after another, and the sink may panic at any
of them. A shutdown catches every panic by itself: it writes a line and goes on with the next
record or batch, so that the sink is given what it would be given if it never panicked. A sweep
takes all overdue batches out of the open ones before it hands over the first of them, and a panic
ends it. The batches behind the panic are then neither open nor handed over, and no shutdown finds
them. Which ones these are depends on the order in which the open batches come up, so everything
here is said for all orders.

* `Sink.calls` are the calls of a sink with what came of each, and `panicLines` the lines for those
  that panicked.
* `Collector.Tidy` is what is known of the open batches after operations of any kind, whatever the
  settings are and in whatever order the open batches come up; `History.tidy_runIn` says so.
* `History.shutdown_isolates` is what a shutdown does with a sink that panics at will.
* `History.sweep_misses` says which batches a panicking sweep loses, and
  `History.sweep_misses_behindPanic` that there are two of which it loses one in every order.
-/

namespace EventBatching

/-! ## Calls -/

/-- Whether the sink stopped the caller. -/
def Outcome.panics : Outcome → Bool
  | .returned => false
  | .panicked _ => true

namespace Sink

variable {σ : Type}

/-- The calls of a sink that is given batches one after another, panic or not, with what came of
each. -/
def calls (sink : Sink σ) : List Batch → σ → List (Batch × Outcome)
  | [], _ => []
  | b :: rest, s => (b, (sink b s).1) :: calls sink rest (sink b s).2

theorem calls_append (sink : Sink σ) (bs bs' : List Batch) (s : σ) :
    sink.calls (bs ++ bs') s = sink.calls bs s ++ sink.calls bs' (sink.feed bs s) := by
  induction bs generalizing s with
  | nil => rfl
  | cons b rest ih => simp only [List.cons_append, calls, ih, feed_cons]

/-- Where handing over stopped at a panic, the calls before it returned, and the batches behind it
were in no call. -/
theorem takeAll_of_error {sink : Sink σ} {bs : List Batch} {s : σ} {message : String}
    (panicked : (sink.takeAll bs s).result = .error message) :
    ∃ taken b missed, bs = taken ++ b :: missed ∧ (sink.takeAll bs s).flushed = taken ++ [b] ∧
      (∀ call ∈ sink.calls taken s, call.2 = .returned) ∧
      (sink b (sink.feed taken s)).1 = .panicked message := by
  induction bs generalizing s with
  | nil => simp [takeAll] at panicked
  | cons b rest ih =>
    rcases hb : sink b s with ⟨outcome, t⟩
    simp only [takeAll, hb] at panicked ⊢
    cases outcome with
    | panicked message' =>
      obtain rfl : message' = message := by simpa using panicked
      exact ⟨[], b, rest, rfl, rfl, fun call hcall => absurd hcall List.not_mem_nil, by simp [hb]⟩
    | returned =>
      obtain ⟨taken, b', missed, hrest, hflushed, hreturned, hlast⟩ := ih panicked
      refine ⟨b :: taken, b', missed, ?_, ?_, ?_, ?_⟩
      · rw [hrest, List.cons_append]
      · simp only [hflushed, List.cons_append]
      · rw [calls, hb]
        exact List.forall_mem_cons.2 ⟨rfl, hreturned⟩
      · rwa [feed_cons, hb]

end Sink

theorem Batch.itemsUnder_eq (key : String) (bs : List Batch) :
    Batch.itemsUnder key bs = (Batch.ofCategory key bs).flatMap (·.items) := rfl

/-- A key without batches is the category of none. -/
theorem Batch.ofCategory_eq_nil_iff {key : String} {bs : List Batch} :
    Batch.ofCategory key bs = [] ↔ key ∉ bs.map (·.category) := by
  simp [Batch.ofCategory, List.filter_eq_nil_iff]

/-- The lines for the calls that panicked. -/
def panicLines (line : Batch → Log.Entry) (calls : List (Batch × Outcome)) : List Log.Entry :=
  (calls.filter (·.2.panics)).map fun call => line call.1

theorem panicLines_append (line : Batch → Log.Entry) (calls calls' : List (Batch × Outcome)) :
    panicLines line (calls ++ calls') = panicLines line calls ++ panicLines line calls' := by
  simp only [panicLines, List.filter_append, List.map_append]

theorem panicLines_cons (line : Batch → Log.Entry) (b : Batch) (outcome : Outcome)
    (calls : List (Batch × Outcome)) :
    panicLines line ((b, outcome) :: calls) =
      (if outcome.panics then [line b] else []) ++ panicLines line calls := by
  cases outcome with
  | returned => rfl
  | panicked message => rfl

/-- Where every line for a panic is an error, there are as many errors as panics. -/
theorem length_errors_panicLines {line : Batch → Log.Entry} (errors : ∀ b, (line b).level = .error)
    (calls : List (Batch × Outcome)) :
    ((panicLines line calls).filter (·.level = .error)).length =
      (calls.filter (·.2.panics)).length := by
  have hall : (panicLines line calls).filter (·.level = .error) = panicLines line calls := by
    refine List.filter_eq_self.2 fun e he => ?_
    obtain ⟨call, -, rfl⟩ := List.mem_map.1 he
    exact decide_eq_true (errors call.1)
  rw [hall, panicLines, List.length_map]

/-! ## Compartments of any size -/

namespace Compartment

/-- A batch that is not full is none after records were folded in. -/
theorem Filling.drain {c : Compartment} (filling : c.Filling) (now : Nat) (queue : List Record) :
    (c.drain now queue).2.Filling := by
  induction queue generalizing c with
  | nil => exact filling
  | cons r rest ih =>
    refine ih (c := (c.offer r now).2) ?_
    by_cases hkey : r.key = c.key
    · rw [offer_own hkey]
      exact c.filling_add r.payload now
    · rw [offer_other hkey]
      exact filling

theorem Filling.sweep {c : Compartment} (filling : c.Filling) (now : Nat) :
    (c.sweep now).2.Filling := by
  intro b hb
  exact filling b (Option.filter_eq_some_iff.1 hb).1

/-- The compartment, with room for one record if there is room for none. -/
def roomy (c : Compartment) : Compartment := { c with maxBatchSize := max 1 c.maxBatchSize }

/-- A record that is folded in fills a batch for which there is no room as it fills one for which
there is room for one. -/
theorem roomy_offer (c : Compartment) (r : Record) (now : Nat) :
    c.roomy.offer r now = ((c.offer r now).1, (c.offer r now).2.roomy) := by
  by_cases hkey : r.key = c.key
  · have hroom : (c.waiting.length + 1 < max 1 c.maxBatchSize) =
        (c.waiting.length + 1 < c.maxBatchSize) := by
      rw [Nat.max_def]
      split
      · rfl
      · exact propext ⟨by omega, by omega⟩
    rw [offer_own hkey, offer_own (c := c.roomy) hkey]
    simp only [add, roomy, size_collected, hroom]
    split
    · rfl
    · rfl
  · rw [offer_other hkey, offer_other (c := c.roomy) hkey]

theorem roomy_shutdown (c : Compartment) (queue : List Record) (now : Nat) :
    c.roomy.shutdown queue now = c.shutdown queue now := by
  induction queue generalizing c with
  | nil => rfl
  | cons r rest ih => rw [shutdown_cons, shutdown_cons, roomy_offer, ih]

/-- A shutdown cuts what waits and what is queued into pieces of the greatest size, or of one record
if the greatest size is zero. -/
theorem Filling.shutdown_chunks {c : Compartment} (filling : c.Filling) (queue : List Record)
    (now : Nat) :
    (c.shutdown queue now).map (·.items) =
      (c.waiting ++ Record.payloadsUnder c.key queue).toChunks (max 1 c.maxBatchSize) := by
  have hroomy : c.roomy.Filling := fun b hb =>
    ⟨(filling b hb).1, Nat.lt_of_lt_of_le (filling b hb).2 (Nat.le_max_right ..)⟩
  rw [← roomy_shutdown, Compartment.shutdown_chunks hroomy (Nat.le_max_left ..)]
  rfl

/-- What waits is at the front of the first batch that a shutdown closes. -/
theorem shutdown_first {c : Compartment} {b : OpenBatch} (open_eq : c.batch = some b)
    (queue : List Record) (now : Nat) :
    ∃ first rest, c.shutdown queue now = first :: rest ∧ b.items.toList <+: first.items := by
  induction queue generalizing c b with
  | nil =>
    refine ⟨b.close c.key, [], ?_, List.prefix_refl _⟩
    simp [shutdown, drain, open_eq]
  | cons r rest ih =>
    rw [shutdown_cons]
    by_cases hkey : r.key = c.key
    · rw [offer_own hkey]
      have hpushed : b.items.toList <+: (b.push r.payload).items.toList := by
        simp [OpenBatch.push]
      simp only [add, open_eq, Option.getD_some]
      split
      · obtain ⟨first, more, hfirst, hprefix⟩ :=
          ih (c := { c with batch := some (b.push r.payload) }) rfl
        exact ⟨first, more, hfirst, hpushed.trans hprefix⟩
      · exact ⟨_, _, rfl, hpushed⟩
    · rw [offer_other hkey]
      exact ih open_eq

end Compartment

namespace Collector

variable {σ τ : Type}

/-! ## Collectors with any settings -/

/-- No key has two open batches, and none of them is empty or full. -/
structure Tidy (settings : Settings) (d : Collector) : Prop where
  /-- The greatest size is the one that was set. -/
  max_eq : d.maxBatchSize = settings.maxBatchSize
  /-- No key has two open batches. -/
  distinct : d.batches.Distinct
  /-- A batch that is open has a record and is not full. -/
  filling : ∀ key, (d.watcher.compartment key).Filling

theorem tidy_of_empty {settings : Settings} {d : Collector}
    (max_eq : d.maxBatchSize = settings.maxBatchSize) (empty : d.batches = .empty) :
    d.Tidy settings := by
  refine ⟨max_eq, ?_, fun key b hb => ?_⟩
  · rw [empty]
    exact OpenBatches.distinct_empty
  · have hnone : (d.watcher.compartment key).batch = none := by
      show d.batches.get? key = none
      rw [empty]
      rfl
    exact absurd hb (by simp [hnone])

section Steps

variable {settings : Settings} {d : Collector}

theorem drainQueue_maxBatchSize (d : Collector) (sink : Sink σ) (now : Nat) (queue : List Record)
    (s : σ) : (d.drainQueue sink now queue s).after.maxBatchSize = d.maxBatchSize := by
  induction queue generalizing d s with
  | nil => rfl
  | cons r rest ih =>
    simp only [drainQueue, ih, add_after]

theorem Tidy.drainQueue (tidy : d.Tidy settings) (sink : Sink σ) (now : Nat) (queue : List Record)
    (s : σ) : (d.drainQueue sink now queue s).after.Tidy settings where
  max_eq := (d.drainQueue_maxBatchSize sink now queue s).trans tidy.max_eq
  distinct := drainQueue_distinct tidy.distinct ..
  filling key := by
    have hkey := (tidy.filling key).drain now queue
    rw [← d.drainQueue_compartment sink now queue s key] at hkey
    exact hkey

theorem Tidy.sweep (tidy : d.Tidy settings) (sink : Sink σ) (now : Nat) (s : σ) :
    (d.sweep sink now s).after.Tidy settings where
  max_eq := tidy.max_eq
  distinct := overdue_distinct tidy.distinct now
  filling key := by
    have hkey := (tidy.filling key).sweep now
    rw [← Watcher.overdue_compartment (w := d.watcher) tidy.distinct now key] at hkey
    exact hkey

theorem Tidy.inOrder (tidy : d.Tidy settings) (order : OpenBatches.Order) :
    (d.inOrder order).Tidy settings where
  max_eq := tidy.max_eq
  distinct := tidy.distinct.inOrder order
  filling key := by
    rw [inOrder_compartment tidy.distinct]
    exact tidy.filling key

theorem Tidy.sweepIn (tidy : d.Tidy settings) (order : OpenBatches.Order) (sink : Sink σ)
    (now : Nat) (s : σ) : (d.sweepIn order sink now s).after.Tidy settings := by
  rw [sweepIn_eq]
  exact (tidy.inOrder order).sweep sink now s

theorem Tidy.tickIn (tidy : d.Tidy settings) (order : OpenBatches.Order) (sink : Sink σ)
    (flushed : Bool) (now : Nat) (s : σ) :
    (d.tickIn order sink flushed now s).after.Tidy settings := by
  rw [Collector.tickIn]
  split
  · exact tidy.sweepIn order sink now s
  · exact tidy

theorem Tidy.shutdownIn (tidy : d.Tidy settings) (order : OpenBatches.Order) (sink : Sink σ)
    (queue : List Record) (now : Nat) (s : σ) :
    (d.shutdownIn order sink queue now s).after.Tidy settings :=
  tidy_of_empty (tidy.drainQueue sink now queue s).max_eq rfl

end Steps

/-! ## What a shutdown hands over and writes -/

/-- What the records of a queue make full, and what they leave open, does not hang on the sink. -/
theorem drainQueue_anySink (d : Collector) (sink : Sink σ) (sink' : Sink τ) (now : Nat)
    (queue : List Record) (s : σ) (s' : τ) :
    (d.drainQueue sink now queue s).flushed = (d.drainQueue sink' now queue s').flushed ∧
      (d.drainQueue sink now queue s).after = (d.drainQueue sink' now queue s').after := by
  induction queue generalizing d s s' with
  | nil => exact ⟨rfl, rfl⟩
  | cons r rest ih =>
    have hrest :=
      ih (d.add sink r now s).after (d.add sink r now s).sink (d.add sink' r now s').sink
    rw [add_after, ← add_after d sink' r now s'] at hrest
    simp only [drainQueue, add_flushed]
    rw [add_after, ← add_after d sink' r now s']
    exact ⟨congrArg _ hrest.1, hrest.2⟩

/-- A shutdown hands over what it would hand over to a sink that never panics. -/
theorem shutdownIn_anySink (d : Collector) (order : OpenBatches.Order) (sink : Sink σ)
    (sink' : Sink τ) (queue : List Record) (now : Nat) (s : σ) (s' : τ) :
    (d.shutdownIn order sink queue now s).flushed =
      (d.shutdownIn order sink' queue now s').flushed := by
  obtain ⟨hflushed, hafter⟩ := d.drainQueue_anySink sink sink' now queue s s'
  simp only [shutdownIn, Ending.handOver, hflushed, hafter]

/-- A record that leaves its batch open makes no call. One that makes it full makes a call with a
batch of its key, and the addition ends as the call does. -/
theorem add_cases (d : Collector) (sink : Sink σ) (r : Record) (now : Nat) (s : σ) :
    ((d.add sink r now s).flushed = [] ∧ (d.add sink r now s).result = .ok false) ∨
      ∃ b, b.category = r.key ∧ (d.add sink r now s).flushed = [b] ∧
        (((sink b s).1 = .returned ∧ (d.add sink r now s).result = .ok true) ∨
          ∃ message, (sink b s).1 = .panicked message ∧
            (d.add sink r now s).result = .error message) := by
  obtain ⟨b, hb⟩ := Option.isSome_iff_exists.1 (d.remove_collected_isSome r now)
  have hcategory : b.category = r.key := by
    obtain ⟨o, -, rfl⟩ := Option.map_eq_some_iff.1 hb
    rfl
  rw [collected] at hb
  rw [add]
  split
  · exact .inl ⟨rfl, rfl⟩
  · right
    simp only [hb, Option.toList_some, Sink.takeAll]
    rcases hsink : sink b s with ⟨outcome, t⟩
    cases outcome with
    | returned => exact ⟨b, hcategory, rfl, .inl ⟨by rw [hsink], rfl⟩⟩
    | panicked message => exact ⟨b, hcategory, rfl, .inr ⟨message, by rw [hsink], rfl⟩⟩

theorem drainQueue_logs (d : Collector) (sink : Sink σ) (now : Nat) (queue : List Record) (s : σ) :
    (d.drainQueue sink now queue s).logs =
      panicLines (fun b => drainPanic b.category)
        (sink.calls (d.drainQueue sink now queue s).flushed s) := by
  induction queue generalizing d s with
  | nil => rfl
  | cons r rest ih =>
    have hrest := ih (d.add sink r now s).after (d.add sink r now s).sink
    rw [add_sink] at hrest
    simp only [drainQueue]
    rw [Sink.calls_append, panicLines_append, add_sink, hrest]
    obtain ⟨hnone, hresult⟩ | ⟨b, hcategory, hone,
      ⟨houtcome, hresult⟩ | ⟨message, houtcome, hresult⟩⟩ := d.add_cases sink r now s
    · rw [hresult, hnone]
      rfl
    · rw [hresult, hone, Sink.calls, panicLines_cons, houtcome]
      rfl
    · rw [hresult, hone, Sink.calls, panicLines_cons, houtcome, hcategory]
      rfl

theorem handOverAll_logs (sink : Sink σ) (bs : List Batch) (s : σ) :
    (handOverAll sink bs s).2 = panicLines leftoverPanic (sink.calls bs s) := by
  induction bs generalizing s with
  | nil => rfl
  | cons b rest ih =>
    rcases hb : sink b s with ⟨outcome, t⟩
    simp only [handOverAll, hb, Sink.calls, panicLines_cons, ← ih]
    cases outcome with
    | returned => rfl
    | panicked message => rfl

/-- A shutdown writes a line for every call that panicked, in the order of the calls, and then the
number of records that were queued and of batches that they left open. -/
theorem shutdownIn_logs (d : Collector) (order : OpenBatches.Order) (sink : Sink σ)
    (queue : List Record) (now : Nat) (s : σ) :
    let drained := d.drainQueue sink now queue s
    let leftover := (drained.after.batches.inOrder order).drain.1
    (d.shutdownIn order sink queue now s).logs =
      panicLines (fun b => drainPanic b.category) (sink.calls drained.flushed s) ++
        panicLines leftoverPanic (sink.calls leftover drained.sink) ++
        [shutDownLine queue.length drained.after.batches.size] := by
  intro drained leftover
  have hsize : leftover.length = drained.after.batches.size := by
    rw [← drained.after.batches.size_inOrder order]
    exact List.length_map _
  simp only [shutdownIn, Ending.handOver]
  rw [drainQueue_logs, handOverAll_logs, ← hsize]

theorem length_errors_shutdownIn (d : Collector) (order : OpenBatches.Order) (sink : Sink σ)
    (queue : List Record) (now : Nat) (s : σ) :
    let ended := d.shutdownIn order sink queue now s
    (ended.logs.filter (·.level = .error)).length =
      ((sink.calls ended.flushed s).filter (·.2.panics)).length := by
  intro ended
  have hflushed : ended.flushed = (d.drainQueue sink now queue s).flushed ++
      ((d.drainQueue sink now queue s).after.batches.inOrder order).drain.1 := rfl
  have hlast : ∀ n m, ([shutDownLine n m].filter (·.level = .error)).length = 0 := fun _ _ => rfl
  rw [shutdownIn_logs, hflushed, Sink.calls_append, ← drainQueue_sink]
  simp only [List.filter_append, List.length_append, hlast, Nat.add_zero,
    length_errors_panicLines (fun b => (rfl : (drainPanic b.category).level = .error)),
    length_errors_panicLines (fun b => (rfl : (leftoverPanic b).level = .error))]

/-- What a shutdown hands over of a key is what was open of it, and then what was queued. -/
theorem shutdownIn_items {d : Collector} (distinct : d.batches.Distinct)
    (order : OpenBatches.Order) (sink : Sink σ) (queue : List Record) (now : Nat) (s : σ)
    (key : String) :
    Batch.itemsUnder key (d.shutdownIn order sink queue now s).flushed =
      d.batches.itemsOf key ++ Record.payloadsUnder key queue := by
  rw [Batch.itemsUnder_eq, ofCategory_shutdownIn distinct, ← Batch.itemsUnder_eq,
    shutdown_items distinct]

/-! ## What a sweep leaves to a shutdown -/

section Sweeps

variable {d : Collector} {now : Nat} {s : σ} {sink : Sink σ} {missed : List Batch} {key : String}
  {b : OpenBatch}

theorem ofCategory_overdue (distinct : d.batches.Distinct) (now : Nat) (key : String) :
    Batch.ofCategory key (d.overdue now).1 =
      (((d.batches.get? key).filter (·.deadline < now)).map (·.close key)).toList :=
  OpenBatches.ofCategory_extractAll distinct (fun b => b.deadline < now) key

/-- What a sweep leaves open does not hang on the sink. -/
theorem get?_swept (distinct : d.batches.Distinct) (sink : Sink σ) (now : Nat) (s : σ)
    (key : String) :
    (d.sweep sink now s).after.batches.get? key =
      (d.batches.get? key).filter fun b => !decide (b.deadline < now) :=
  OpenBatches.get?_extractAll distinct (fun b => b.deadline < now) key

/-- A batch that a sweep took and did not hand over is not handed over by a shutdown either. -/
theorem swept_of_missed (distinct : d.batches.Distinct)
    (stopped : (d.overdue now).1 = (d.sweep sink now s).flushed ++ missed)
    (lost : key ∈ missed.map (·.category)) (last : OpenBatches.Order) (queue : List Record)
    (later : Nat) :
    let swept := d.sweep sink now s
    let ended := swept.after.shutdownIn last sink queue later swept.sink
    Batch.itemsUnder key (swept.flushed ++ ended.flushed) = Record.payloadsUnder key queue := by
  intro swept ended
  have hmissed : Batch.ofCategory key missed ≠ [] := fun h => Batch.ofCategory_eq_nil_iff.1 h lost
  have hclosed := ofCategory_overdue distinct now key
  rw [stopped, Batch.ofCategory_append] at hclosed
  -- there is one batch of the key at most, and it is among the missed ones
  obtain ⟨hflushed, hopen⟩ : Batch.ofCategory key swept.flushed = [] ∧
      swept.after.batches.get? key = none := by
    rw [get?_swept distinct]
    cases hb : d.batches.get? key with
    | none =>
      rw [hb] at hclosed
      exact absurd (List.append_eq_nil_iff.1 hclosed).2 hmissed
    | some b =>
      by_cases hdue : b.deadline < now
      · rw [hb, Option.filter_some_pos (by simpa using hdue)] at hclosed
        obtain ⟨hnone, -⟩ | ⟨-, hnone⟩ := List.append_eq_singleton_iff.1 hclosed
        · exact ⟨hnone, Option.filter_some_neg (by simpa using hdue)⟩
        · exact absurd hnone hmissed
      · rw [hb, Option.filter_some_neg (by simpa using hdue)] at hclosed
        exact absurd (List.append_eq_nil_iff.1 hclosed).2 hmissed
  have hitems : swept.after.batches.itemsOf key = [] := by
    rw [OpenBatches.itemsOf, hopen]
    rfl
  rw [Batch.itemsUnder_append, Batch.itemsUnder_eq, hflushed,
    shutdownIn_items (overdue_distinct distinct now), hitems]
  rfl

/-- A batch that a sweep did not miss is in one call, by the sweep or by the shutdown after it. -/
theorem swept_of_not_missed (distinct : d.batches.Distinct)
    (stopped : (d.overdue now).1 = (d.sweep sink now s).flushed ++ missed)
    (kept : key ∉ missed.map (·.category)) (open_eq : d.batches.get? key = some b)
    (last : OpenBatches.Order) (queue : List Record) (later : Nat) :
    let swept := d.sweep sink now s
    let ended := swept.after.shutdownIn last sink queue later swept.sink
    let given := swept.flushed ++ ended.flushed
    Batch.itemsUnder key given = b.items.toList ++ Record.payloadsUnder key queue ∧
      ∃ first rest, Batch.ofCategory key given = first :: rest ∧
        b.items.toList <+: first.items := by
  intro swept ended given
  have hdistinct : swept.after.batches.Distinct := overdue_distinct distinct now
  have hswept : Batch.ofCategory key swept.flushed = Batch.ofCategory key (d.overdue now).1 := by
    rw [stopped, Batch.ofCategory_append, Batch.ofCategory_eq_nil_iff.2 kept, List.append_nil]
  constructor
  · have hitems : Batch.itemsUnder key (d.overdue now).1 ++ swept.after.batches.itemsOf key =
        d.batches.itemsOf key :=
      OpenBatches.itemsOf_extractAll distinct (fun b => b.deadline < now) key
    have hwaiting : d.batches.itemsOf key = b.items.toList := by
      rw [OpenBatches.itemsOf, open_eq]
      rfl
    rw [Batch.itemsUnder_append, shutdownIn_items hdistinct, Batch.itemsUnder_eq, hswept,
      ← Batch.itemsUnder_eq, ← List.append_assoc, hitems, hwaiting]
  · have hclosed := ofCategory_overdue distinct now key
    have hget := get?_swept distinct sink now s key
    rw [open_eq] at hclosed hget
    rw [Batch.ofCategory_append, hswept, hclosed]
    by_cases hdue : b.deadline < now
    · rw [Option.filter_some_pos (by simpa using hdue)]
      exact ⟨b.close key, _, rfl, List.prefix_refl _⟩
    · rw [Option.filter_some_pos (by simpa using hdue)] at hget
      rw [Option.filter_some_neg (by simpa using hdue), ofCategory_shutdownIn hdistinct,
        shutdown_compartment hdistinct]
      exact Compartment.shutdown_first hget queue later

/-- What a sweep takes out was open, with a deadline that has passed. -/
theorem mem_overdue (distinct : d.batches.Distinct) {lost : Batch} (h : lost ∈ (d.overdue now).1) :
    ∃ o, d.batches.get? lost.category = some o ∧ o.deadline < now ∧
      lost = o.close lost.category := by
  have hmem := Batch.mem_ofCategory h
  rw [ofCategory_overdue distinct] at hmem
  obtain ⟨o, ho, hclosed⟩ := Option.map_eq_some_iff.1 (Option.mem_toList.1 hmem)
  obtain ⟨hopen, hdue⟩ := Option.filter_eq_some_iff.1 ho
  exact ⟨o, hopen, by simpa using hdue, hclosed.symm⟩

theorem sweep_sink (d : Collector) (sink : Sink σ) (now : Nat) (s : σ) :
    (d.sweep sink now s).sink = sink.feed (d.sweep sink now s).flushed s := Sink.takeAll_sink ..

end Sweeps

end Collector

namespace History

variable {σ : Type}

/-! ## After operations of any kind -/

section Steps

variable {settings : Settings} {h : History σ}

theorem tidy_performIn (tidy : h.collector.Tidy settings) (sink : Sink σ)
    (order : OpenBatches.Order) (op : Operation) :
    (h.performIn sink order op).collector.Tidy settings := by
  cases op with
  | add r now => exact tidy.drainQueue sink now [r] h.sink
  | tick flushed now => exact tidy.tickIn order sink flushed now h.sink
  | sweep now => exact tidy.sweepIn order sink now h.sink
  | shutdown inbox now =>
    have hshut := tidy.shutdownIn order sink inbox.queue.toList now h.sink
    rwa [performIn, Collector.shutdownInboxIn_eq]

theorem tidy_runIn (tidy : h.collector.Tidy settings) (sink : Sink σ)
    (deeds : List (OpenBatches.Order × Operation)) :
    (h.runIn sink deeds).collector.Tidy settings := by
  induction deeds generalizing h with
  | nil => exact tidy
  | cons deed rest ih => exact ih (tidy_performIn tidy sink deed.1 deed.2)

end Steps

theorem tidy_reached (settings : Settings) (sink : Sink σ) (begun : Nat) (s : σ)
    (deeds : List (OpenBatches.Order × Operation)) :
    ((start settings begun s).runIn sink deeds).collector.Tidy settings :=
  tidy_runIn (Collector.tidy_of_empty rfl rfl) sink deeds

/-- **A shutdown goes on behind every panic.** Let a collector be told to do this and that, with any
settings, a sink that may panic at any call, and the open batches in any order each time, and then
to shut down over an inbox. The inbox and the open batches are empty in the end. The sink was given
the batches that the queued records made full and then those that they left open, one of a key, each
in one call and all of them as if the sink never panicked. For each key these are the payloads that
were open, followed by those that were queued, in pieces of the greatest size and a last one of what
is left. There is one error line for each call that panicked and none else, and the last line tells
how many records were queued and how many batches they left open. -/
theorem shutdown_isolates (settings : Settings) (sink : Sink σ) (begun : Nat) (s : σ)
    (deeds : List (OpenBatches.Order × Operation)) (last : OpenBatches.Order) (inbox : Inbox)
    (now : Nat) :
    let h := (start settings begun s).runIn sink deeds
    let drained := (h.collector.drainInbox sink now inbox h.sink).1
    let leftover := (drained.after.batches.inOrder last).drain.1
    let ended := (h.collector.shutdownInboxIn last sink inbox now h.sink).1
    let left := (h.collector.shutdownInboxIn last sink inbox now h.sink).2
    let calls := sink.calls ended.flushed h.sink
    let line := fun (level : Log.Level) (text : String) =>
      (⟨level, .collector, some "processor-dispatch", text⟩ : Log.Entry)
    (left.queue = .empty ∧ ended.after.batches = .empty) ∧
      (∀ key, Batch.itemsUnder key ended.flushed =
        h.collector.batches.itemsOf key ++ Record.payloadsUnder key inbox.queue.toList) ∧
      (∀ key, (Batch.ofCategory key ended.flushed).map (·.items) =
        (h.collector.batches.itemsOf key ++
          Record.payloadsUnder key inbox.queue.toList).toChunks (max 1 settings.maxBatchSize)) ∧
      (ended.flushed = drained.flushed ++ leftover ∧ (leftover.map (·.category)).Nodup ∧
        ended.sink = sink.feed ended.flushed h.sink ∧
        ended.flushed = (h.collector.shutdownInboxIn last Sink.keep inbox now []).1.flushed) ∧
      (ended.logs =
        panicLines
            (fun b => line .error s!"Flush panicked while draining a record for {b.category}")
            (sink.calls drained.flushed h.sink) ++
          panicLines
            (fun b => line .error
              s!"Flush panicked for Batch to {b.category} of size {b.items.length} during shutdown")
            (sink.calls leftover drained.sink) ++
          [line .info ("Dispatcher shut down: drained " ++ toString inbox.queue.size ++
            " queued records, flushed " ++ toString drained.after.batches.size ++
            " open batches")]) ∧
      (ended.logs.filter (·.level = .error)).length = (calls.filter (·.2.panics)).length := by
  intro h drained leftover ended left calls line
  have htidy : h.collector.Tidy settings := tidy_reached settings sink begun s deeds
  have hdrained : drained = h.collector.drainQueue sink now inbox.queue.toList h.sink :=
    congrArg Prod.fst (Collector.drainInbox_eq ..)
  have hshut := h.collector.shutdownInboxIn_eq last sink inbox now h.sink
  have hended : ended = h.collector.shutdownIn last sink inbox.queue.toList now h.sink :=
    congrArg Prod.fst hshut
  have hleft : left = { inbox with queue := .empty } := congrArg Prod.snd hshut
  have hopen : drained.after.batches.Distinct := by
    rw [hdrained]
    exact (htidy.drainQueue sink now inbox.queue.toList h.sink).distinct
  have hchunks : ∀ key, (Batch.ofCategory key ended.flushed).map (·.items) =
      (h.collector.batches.itemsOf key ++
        Record.payloadsUnder key inbox.queue.toList).toChunks (max 1 settings.maxBatchSize) := by
    intro key
    rw [hended, Collector.ofCategory_shutdownIn htidy.distinct,
      Collector.shutdown_compartment htidy.distinct, (htidy.filling key).shutdown_chunks,
      ← htidy.max_eq]
    rfl
  have hdistinct : (leftover.map (·.category)).Nodup := by
    have hkeys : leftover.map (·.category) = (drained.after.batches.inOrder last).keys :=
      List.map_map
    rw [hkeys]
    exact hopen.inOrder last
  have hkeep : ended.flushed =
      (h.collector.shutdownInboxIn last Sink.keep inbox now []).1.flushed := by
    rw [hended, Collector.shutdownInboxIn_eq]
    exact h.collector.shutdownIn_anySink ..
  have hlogs := h.collector.shutdownIn_logs last sink inbox.queue.toList now h.sink
  rw [Arrivals.length_toList] at hlogs
  refine ⟨⟨?_, ?_⟩, fun key => ?_, hchunks, ⟨?_, hdistinct, ?_, hkeep⟩, ?_, ?_⟩
  · rw [hleft]
  · rw [hended]
    rfl
  · rw [hended, Collector.shutdownIn_items htidy.distinct]
  · rw [hended]
    simp only [leftover, hdrained]
    rfl
  · rw [hended]
    exact Collector.shutdownIn_sink ..
  · rw [hended]
    simp only [leftover, hdrained]
    exact hlogs
  · simp only [calls, hended]
    exact Collector.length_errors_shutdownIn ..

/-- **A sweep loses the batches behind a panic, and no others.** Let a collector be told to do this
and that, with any settings, a sink that may panic at any call, and the open batches in any order
each time; let a sweep end in a panic, and let a shutdown over an inbox follow. The sweep took the
overdue batches out of the open ones, in the order in which they came up; those before the panic
were given to the sink and returned, the next one panicked, and the rest were missed. A batch that
was open and was not missed is in one call, by the sweep or by the shutdown, with all its payloads,
before what was queued under its key. A missed batch was open too, with one payload at least; the
sink is given nothing of its key but what was queued. -/
theorem sweep_misses (settings : Settings) (sink : Sink σ) (begun : Nat) (s : σ)
    (deeds : List (OpenBatches.Order × Operation)) (order last : OpenBatches.Order) (inbox : Inbox)
    (now later : Nat) (message : String) :
    let h := (start settings begun s).runIn sink deeds
    let shown := order.arrange h.collector.batches.entries
    let overdue := OpenBatches.closeAll (shown.filter fun e => e.2.deadline < now)
    let swept := h.collector.sweepIn order sink now h.sink
    let ended := (swept.after.shutdownInboxIn last sink inbox later swept.sink).1
    let given := swept.flushed ++ ended.flushed
    swept.result = .error message →
      ∃ taken b missed, overdue = taken ++ b :: missed ∧
        swept.flushed = taken ++ [b] ∧
        (∀ call ∈ sink.calls taken h.sink, call.2 = .returned) ∧
        (sink b (sink.feed taken h.sink)).1 = .panicked message ∧
        ended.sink = sink.feed given h.sink ∧
        (∀ key o, h.collector.batches.get? key = some o → key ∉ missed.map (·.category) →
          Batch.itemsUnder key given =
              o.items.toList ++ Record.payloadsUnder key inbox.queue.toList ∧
            ∃ first rest, Batch.ofCategory key given = first :: rest ∧
              o.items.toList <+: first.items) ∧
        ∀ lost ∈ missed, ∃ o, h.collector.batches.get? lost.category = some o ∧
          o.deadline < now ∧ lost = o.close lost.category ∧ lost.items ≠ [] ∧
          Batch.itemsUnder lost.category given =
            Record.payloadsUnder lost.category inbox.queue.toList := by
  intro h shown overdue swept ended given panicked
  have hreached : h.collector.Tidy settings := tidy_reached settings sink begun s deeds
  -- the sweep is one of a collector that keeps its open batches in the order of this sweep
  let d := h.collector.inOrder order
  have htidy : d.Tidy settings := hreached.inOrder order
  have hget : d.batches.get? = h.collector.batches.get? := hreached.distinct.get?_inOrder order
  have hswept : swept = d.sweep sink now h.sink := Collector.sweepIn_eq ..
  have hended : ended = swept.after.shutdownIn last sink inbox.queue.toList later swept.sink :=
    congrArg Prod.fst (Collector.shutdownInboxIn_eq ..)
  have hgiven : given = swept.flushed ++
      (swept.after.shutdownIn last sink inbox.queue.toList later swept.sink).flushed := by
    rw [← hended]
  rw [hswept] at panicked hgiven
  obtain ⟨taken, b, missed, hoverdue, hflushed, hreturned, hlast⟩ := Sink.takeAll_of_error panicked
  have hstopped : (d.overdue now).1 = (d.sweep sink now h.sink).flushed ++ missed := by
    rw [show (d.sweep sink now h.sink).flushed = taken ++ [b] from hflushed, List.append_assoc]
    exact hoverdue
  rw [← hget]
  refine ⟨taken, b, missed, hoverdue, ?_, hreturned, hlast, ?_, ?_, ?_⟩
  · rw [hswept]
    exact hflushed
  · rw [Sink.feed_append, hswept, ← Collector.sweep_sink, ← hswept, hended]
    exact Collector.shutdownIn_sink ..
  · intro key o hopen hkept
    rw [hgiven]
    exact Collector.swept_of_not_missed htidy.distinct hstopped hkept hopen last _ later
  · intro lost hlost
    have hmem : lost ∈ (d.overdue now).1 := by
      rw [hstopped]
      exact List.mem_append_right _ hlost
    obtain ⟨o, hopen, hdue, hclosed⟩ := Collector.mem_overdue htidy.distinct hmem
    refine ⟨o, hopen, hdue, hclosed, ?_, ?_⟩
    · rw [hclosed]
      exact (htidy.filling _ o hopen).1
    · rw [hgiven]
      exact Collector.swept_of_missed htidy.distinct hstopped (List.mem_map_of_mem hlost) last _
        later

/-- The last entry comes up first. -/
def turned : OpenBatches.Order := ⟨List.reverse, List.reverse_perm⟩

/-- Of four open batches three are overdue at 20. -/
def fourOpen : History Unit :=
  (start { collectionTimeout := 10 } 0 ()).runIn (Rehearsal.refusingSink ["c"])
    [(.kept, .add ⟨"a", .null⟩ 15), (turned, .add ⟨"b", .null⟩ 0), (.kept, .add ⟨"c", .null⟩ 1),
      (turned, .add ⟨"d", .null⟩ 2)]

/-- The batch of the last key comes up first, and that of `b` behind the one that the sink panics
on. -/
theorem sweep_misses_fourOpen :
    let inbox : Inbox :=
      { capacity := 2, queue := (Arrivals.empty.push ⟨"a", .bool true⟩).push ⟨"b", .bool true⟩ }
    let swept := fourOpen.collector.sweepIn turned (Rehearsal.refusingSink ["c"]) 20 fourOpen.sink
    let ended :=
      (swept.after.shutdownInboxIn .kept (Rehearsal.refusingSink ["c"]) inbox 21 swept.sink).1
    let given := swept.flushed ++ ended.flushed
    swept.result = .error "flush refuses Batch to c of size 1" ∧
      swept.flushed.map (·.category) = ["d", "c"] ∧
      Batch.itemsUnder "a" given = [.null, .bool true] ∧
      Batch.itemsUnder "b" given = [.bool true] := by
  intro inbox swept ended given
  have panicked : swept.result = .error "flush refuses Batch to c of size 1" := by decide
  have hflushed : swept.flushed.map (·.category) = ["d", "c"] := by decide
  have hoverdue : (OpenBatches.closeAll ((turned.arrange
      fourOpen.collector.batches.entries).filter fun e => e.2.deadline < 20)).map (·.category) =
      ["d", "c", "b"] := by decide
  have hopen : fourOpen.collector.batches.get? "a" = some ⟨Arrivals.empty.push .null, 25⟩ := rfl
  obtain ⟨taken, b, missed, hsplit, hcalled, -, -, -, hkept, hlost⟩ :=
    sweep_misses { collectionTimeout := 10 } (Rehearsal.refusingSink ["c"]) 0 () _ turned .kept
      inbox 20 21 _ panicked
  have hmissed : missed.map (·.category) = ["b"] := by
    have hall : (swept.flushed ++ missed).map (·.category) = ["d", "c", "b"] := by
      rw [← hoverdue, show swept.flushed = taken ++ [b] from hcalled, List.append_assoc]
      exact congrArg _ hsplit.symm
    rw [List.map_append, hflushed] at hall
    exact List.append_cancel_left (hall : ["d", "c"] ++ _ = ["d", "c"] ++ ["b"])
  refine ⟨panicked, hflushed, ?_, ?_⟩
  · exact (hkept "a" _ hopen (by rw [hmissed]; decide)).1
  · have hmem : "b" ∈ missed.map (·.category) := by
      rw [hmissed]
      exact List.mem_singleton_self _
    obtain ⟨lost, hlast, hcategory⟩ := List.mem_map.1 hmem
    obtain ⟨-, -, -, -, -, hitems⟩ := hlost lost hlast
    rw [hcategory] at hitems
    exact hitems

/-- Two batches of one record each, both overdue at 20. -/
def twoOpen : History Unit :=
  (start { collectionTimeout := 10 } 0 ()).runIn (Rehearsal.refusingSink ["a", "b"])
    [(.kept, .add ⟨"a", .null⟩ 0), (.kept, .add ⟨"b", .null⟩ 0)]

/-- With a sink that refuses both, there is no order in which the sweep does not panic, and none in
which both batches are in a call. -/
theorem sweep_misses_behindPanic :
    twoOpen.collector.batches.keys = ["a", "b"] ∧
      ¬∃ order last : OpenBatches.Order,
        let sink := Rehearsal.refusingSink ["a", "b"]
        let swept := twoOpen.collector.sweepIn order sink 20 twoOpen.sink
        let ended := (swept.after.shutdownInboxIn last sink { capacity := 1 } 21 swept.sink).1
        let given := swept.flushed ++ ended.flushed
        swept.result = .ok () ∨
          ∀ key o, twoOpen.collector.batches.get? key = some o → ∃ called ∈ given,
            called.category = key ∧ o.items.toList <+: called.items := by
  refine ⟨by decide, ?_⟩
  rintro ⟨order, last, hcalled⟩
  let sink := Rehearsal.refusingSink ["a", "b"]
  let swept := twoOpen.collector.sweepIn order sink 20 twoOpen.sink
  let a : String × OpenBatch := ("a", ⟨Arrivals.empty.push .null, 10⟩)
  let b : String × OpenBatch := ("b", ⟨Arrivals.empty.push .null, 10⟩)
  have hperm : (order.arrange twoOpen.collector.batches.entries).Perm [a, b] := order.perm _
  -- whichever comes up first is in a call, and nothing is open behind it
  have hswept : ∃ key message, swept.flushed.map (·.category) = [key] ∧
      swept.result = .error message ∧ swept.after.batches = .empty := by
    simp only [swept, Collector.sweepIn_eq, Collector.inOrder, OpenBatches.inOrder]
    rcases List.perm_pair.1 hperm with hab | hba
    · rw [hab]
      exact ⟨"a", _, by decide, rfl, rfl⟩
    · rw [hba]
      exact ⟨"b", _, by decide, rfl, rfl⟩
  obtain ⟨key, message, hflushed, hresult, hempty⟩ := hswept
  rcases hcalled with hok | hcalled
  · rw [hresult] at hok
    cases hok
  · have hended : (swept.after.shutdownInboxIn last sink { capacity := 1 } 21
        swept.sink).1.flushed = [] := by
      rw [Collector.shutdownInboxIn_eq]
      exact Collector.flushed_shutdownIn_of_empty hempty ..
    have hone : ∀ k o, twoOpen.collector.batches.get? k = some o → k = key := by
      intro k o hopen
      obtain ⟨called, hmem, hcategory, -⟩ := hcalled k o hopen
      rw [hended, List.append_nil] at hmem
      have hkey : k ∈ swept.flushed.map (·.category) := hcategory ▸ List.mem_map_of_mem hmem
      rw [hflushed] at hkey
      exact List.mem_singleton.1 hkey
    have hsame : "a" = "b" := (hone "a" a.2 rfl).trans (hone "b" b.2 rfl).symm
    exact absurd hsame (by decide)

end History

end EventBatching
