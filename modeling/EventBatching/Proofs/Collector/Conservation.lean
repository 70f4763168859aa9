import EventBatching.Proofs.Collector.Draining

/-!
# Nothing is lost between arrival and hand-over

A record leaves the open batches on one of three ways: its batch is full, its batch is overdue, or
the collector shuts down. Whatever operations a collector performs, at whatever times and in
whatever order, every payload of a key is at each moment either handed over or still open, exactly
once and in the order of arrival.

* `Operation` is what a collector may be told to do, and `History` what came of a list of that.
* `History.Conserves` is the law, for all keys at once; `History.Conserves.perform` says that every
  operation keeps it.
* `History.run_conserves` is the law for every list of operations.
-/

namespace EventBatching

/-! ## Operations and what comes of them -/

/-- What a collector may be told to do. -/
inductive Operation where
  /-- To fold in a record. -/
  | add (r : Record) (now : Nat)
  /-- To sweep if it has to. -/
  | tick (flushed : Bool) (now : Nat)
  /-- To sweep. -/
  | sweep (now : Nat)
  /-- To empty an inbox and hand over everything. -/
  | shutdown (inbox : Inbox) (now : Nat)

/-- The records that an operation brings, in the order of their arrival. -/
def Operation.records : Operation → List Record
  | .add r _ => [r]
  | .tick _ _ => []
  | .sweep _ => []
  | .shutdown inbox _ => inbox.queue.toList

/-- What came of operations. -/
structure History (σ : Type) where
  /-- The collector. -/
  collector : Collector
  /-- The state of the sink. -/
  sink : σ
  /-- The batches handed to the sink, in order. -/
  flushed : List Batch
  /-- The records that shutdowns left in the inboxes they were given. -/
  left : List Record

namespace History

variable {σ : Type}

/-- A collector that has done nothing yet. -/
def start (settings : Settings) (now : Nat) (s : σ) : History σ :=
  ⟨.start settings now, s, [], []⟩

/-- The history with one more effect. -/
def extend {α : Type} (h : History σ) (effect : Effect σ Collector α) : History σ :=
  ⟨effect.after, effect.sink, h.flushed ++ effect.flushed, h.left⟩

/-- Performs an operation. -/
def perform (sink : Sink σ) (h : History σ) : Operation → History σ
  | .add r now => h.extend (h.collector.add sink r now h.sink)
  | .tick flushed now => h.extend (h.collector.tick sink flushed now h.sink)
  | .sweep now => h.extend (h.collector.sweep sink now h.sink)
  | .shutdown inbox now =>
    let (ended, inbox) := h.collector.shutdownInbox sink inbox now h.sink
    ⟨ended.after, ended.sink, h.flushed ++ ended.flushed, h.left ++ inbox.queue.toList⟩

/-- Performs operations one after another. -/
def run (sink : Sink σ) (ops : List Operation) (h : History σ) : History σ :=
  ops.foldl (perform sink) h

theorem perform_shutdown (sink : Sink σ) (h : History σ) (inbox : Inbox) (now : Nat) :
    h.perform sink (.shutdown inbox now) =
      let ended := h.collector.shutdown sink inbox.queue.toList now h.sink
      ⟨ended.after, ended.sink, h.flushed ++ ended.flushed, h.left⟩ := by
  simp only [perform, Collector.shutdownInbox_eq, Arrivals.toList_empty, List.append_nil]

/-! ## The law -/

/-- What was handed over of a key, followed by what is still open, is what came for it. The sink got
the batches of the history, and no shutdown left a record behind. -/
structure Conserves (sink : Sink σ) (s : σ) (came : List Record) (h : History σ) : Prop where
  /-- No key has two open batches. -/
  distinct : h.collector.batches.Distinct
  /-- The payloads of a key are handed over or still open. -/
  items : ∀ key, Batch.itemsUnder key h.flushed ++ h.collector.batches.itemsOf key =
    Record.payloadsUnder key came
  /-- The sink was given what was handed over. -/
  fed : h.sink = sink.feed h.flushed s
  /-- Shutdowns emptied the inboxes they were given. -/
  left_eq : h.left = []

theorem conserves_start (sink : Sink σ) (settings : Settings) (now : Nat) (s : σ) :
    Conserves sink s [] (start settings now s) :=
  ⟨OpenBatches.distinct_empty, fun _ => rfl, rfl, rfl⟩

section Steps

variable {sink : Sink σ} {s : σ} {came : List Record} {h : History σ}

/-- A step keeps the law if it keeps it for what was open before and what came with the step. -/
theorem Conserves.step (law : Conserves sink s came h) {after : Collector} {t : σ}
    {flushed : List Batch} {records : List Record} (distinct : after.batches.Distinct)
    (items : ∀ key, Batch.itemsUnder key flushed ++ after.batches.itemsOf key =
      h.collector.batches.itemsOf key ++ Record.payloadsUnder key records)
    (fed : t = sink.feed flushed h.sink) :
    Conserves sink s (came ++ records) ⟨after, t, h.flushed ++ flushed, h.left⟩ where
  distinct := distinct
  items key := by
    rw [Record.payloadsUnder_append]
    exact Batch.itemsUnder_trans (law.items key) (items key)
  fed := by
    rw [fed, law.fed, Sink.feed_append]
  left_eq := law.left_eq

/-- Every operation keeps the law. -/
theorem Conserves.perform (law : Conserves sink s came h) (returns : sink.Returns)
    (op : Operation) : Conserves sink s (came ++ op.records) (h.perform sink op) := by
  cases op with
  | add r now =>
    refine law.step ?_ (h.collector.add_items sink r now h.sink) ?_
    · rw [Collector.add_after]
      exact Collector.filled_distinct law.distinct r now
    · rw [Collector.add_of_returns returns]
  | tick flushed now =>
    refine law.step (Collector.tick_distinct law.distinct ..) ?_
      (Collector.tick_of_returns returns ..).1
    intro key
    rw [Collector.tick_items returns law.distinct, Operation.records, Record.payloadsUnder_nil,
      List.append_nil]
  | sweep now =>
    refine law.step (Collector.overdue_distinct law.distinct now) ?_ ?_
    · intro key
      rw [Collector.sweep_items returns law.distinct, Operation.records, Record.payloadsUnder_nil,
        List.append_nil]
    · rw [Collector.sweep_of_returns returns]
  | shutdown inbox now =>
    rw [perform_shutdown, Operation.records]
    refine law.step OpenBatches.distinct_empty ?_ (Collector.shutdown_sink ..)
    intro key
    rw [Collector.shutdown_items law.distinct, Collector.shutdown_batches,
      OpenBatches.itemsOf_empty, List.append_nil]

theorem Conserves.run (law : Conserves sink s came h) (returns : sink.Returns)
    (ops : List Operation) :
    Conserves sink s (came ++ ops.flatMap (·.records)) (h.run sink ops) := by
  induction ops generalizing came h with
  | nil =>
    rw [List.flatMap_nil, List.append_nil]
    exact law
  | cons op rest ih =>
    rw [List.flatMap_cons, ← List.append_assoc]
    exact ih (law.perform returns op)

end Steps

/-- A shutdown leaves no open batch. -/
theorem perform_shutdown_batches (sink : Sink σ) (h : History σ) (inbox : Inbox) (now : Nat) :
    (h.perform sink (.shutdown inbox now)).collector.batches = .empty := by
  rw [perform_shutdown]
  exact Collector.shutdown_batches ..

/-- **Nothing is lost, nothing is duplicated, and each key keeps its order.** Whatever operations a
collector performs, what it handed over of a key, followed by what is still open, is what came for
the key; after a shutdown nothing is open and nothing is queued, so that everything was handed
over. -/
theorem run_conserves {sink : Sink σ} (returns : sink.Returns) (settings : Settings) (begun : Nat)
    (s : σ) (ops : List Operation) (key : String) :
    let h := (start settings begun s).run sink ops
    let came := ops.flatMap (·.records)
    Batch.itemsUnder key h.flushed ++ h.collector.batches.itemsOf key =
        Record.payloadsUnder key came ∧
      h.sink = sink.feed h.flushed s ∧
      ∀ inbox now, ops.getLast? = some (.shutdown inbox now) →
        h.collector.batches = .empty ∧ h.left = [] ∧
          Batch.itemsUnder key h.flushed = Record.payloadsUnder key came := by
  intro h came
  have law : Conserves sink s came h := (conserves_start sink settings begun s).run returns ops
  refine ⟨law.items key, law.fed, fun inbox now hlast => ?_⟩
  have hempty : h.collector.batches = .empty := by
    obtain ⟨before, rfl⟩ := List.getLast?_eq_some_iff.1 hlast
    show (((start settings begun s).run sink (before ++ [_])).collector).batches = _
    rw [run, List.foldl_append]
    exact perform_shutdown_batches ..
  refine ⟨hempty, law.left_eq, ?_⟩
  have hitems := law.items key
  rwa [hempty, OpenBatches.itemsOf_empty, List.append_nil] at hitems

/-- Operations in which a batch leaves because it is full, one because it is overdue, and the others
with the shutdown, which finds a record in the inbox. -/
def everyWayOut : List Operation :=
  [.add ⟨"a", .bool true⟩ 0, .add ⟨"b", .null⟩ 1, .add ⟨"a", .bool false⟩ 2, .tick true 2,
    .add ⟨"a", .string "late"⟩ 5, .sweep 14, .add ⟨"c", .null⟩ 15,
    .shutdown { capacity := 1, queue := Arrivals.empty.push ⟨"a", .null⟩ } 15]

theorem run_conserves_everyWayOut :
    Sink.keep.Returns ∧
      ((start { maxBatchSize := 2, collectionTimeout := 10 } 0 []).run Sink.keep
        everyWayOut).sink.map (·.label) =
        ["Batch to a of size 2", "Batch to b of size 1", "Batch to a of size 2",
          "Batch to c of size 1"] ∧
      Batch.itemsUnder "a" ((start { maxBatchSize := 2, collectionTimeout := 10 } 0 []).run
        Sink.keep everyWayOut).flushed =
        [.bool true, .bool false, .string "late", .null] := by
  refine ⟨Sink.keep_returns, ?_, ?_⟩
  · simp only [everyWayOut, run, List.foldl_cons, List.foldl_nil, perform_shutdown]
    decide
  · obtain ⟨-, -, hend⟩ := run_conserves Sink.keep_returns
      { maxBatchSize := 2, collectionTimeout := 10 } 0 [] everyWayOut "a"
    exact (hend _ _ rfl).2.2

end History

end EventBatching
