import EventBatching.Collector.Run
import EventBatching.Proofs.OpenBatches

/-!
# What a collector hands over

Which batches an addition closes, and what stays open, does not hang on the sink. A sink decides
only whether the operation goes on: a sweep, which has several batches to hand over, loses those
that come after a panic. Where a sink never panics, it gets exactly the batches that were closed.

* `Sink.Returns` says that a sink never panics, and `Sink.feed` is its state after some batches.
  `Sink.keep` is such a sink.
* `Collector.filled` and `Collector.overdue` are what an addition and a sweep close.
* `Collector.add_items`, `Collector.sweep_items` and `Collector.shutdown_items` say for each
  operation that the payloads of a key which it hands over, followed by those still open, are those
  that were open followed by those that came.
-/

namespace EventBatching

/-! ## Sinks -/

namespace Sink

variable {σ : Type}

/-- A sink never panics. -/
def Returns (sink : Sink σ) : Prop := ∀ b s, (sink b s).1 = .returned

/-- The state of a sink after batches. -/
def feed (sink : Sink σ) (bs : List Batch) (s : σ) : σ := bs.foldl (fun s b => (sink b s).2) s

@[simp] theorem feed_nil (sink : Sink σ) (s : σ) : sink.feed [] s = s := rfl

@[simp] theorem feed_cons (sink : Sink σ) (b : Batch) (bs : List Batch) (s : σ) :
    sink.feed (b :: bs) s = sink.feed bs (sink b s).2 := rfl

@[simp] theorem feed_append (sink : Sink σ) (bs bs' : List Batch) (s : σ) :
    sink.feed (bs ++ bs') s = sink.feed bs' (sink.feed bs s) := List.foldl_append

/-- A sink has got what it was given, the batch that it panicked on included. -/
theorem takeAll_sink (sink : Sink σ) (bs : List Batch) (s : σ) :
    (sink.takeAll bs s).sink = sink.feed (sink.takeAll bs s).flushed s := by
  induction bs generalizing s with
  | nil => rfl
  | cons b rest ih =>
    rcases hb : sink b s with ⟨outcome, t⟩
    cases outcome with
    | panicked message => simp [takeAll, hb]
    | returned => simp [takeAll, hb, ih]

theorem takeAll_of_returns {sink : Sink σ} (returns : sink.Returns) (bs : List Batch) (s : σ) :
    sink.takeAll bs s = ⟨(), sink.feed bs s, bs, .ok ()⟩ := by
  induction bs generalizing s with
  | nil => rfl
  | cons b rest ih =>
    have hb : sink b s = (.returned, (sink b s).2) := Prod.ext (returns b s) rfl
    rw [takeAll, hb]
    simp only [ih, feed_cons]

/-- A sink that keeps what it is given. -/
def keep : Sink (List Batch) := fun b kept => (.returned, kept ++ [b])

theorem keep_returns : keep.Returns := fun _ _ => rfl

/-- A sink that is given one batch is given it, panic or not. -/
theorem takeAll_flushed_toList (sink : Sink σ) (b : Option Batch) (s : σ) :
    (sink.takeAll b.toList s).flushed = b.toList := by
  cases b with
  | none => rfl
  | some b =>
    rw [Option.toList_some, takeAll]
    split
    · rfl
    · rfl

end Sink

/-! ## The payloads of a key in records -/

/-- The payloads that records carry for a key, in their order. -/
def Record.payloadsUnder (key : String) (rs : List Record) : List Payload :=
  (rs.filter fun r => r.key = key).map (·.payload)

@[simp] theorem Record.payloadsUnder_nil (key : String) : Record.payloadsUnder key [] = [] := rfl

@[simp] theorem Record.payloadsUnder_append (key : String) (rs rs' : List Record) :
    Record.payloadsUnder key (rs ++ rs') =
      Record.payloadsUnder key rs ++ Record.payloadsUnder key rs' := by
  simp [Record.payloadsUnder]

theorem Record.payloadsUnder_cons (key : String) (r : Record) (rs : List Record) :
    Record.payloadsUnder key (r :: rs) =
      (if r.key = key then [r.payload] else []) ++ Record.payloadsUnder key rs := by
  by_cases h : r.key = key
  · simp [Record.payloadsUnder, h]
  · simp [Record.payloadsUnder, h]

namespace Collector

variable {σ : Type}

/-! ## Adding -/

/-- The open batches with a record folded in. -/
def collected (d : Collector) (r : Record) (now : Nat) : OpenBatches :=
  d.batches.push r.key (now + d.timeout) r.payload

/-- The batch that a record makes full, if it does, and the open batches after it. -/
def filled (d : Collector) (r : Record) (now : Nat) : Option Batch × OpenBatches :=
  if (d.collected r now).sizeOf r.key < d.maxBatchSize then (none, d.collected r now)
  else (d.collected r now).remove r.key

theorem add_after (d : Collector) (sink : Sink σ) (r : Record) (now : Nat) (s : σ) :
    (d.add sink r now s).after = { d with batches := (d.filled r now).2 } := by
  rw [add, filled, collected]
  split
  · rfl
  · rfl

theorem add_flushed (d : Collector) (sink : Sink σ) (r : Record) (now : Nat) (s : σ) :
    (d.add sink r now s).flushed = (d.filled r now).1.toList := by
  rw [add, filled, collected]
  split
  · rfl
  · exact Sink.takeAll_flushed_toList ..

theorem add_sink (d : Collector) (sink : Sink σ) (r : Record) (now : Nat) (s : σ) :
    (d.add sink r now s).sink = sink.feed (d.add sink r now s).flushed s := by
  unfold add
  simp only
  split
  · rfl
  · exact Sink.takeAll_sink ..

/-- The batch that got a record has something to be closed to. -/
theorem remove_collected_isSome (d : Collector) (r : Record) (now : Nat) :
    ((d.collected r now).remove r.key).1.isSome = true := by
  rw [OpenBatches.remove, collected, OpenBatches.get?_push, if_pos rfl]
  rfl

theorem add_of_returns {sink : Sink σ} (returns : sink.Returns) (d : Collector) (r : Record)
    (now : Nat) (s : σ) :
    d.add sink r now s =
      { after := { d with batches := (d.filled r now).2 }
        sink := sink.feed (d.filled r now).1.toList s
        flushed := (d.filled r now).1.toList
        result := .ok (d.filled r now).1.isSome } := by
  have hsome := d.remove_collected_isSome r now
  rw [collected] at hsome
  rw [add, filled, collected]
  split
  · rfl
  · simp only [Sink.takeAll_of_returns returns, hsome]
    rfl

theorem filled_distinct {d : Collector} (h : d.batches.Distinct) (r : Record) (now : Nat) :
    (d.filled r now).2.Distinct := by
  have hpushed : (d.collected r now).Distinct := h.push ..
  rw [filled]
  split
  · exact hpushed
  · exact hpushed.erase _

/-- A record comes after everything that waits under its key. -/
theorem filled_items (d : Collector) (r : Record) (now : Nat) (key : String) :
    Batch.itemsUnder key (d.filled r now).1.toList ++ (d.filled r now).2.itemsOf key =
      d.batches.itemsOf key ++ Record.payloadsUnder key [r] := by
  have hpushed : (d.collected r now).itemsOf key =
      d.batches.itemsOf key ++ Record.payloadsUnder key [r] := by
    rw [collected, OpenBatches.itemsOf_push, Record.payloadsUnder_cons, Record.payloadsUnder_nil,
      List.append_nil]
  rw [← hpushed, filled]
  split
  · rfl
  · exact OpenBatches.itemsOf_remove ..

theorem add_items (d : Collector) (sink : Sink σ) (r : Record) (now : Nat) (s : σ) (key : String) :
    Batch.itemsUnder key (d.add sink r now s).flushed ++
        (d.add sink r now s).after.batches.itemsOf key =
      d.batches.itemsOf key ++ Record.payloadsUnder key [r] := by
  rw [add_after, add_flushed]
  exact d.filled_items r now key

/-! ## Sweeping -/

/-- The batches whose deadline has passed, closed, and the open batches without them. -/
def overdue (d : Collector) (now : Nat) : List Batch × OpenBatches :=
  d.batches.extractAll fun b => b.deadline < now

theorem overdue_distinct {d : Collector} (h : d.batches.Distinct) (now : Nat) :
    (d.overdue now).2.Distinct := h.extractAll fun b => b.deadline < now

theorem sweep_after (d : Collector) (sink : Sink σ) (now : Nat) (s : σ) :
    (d.sweep sink now s).after =
      { d with
        batches := (d.overdue now).2
        nextWake := earliest (now + d.timeout) (d.overdue now).2 } := rfl

theorem sweep_of_returns {sink : Sink σ} (returns : sink.Returns) (d : Collector) (now : Nat)
    (s : σ) :
    d.sweep sink now s =
      { after := { d with
          batches := (d.overdue now).2
          nextWake := earliest (now + d.timeout) (d.overdue now).2 }
        sink := sink.feed (d.overdue now).1 s
        flushed := (d.overdue now).1
        result := .ok () } := by
  rw [sweep]
  simp only [Sink.takeAll_of_returns returns]
  rfl

theorem sweep_items {sink : Sink σ} (returns : sink.Returns) {d : Collector}
    (h : d.batches.Distinct) (now : Nat) (s : σ) (key : String) :
    Batch.itemsUnder key (d.sweep sink now s).flushed ++
        (d.sweep sink now s).after.batches.itemsOf key =
      d.batches.itemsOf key := by
  rw [sweep_of_returns returns]
  exact OpenBatches.itemsOf_extractAll h (fun b => b.deadline < now) key

/-! ## Rounds -/

theorem tick_of_returns {sink : Sink σ} (returns : sink.Returns) (d : Collector) (flushed : Bool)
    (now : Nat) (s : σ) :
    (d.tick sink flushed now s).sink = sink.feed (d.tick sink flushed now s).flushed s ∧
      (d.tick sink flushed now s).result = .ok () := by
  rw [tick]
  split
  · rw [sweep_of_returns returns]
    exact ⟨rfl, rfl⟩
  · exact ⟨rfl, rfl⟩

theorem receive_of_returns {sink : Sink σ} (returns : sink.Returns) (d : Collector)
    (record : Option Record) (now : Nat) (s : σ) :
    (d.receive sink record now s).sink = sink.feed (d.receive sink record now s).flushed s ∧
      ∃ full, (d.receive sink record now s).result = .ok full := by
  cases record with
  | none =>
    obtain ⟨hsink, hresult⟩ := tick_of_returns returns d false now s
    simp only [receive]
    rw [hresult]
    exact ⟨hsink, false, rfl⟩
  | some r =>
    simp only [receive, add_of_returns returns]
    obtain ⟨hsink, hresult⟩ := tick_of_returns returns { d with batches := (d.filled r now).2 }
      (d.filled r now).1.isSome now (sink.feed (d.filled r now).1.toList s)
    rw [hresult, Sink.feed_append]
    exact ⟨hsink, _, rfl⟩

theorem tick_sink (d : Collector) (sink : Sink σ) (flushed : Bool) (now : Nat) (s : σ) :
    (d.tick sink flushed now s).sink = sink.feed (d.tick sink flushed now s).flushed s := by
  unfold tick
  split
  · exact Sink.takeAll_sink ..
  · rfl

theorem receive_sink (d : Collector) (sink : Sink σ) (record : Option Record) (now : Nat) (s : σ) :
    (d.receive sink record now s).sink = sink.feed (d.receive sink record now s).flushed s := by
  cases record with
  | none => exact tick_sink d sink false now s
  | some r =>
    have hadded := add_sink d sink r now s
    rw [receive]
    split
    · exact hadded
    · rw [Sink.feed_append, ← hadded]
      exact tick_sink ..

theorem tick_distinct {d : Collector} (h : d.batches.Distinct) (sink : Sink σ) (flushed : Bool)
    (now : Nat) (s : σ) : (d.tick sink flushed now s).after.batches.Distinct := by
  rw [tick]
  split
  · exact overdue_distinct h now
  · exact h

theorem tick_items {sink : Sink σ} (returns : sink.Returns) {d : Collector}
    (h : d.batches.Distinct) (flushed : Bool) (now : Nat) (s : σ) (key : String) :
    Batch.itemsUnder key (d.tick sink flushed now s).flushed ++
        (d.tick sink flushed now s).after.batches.itemsOf key =
      d.batches.itemsOf key := by
  rw [tick]
  split
  · exact sweep_items returns h now s key
  · rfl

theorem receive_distinct {d : Collector} (h : d.batches.Distinct) (sink : Sink σ)
    (record : Option Record) (now : Nat) (s : σ) :
    (d.receive sink record now s).after.batches.Distinct := by
  cases record with
  | none => exact tick_distinct h sink false now s
  | some r =>
    have hadded : (d.add sink r now s).after.batches.Distinct := by
      rw [add_after]
      exact filled_distinct h r now
    rw [receive]
    split
    · exact hadded
    · exact tick_distinct hadded ..

theorem receive_items {sink : Sink σ} (returns : sink.Returns) {d : Collector}
    (h : d.batches.Distinct) (record : Option Record) (now : Nat) (s : σ) (key : String) :
    Batch.itemsUnder key (d.receive sink record now s).flushed ++
        (d.receive sink record now s).after.batches.itemsOf key =
      d.batches.itemsOf key ++ Record.payloadsUnder key record.toList := by
  cases record with
  | none =>
    rw [Option.toList_none, Record.payloadsUnder_nil, List.append_nil]
    exact tick_items returns h false now s key
  | some r =>
    have hticked := tick_items returns (d := { d with batches := (d.filled r now).2 })
      (filled_distinct h r now) (d.filled r now).1.isSome now
      (sink.feed (d.filled r now).1.toList s) key
    simp only [receive, add_of_returns returns]
    rw [Batch.itemsUnder_append, List.append_assoc, hticked]
    exact d.filled_items r now key

/-! ## Shutting down -/

theorem drainQueue_distinct {d : Collector} (h : d.batches.Distinct) (sink : Sink σ) (now : Nat)
    (queue : List Record) (s : σ) : (d.drainQueue sink now queue s).after.batches.Distinct := by
  induction queue generalizing d s with
  | nil => exact h
  | cons r rest ih =>
    refine ih ?_ _
    rw [add_after]
    exact filled_distinct h r now

theorem drainQueue_items (d : Collector) (sink : Sink σ) (now : Nat) (queue : List Record) (s : σ)
    (key : String) :
    Batch.itemsUnder key (d.drainQueue sink now queue s).flushed ++
        (d.drainQueue sink now queue s).after.batches.itemsOf key =
      d.batches.itemsOf key ++ Record.payloadsUnder key queue := by
  induction queue generalizing d s with
  | nil => simp [drainQueue]
  | cons r rest ih =>
    have hr := d.add_items sink r now s key
    have hrest := ih (d.add sink r now s).after (d.add sink r now s).sink
    simp only [drainQueue]
    rw [Batch.itemsUnder_trans hr hrest, List.append_assoc, ← Record.payloadsUnder_append,
      List.singleton_append]

/-- A shutdown hands over everything that waits and everything that is queued, panic or not. -/
theorem shutdown_items {d : Collector} (h : d.batches.Distinct) (sink : Sink σ)
    (queue : List Record) (now : Nat) (s : σ) (key : String) :
    Batch.itemsUnder key (d.shutdown sink queue now s).flushed =
      d.batches.itemsOf key ++ Record.payloadsUnder key queue := by
  have hdrained := drainQueue_distinct h sink now queue s
  rw [← drainQueue_items d sink now queue s key, ← OpenBatches.itemsOf_drain hdrained,
    ← Batch.itemsUnder_append]
  rfl

@[simp] theorem shutdown_batches (d : Collector) (sink : Sink σ) (queue : List Record) (now : Nat)
    (s : σ) : (d.shutdown sink queue now s).after.batches = .empty := rfl

theorem drainQueue_sink (d : Collector) (sink : Sink σ) (now : Nat) (queue : List Record) (s : σ) :
    (d.drainQueue sink now queue s).sink =
      sink.feed (d.drainQueue sink now queue s).flushed s := by
  induction queue generalizing d s with
  | nil => rfl
  | cons r rest ih =>
    simp only [drainQueue]
    rw [ih, Sink.feed_append, add_sink]

/-- The next batch follows, panic or not. -/
theorem handOverAll_cons (sink : Sink σ) (b : Batch) (rest : List Batch) (s : σ) :
    (handOverAll sink (b :: rest) s).1 = (handOverAll sink rest (sink b s).2).1 := by
  rcases hb : sink b s with ⟨outcome, t⟩
  rw [handOverAll, hb]
  cases outcome with
  | returned => rfl
  | panicked message => rfl

theorem handOverAll_sink (sink : Sink σ) (bs : List Batch) (s : σ) :
    (handOverAll sink bs s).1 = sink.feed bs s := by
  induction bs generalizing s with
  | nil => rfl
  | cons b rest ih => rw [handOverAll_cons, ih, Sink.feed_cons]

/-- A sink has got what the shutdown handed over, panic or not. -/
theorem shutdown_sink (d : Collector) (sink : Sink σ) (queue : List Record) (now : Nat) (s : σ) :
    (d.shutdown sink queue now s).sink = sink.feed (d.shutdown sink queue now s).flushed s := by
  simp only [shutdown]
  rw [handOverAll_sink, Sink.feed_append, drainQueue_sink]

end Collector

end EventBatching
