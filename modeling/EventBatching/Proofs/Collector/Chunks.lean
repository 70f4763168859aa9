import EventBatching.Proofs.Collector.Compartments
import EventBatching.Rehearsal
import Mathlib.Data.List.Defs

/-!
# Batches of full size

While no batch can be overdue, nothing but the number of records decides when a batch leaves. Then
it does not matter which records the loop takes and which the shutdown, nor what the sink does with
the batches: a panic ends the loop, but the batch that it happened on was full, and the next record
of its key opens another one. So the records of each key leave in pieces of the greatest size, and
what is left in the end is the last piece.

* `toChunks_append_of_full` and `toChunks_of_short` say how a list is cut into such pieces.
* `Compartment.shutdown_chunks` says that this is how a shutdown cuts the records of a key.
* `Collector.loop_compartment` says that a loop does to a key what draining the records does that it
  took, and `Collector.run_compartment` that loop and shutdown together do what a shutdown over all
  records would do.
* `Collector.run_chunks` puts this together.
-/

namespace EventBatching

/-! ## Cutting a list into pieces -/

section Lists

variable {α : Type} {n : Nat}

/-- The pieces that are made of what follows a piece that is not complete, behind those that are. -/
theorem toChunks_go (positive : 0 < n) (xs : List α) (piece : Array α) (pieces : Array (List α))
    (fits : piece.size ≤ n) :
    List.toChunks.go n xs piece pieces =
      pieces.toList ++ (piece.toList ++ xs).take n :: ((piece.toList ++ xs).drop n).toChunks n := by
  induction xs generalizing piece pieces with
  | nil =>
    have hlength : piece.toList.length ≤ n := by simpa using fits
    simp [List.toChunks.go, List.toChunks, List.take_of_length_le hlength,
      List.drop_eq_nil_of_le hlength]
  | cons x rest ih =>
    by_cases hfull : piece.size = n
    · -- the piece is full, and `x` begins the next one
      have hpiece : piece.toList.length = n := by simpa using hfull
      have hrest := ih #[x] #[] (Nat.succ_le_of_lt positive)
      have hnext : (x :: rest).toChunks n = List.toChunks.go n rest #[x] #[] := by
        obtain ⟨k, rfl⟩ := Nat.exists_eq_succ_of_ne_zero (Nat.ne_of_gt positive)
        rfl
      rw [List.take_left' hpiece, List.drop_left' hpiece, hnext, hrest]
      have hfirst : (Array.mkEmpty n).push x = #[x] := rfl
      simp only [List.toChunks.go, hfull, beq_self_eq_true, if_true, hfirst]
      rw [ih #[x] _ (Nat.succ_le_of_lt positive)]
      simp
    · have hroom : (piece.push x).size ≤ n := by
        rw [Array.size_push]
        omega
      simp only [List.toChunks.go, beq_iff_eq, hfull, if_false]
      rw [ih _ _ hroom]
      simp

theorem toChunks_of_ne_nil (positive : 0 < n) {xs : List α} (some : xs ≠ []) :
    xs.toChunks n = xs.take n :: (xs.drop n).toChunks n := by
  cases xs with
  | nil => exact absurd rfl some
  | cons x rest =>
    obtain ⟨k, rfl⟩ := Nat.exists_eq_succ_of_ne_zero (Nat.ne_of_gt positive)
    have hgo := toChunks_go positive rest #[x] #[] (by simp)
    simpa [List.toChunks] using hgo

/-- A full piece is the first one. -/
theorem toChunks_append_of_full (positive : 0 < n) {xs : List α} (full : xs.length = n)
    (rest : List α) : (xs ++ rest).toChunks n = xs :: rest.toChunks n := by
  have hsome : xs ++ rest ≠ [] := by
    intro h
    rw [(List.append_eq_nil_iff.1 h).1] at full
    simp at full
    omega
  rw [toChunks_of_ne_nil positive hsome, List.take_left' full, List.drop_left' full]

/-- What does not fill a second piece is one. -/
theorem toChunks_of_short (positive : 0 < n) {xs : List α} (some : xs ≠ []) (short : xs.length ≤ n) :
    xs.toChunks n = [xs] := by
  rw [toChunks_of_ne_nil positive some, List.take_of_length_le short,
    List.drop_eq_nil_of_le short]
  rfl

end Lists

/-! ## Compartments -/

namespace Compartment

/-- The payloads that wait. -/
def waiting (c : Compartment) : List Payload := (c.batch.map (·.items.toList)).getD []

/-- A batch that is open has a record and is not full. -/
def Filling (c : Compartment) : Prop :=
  ∀ b, c.batch = some b → b.items.toList ≠ [] ∧ b.size < c.maxBatchSize

theorem drain_append (c : Compartment) (now : Nat) (queue queue' : List Record) :
    c.drain now (queue ++ queue') =
      ((c.drain now queue).1 ++ ((c.drain now queue).2.drain now queue').1,
        ((c.drain now queue).2.drain now queue').2) := by
  induction queue generalizing c with
  | nil => rfl
  | cons r rest ih => simp only [List.cons_append, drain, ih, List.append_assoc]

theorem shutdown_append (c : Compartment) (now : Nat) (queue queue' : List Record) :
    c.shutdown (queue ++ queue') now =
      (c.drain now queue).1 ++ (c.drain now queue).2.shutdown queue' now := by
  simp only [shutdown, drain_append, List.append_assoc]

/-- A payload joins those that wait. -/
theorem items_collected (c : Compartment) (p : Payload) (deadline : Nat) :
    ((c.batch.getD ⟨.empty, deadline⟩).push p).items.toList = c.waiting ++ [p] := by
  unfold waiting
  cases c.batch with
  | none => simp [OpenBatch.push]
  | some b => simp [OpenBatch.push]

theorem length_waiting_lt {c : Compartment} (filling : c.Filling) (positive : 0 < c.maxBatchSize) :
    c.waiting.length < c.maxBatchSize := by
  unfold waiting
  cases hbatch : c.batch with
  | none => simpa using positive
  | some b => simpa [OpenBatch.size] using (filling b hbatch).2

/-- To be offered what came, if anything did, is to drain it. -/
theorem SameItems.offerAny {c c' : Compartment} (h : c.SameItems c') (record : Option Record)
    (now now' : Nat) :
    (c.offerAny record now).1 = (c'.drain now' record.toList).1 ∧
      (c.offerAny record now).2.SameItems (c'.drain now' record.toList).2 := by
  cases record with
  | none => exact ⟨rfl, h⟩
  | some r =>
    simp only [Option.toList_some, drain, List.append_nil]
    exact h.offer r now now'

theorem shutdown_cons (c : Compartment) (r : Record) (rest : List Record) (now : Nat) :
    c.shutdown (r :: rest) now =
      (c.offer r now).1 ++ (c.offer r now).2.shutdown rest now := by
  simp only [shutdown, drain, List.append_assoc]

/-! ### One payload -/

@[simp] theorem add_key (c : Compartment) (p : Payload) (now : Nat) :
    (c.add p now).2.key = c.key := by
  rw [add]
  split
  · rfl
  · rfl

@[simp] theorem add_maxBatchSize (c : Compartment) (p : Payload) (now : Nat) :
    (c.add p now).2.maxBatchSize = c.maxBatchSize := by
  rw [add]
  split
  · rfl
  · rfl

theorem size_collected (c : Compartment) (p : Payload) (deadline : Nat) :
    ((c.batch.getD ⟨.empty, deadline⟩).push p).size = c.waiting.length + 1 := by
  rw [OpenBatch.size, ← Arrivals.length_toList, items_collected, List.length_append,
    List.length_singleton]

/-- While there is room, a payload waits with the others. -/
theorem add_of_room {c : Compartment} (room : c.waiting.length + 1 < c.maxBatchSize) (p : Payload)
    (now : Nat) : (c.add p now).1 = [] ∧ (c.add p now).2.waiting = c.waiting ++ [p] := by
  rw [← c.size_collected p (now + c.timeout)] at room
  simp only [add, if_pos room]
  exact ⟨trivial, c.items_collected p _⟩

/-- The last payload for which there is room takes those that wait with it. -/
theorem add_of_full {c : Compartment} (full : c.maxBatchSize ≤ c.waiting.length + 1) (p : Payload)
    (now : Nat) :
    (c.add p now).1.map (·.items) = [c.waiting ++ [p]] ∧ (c.add p now).2.waiting = [] := by
  rw [← c.size_collected p (now + c.timeout), ← Nat.not_lt] at full
  simp only [add, if_neg full]
  exact ⟨congrArg ([·]) (c.items_collected p _), rfl⟩

/-- A batch that a payload leaves open is not full, whatever it was before. -/
theorem filling_add (c : Compartment) (p : Payload) (now : Nat) : (c.add p now).2.Filling := by
  rw [add]
  split
  · next hroom =>
    rintro b ⟨⟩
    rw [items_collected]
    exact ⟨by simp, hroom⟩
  · intro b hb
    exact absurd hb (by simp)

/-- To fold in a payload is to cut off the first piece, if that is what it completes. -/
theorem add_chunks {c : Compartment} (filling : c.Filling) (positive : 0 < c.maxBatchSize)
    (p : Payload) (now : Nat) (later : List Payload) :
    (c.waiting ++ p :: later).toChunks c.maxBatchSize =
      (c.add p now).1.map (·.items) ++ ((c.add p now).2.waiting ++ later).toChunks c.maxBatchSize := by
  by_cases hroom : c.waiting.length + 1 < c.maxBatchSize
  · obtain ⟨hnone, hwaiting⟩ := add_of_room hroom p now
    rw [hnone, hwaiting, List.append_assoc]
    rfl
  · have hlength := length_waiting_lt filling positive
    have hpiece : (c.waiting ++ [p]).length = c.maxBatchSize := by
      rw [List.length_append, List.length_singleton]
      omega
    obtain ⟨hbatch, hwaiting⟩ := add_of_full (Nat.not_lt.1 hroom) p now
    rw [hbatch, hwaiting, List.append_cons, toChunks_append_of_full positive hpiece]
    rfl

/-! ### All payloads -/

/-- A shutdown over nothing hands over what waits, in one batch. -/
theorem shutdown_nil_chunks {c : Compartment} (filling : c.Filling) (positive : 0 < c.maxBatchSize)
    (now : Nat) : (c.shutdown [] now).map (·.items) = c.waiting.toChunks c.maxBatchSize := by
  have hlength := length_waiting_lt filling positive
  unfold waiting at hlength ⊢
  cases hbatch : c.batch with
  | none => simp [shutdown, drain, hbatch, List.toChunks]
  | some b =>
    rw [hbatch] at hlength
    have hsome := (filling b hbatch).1
    simp only [Option.map_some, Option.getD_some] at hlength ⊢
    rw [toChunks_of_short positive hsome (Nat.le_of_lt hlength)]
    simp [shutdown, drain, hbatch, OpenBatch.close]

/-- A shutdown cuts what waits and what is queued into full batches and a last one. -/
theorem shutdown_chunks {c : Compartment} (filling : c.Filling) (positive : 0 < c.maxBatchSize)
    (queue : List Record) (now : Nat) :
    (c.shutdown queue now).map (·.items) =
      (c.waiting ++ Record.payloadsUnder c.key queue).toChunks c.maxBatchSize := by
  induction queue generalizing c with
  | nil => rw [Record.payloadsUnder_nil, List.append_nil, shutdown_nil_chunks filling positive]
  | cons r rest ih =>
    rw [Record.payloadsUnder_cons, shutdown_cons, List.map_append]
    by_cases hkey : r.key = c.key
    · have hrest := ih (c.filling_add r.payload now) (by rwa [add_maxBatchSize])
      rw [add_key, add_maxBatchSize] at hrest
      rw [if_pos hkey, offer_own hkey, List.singleton_append, hrest,
        add_chunks filling positive r.payload now]
    · rw [if_neg hkey, offer_other hkey]
      exact ih filling positive

end Compartment

namespace Watcher

/-- Opening a batch does not make one due earlier than it is due. -/
theorem addAny_dueFrom {w : Watcher} {due now : Nat} (h : w.batches.DueFrom due)
    (early : due ≤ now + w.timeout) (record : Option Record) :
    (w.addAny record now).2.DueFrom due := by
  cases record with
  | none => exact h
  | some r =>
    have hpushed := h.push r.key early r.payload
    unfold addAny add
    simp only
    split
    · exact hpushed
    · exact hpushed.filter _

end Watcher

namespace Collector

variable {σ : Type}

/-! ## Rounds in which nothing is overdue -/

/-- A tick finds nothing to hand over. -/
theorem tick_of_dueFrom {d : Collector} {now : Nat} (h : d.batches.DueFrom now) (sink : Sink σ)
    (flushed : Bool) (s : σ) :
    (d.tick sink flushed now s).flushed = [] ∧
      (d.tick sink flushed now s).after.watcher = d.watcher ∧
      (d.tick sink flushed now s).result = .ok () := by
  unfold tick
  split
  · simp [sweep, OpenBatches.extractAll_of_dueFrom h, Sink.takeAll, watcher]
  · exact ⟨rfl, rfl, rfl⟩

/-- A round does nothing but take the record, and only that can make the sink panic. -/
theorem receive_of_dueFrom {d : Collector} {record : Option Record} {now : Nat}
    (h : (d.watcher.addAny record now).2.DueFrom now) (sink : Sink σ) (s : σ) :
    (d.receive sink record now s).flushed = (d.watcher.addAny record now).1 ∧
      (d.receive sink record now s).after.watcher =
        { d.watcher with batches := (d.watcher.addAny record now).2 } := by
  cases record with
  | none =>
    obtain ⟨hflushed, hafter, -⟩ := tick_of_dueFrom h sink false s
    exact ⟨hflushed, hafter⟩
  | some r =>
    obtain ⟨hflushed, hafter⟩ := watcher_after_add d sink r now s
    unfold receive
    simp only
    split
    · exact ⟨hflushed, hafter⟩
    · next full hresult =>
      have hdue : (d.add sink r now s).after.batches.DueFrom now := by
        have hbatches : (d.add sink r now s).after.batches = (d.watcher.add r now).2 :=
          congrArg Watcher.batches hafter
        rw [hbatches]
        exact h
      obtain ⟨hticked, hafter', -⟩ := tick_of_dueFrom hdue sink full (d.add sink r now s).sink
      simp only [hticked, List.append_nil, hafter', hflushed, hafter]
      exact ⟨rfl, rfl⟩

theorem receive_compartment {d : Collector} {record : Option Record} {now : Nat}
    (h : (d.watcher.addAny record now).2.DueFrom now) (sink : Sink σ) (s : σ) (key : String) :
    (Batch.ofCategory key (d.receive sink record now s).flushed,
        (d.receive sink record now s).after.watcher.compartment key) =
      (d.watcher.compartment key).offerAny record now := by
  obtain ⟨hflushed, hafter⟩ := receive_of_dueFrom h sink s
  rw [← Watcher.addAny_compartment, hflushed, hafter]

/-- After the round no batch is due earlier than one that it could have opened. -/
theorem receive_dueFrom {d : Collector} {due now : Nat} {record : Option Record}
    (h : (d.watcher.addAny record now).2.DueFrom due) (early : now ≤ due) (sink : Sink σ) (s : σ) :
    (d.receive sink record now s).after.batches.DueFrom due ∧
      (d.receive sink record now s).after.timeout = d.timeout := by
  obtain ⟨-, hafter⟩ := receive_of_dueFrom (h.mono early) sink s
  have hbatches : (d.receive sink record now s).after.batches =
      (d.watcher.addAny record now).2 := congrArg Watcher.batches hafter
  rw [hbatches]
  exact ⟨h, congrArg Watcher.timeout hafter⟩

/-! ## Loops -/

theorem records_cons (round : Round) (rest : List Round) :
    (round :: rest).filterMap (·.record) =
      round.record.toList ++ rest.filterMap (·.record) := by
  cases hrecord : round.record with
  | none => simp [hrecord]
  | some r => simp [hrecord]

/-- A loop does to a key what draining the records does that it took. -/
theorem loop_compartment {d : Collector} {due : Nat} (h : d.batches.DueFrom due)
    {rounds : List Round} (early : ∀ round ∈ rounds, due ≤ round.now + d.timeout ∧ round.now ≤ due)
    (sink : Sink σ) (s : σ) (key : String) {c : Compartment}
    (same : (d.watcher.compartment key).SameItems c) (now : Nat) :
    ∃ taken, taken ++ (d.loop sink rounds s).missed.filterMap (·.record) =
        rounds.filterMap (·.record) ∧
      Batch.ofCategory key (d.loop sink rounds s).flushed = (c.drain now taken).1 ∧
      ((d.loop sink rounds s).after.watcher.compartment key).SameItems (c.drain now taken).2 := by
  -- on the rounds; `DueFrom` is what keeps every sweep from finding a batch
  induction rounds generalizing d s c with
  | nil => exact ⟨[], rfl, rfl, same⟩
  | cons round rest ih =>
    obtain ⟨hdue, hnow⟩ := early round (List.mem_cons_self ..)
    have hadded := Watcher.addAny_dueFrom (w := d.watcher) h hdue round.record
    obtain ⟨hfull, hsame⟩ := same.offerAny round.record round.now now
    rw [← receive_compartment (hadded.mono hnow) sink s] at hfull hsame
    rw [records_cons, loop]
    split
    · exact ⟨round.record.toList, rfl, hfull, hsame⟩
    · obtain ⟨hlater, htimeout⟩ := receive_dueFrom hadded hnow sink s
      have hearly : ∀ round' ∈ rest,
          due ≤ round'.now + (d.receive sink round.record round.now s).after.timeout ∧
            round'.now ≤ due := by
        intro round' hround'
        rw [htimeout]
        exact early round' (List.mem_cons_of_mem _ hround')
      obtain ⟨taken, htaken, hrest, hsame'⟩ := ih hlater hearly _ hsame
      refine ⟨round.record.toList ++ taken, ?_, ?_, ?_⟩
      · rw [List.append_assoc, htaken]
      · rw [Batch.ofCategory_append, Compartment.drain_append, hrest]
        exact congrArg (· ++ _) hfull
      · rw [Compartment.drain_append]
        exact hsame'

/-- Loop and shutdown together do to a key what a shutdown over all records would do. -/
theorem run_compartment {d : Collector} {due : Nat} (distinct : d.batches.Distinct)
    (h : d.batches.DueFrom due) {rounds : List Round}
    (early : ∀ round ∈ rounds, due ≤ round.now + d.timeout ∧ round.now ≤ due)
    (sink : Sink σ) (stop : Stop) (queue : List Record) (now : Nat) (s : σ) (key : String) :
    Batch.ofCategory key (d.run sink rounds stop queue now s).flushed =
      (d.watcher.compartment key).shutdown (rounds.filterMap (·.record) ++ queue) now := by
  obtain ⟨taken, htaken, hflushed, hsame⟩ :=
    loop_compartment h early sink s key (c := d.watcher.compartment key) ⟨rfl, rfl, rfl⟩ now
  have hleft := shutdown_compartment (loop_distinct distinct sink rounds s) sink
    ((d.loop sink rounds s).missed.filterMap (·.record) ++ queue) now
    (d.loop sink rounds s).sink key
  rw [hsame.shutdown _ now now] at hleft
  rw [← htaken, List.append_assoc, Compartment.shutdown_append, ← hflushed, ← hleft,
    ← Batch.ofCategory_append]
  rfl

theorem loop_sink (d : Collector) (sink : Sink σ) (rounds : List Round) (s : σ) :
    (d.loop sink rounds s).sink = sink.feed (d.loop sink rounds s).flushed s := by
  induction rounds generalizing d s with
  | nil => rfl
  | cons round rest ih =>
    have hround := receive_sink d sink round.record round.now s
    rw [loop]
    split
    · exact hround
    · rw [Sink.feed_append, ← hround]
      exact ih ..

theorem run_sink (d : Collector) (sink : Sink σ) (rounds : List Round) (stop : Stop)
    (queue : List Record) (now : Nat) (s : σ) :
    (d.run sink rounds stop queue now s).sink =
      sink.feed (d.run sink rounds stop queue now s).flushed s := by
  simp only [run]
  rw [Sink.feed_append, shutdown_sink, ← loop_sink]

/-- **Whatever ends the loop, the batches of a key are cut in the same way.** Let a collector that is
started take records in rounds that come no earlier than that and no later than one collection
timeout after it, until it is stopped, its inbox is closed or the sink panics on a full batch, and
then shut down over what is queued. The batches of every key that the sink was given, those that it
panicked on included, are the payloads of the key, in the order in which they were queued, in pieces
of the greatest size and a last one of what is left. -/
theorem run_chunks (settings : Settings) (positive : 1 ≤ settings.maxBatchSize) (begun : Nat)
    (rounds : List Round)
    (early : ∀ round ∈ rounds,
      begun ≤ round.now ∧ round.now ≤ begun + settings.collectionTimeout)
    (sink : Sink σ) (stop : Stop) (queue : List Record) (now : Nat) (s : σ) :
    let ended := (start settings begun).run sink rounds stop queue now s
    (∀ key, (Batch.ofCategory key ended.flushed).map (·.items) =
      (Record.payloadsUnder key (rounds.filterMap (·.record) ++ queue)).toChunks
        settings.maxBatchSize) ∧
      ended.sink = sink.feed ended.flushed s := by
  intro ended
  have hearly : ∀ round ∈ rounds, begun + settings.collectionTimeout ≤
      round.now + (start settings begun).timeout ∧
      round.now ≤ begun + settings.collectionTimeout := by
    intro round hround
    obtain ⟨hlow, hhigh⟩ := early round hround
    exact ⟨Nat.add_le_add_right hlow _, hhigh⟩
  refine ⟨?_, run_sink ..⟩
  intro key
  have hnew : ((start settings begun).watcher.compartment key).Filling := by
    intro b hb
    exact absurd hb (by simp [start, watcher, Watcher.compartment, OpenBatches.get?,
      OpenBatches.empty])
  rw [run_compartment OpenBatches.distinct_empty (OpenBatches.dueFrom_empty _) hearly,
    Compartment.shutdown_chunks hnew positive]
  rfl

/-- Rounds in which a batch becomes full that a sink refuses, so that the last one is not taken. -/
def refusedRounds : List Round :=
  [⟨some ⟨"a", .null⟩, 0⟩, ⟨some ⟨"b", .null⟩, 3⟩, ⟨none, 4⟩, ⟨some ⟨"b", .bool true⟩, 10⟩,
    ⟨some ⟨"a", .bool true⟩, 10⟩]

theorem run_chunks_refusedRounds :
    let settings : Settings := { maxBatchSize := 2, collectionTimeout := 10 }
    let sink := Rehearsal.refusingSink ["b"]
    let queue : List Record := [⟨"a", .null⟩, ⟨"b", .null⟩]
    let ended := (start settings 0).run sink refusedRounds .interrupted queue 11 ()
    1 ≤ settings.maxBatchSize ∧
      (∀ round ∈ refusedRounds, 0 ≤ round.now ∧ round.now ≤ 0 + settings.collectionTimeout) ∧
      ((start settings 0).loop sink refusedRounds ()).panicked =
        some "flush refuses Batch to b of size 2" ∧
      (Batch.ofCategory "a" ended.flushed).map (·.items) = [[.null, .bool true], [.null]] ∧
      (Batch.ofCategory "b" ended.flushed).map (·.items) = [[.null, .bool true], [.null]] := by
  intro settings sink queue ended
  have early : ∀ round ∈ refusedRounds,
      0 ≤ round.now ∧ round.now ≤ 0 + settings.collectionTimeout := by decide
  obtain ⟨hchunks, -⟩ :=
    run_chunks settings (by decide) 0 refusedRounds early sink .interrupted queue 11 ()
  refine ⟨by decide, early, by decide, ?_, ?_⟩
  · rw [hchunks]
    rfl
  · rw [hchunks]
    rfl

end Collector

end EventBatching
