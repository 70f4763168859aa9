import EventBatching.Proofs.Collector.Waking

/-!
# Keys do not interfere

The records of one key make its batches, and nothing else does. A batch of another key that becomes
full makes the collector sweep earlier than it otherwise would, and moves its time to look again;
but a collector does what it would do if it swept in every round, and such a sweep treats every key
for itself.

* `Compartment` is what a collector would be if there were one key only. It is told every record and
  leaves those of other keys alone.
* `Watcher.receive_compartment` says that a round of a collector which always looks does to a key
  what a round of its compartment does, and `Collector.shutdown_compartment` says the same of a
  shutdown.
* `Collector.visits_forKey` puts two runs side by side, one with and one without the records of
  other keys: they show the same of the key, although they sweep in different rounds.
-/

namespace EventBatching

/-! ## The batches of a category -/

/-- The batches of a category, in their order. -/
def Batch.ofCategory (key : String) (bs : List Batch) : List Batch :=
  bs.filter fun b => b.category = key

@[simp] theorem Batch.ofCategory_nil (key : String) : Batch.ofCategory key [] = [] := rfl

@[simp] theorem Batch.ofCategory_append (key : String) (bs bs' : List Batch) :
    Batch.ofCategory key (bs ++ bs') = Batch.ofCategory key bs ++ Batch.ofCategory key bs' := by
  simp [Batch.ofCategory]

theorem Batch.ofCategory_close (key k : String) (b : Option OpenBatch) :
    Batch.ofCategory key (b.map (·.close k)).toList =
      if k = key then (b.map (·.close key)).toList else [] := by
  cases b with
  | none => simp
  | some b => by_cases hk : k = key <;> simp [Batch.ofCategory, OpenBatch.close, hk]

namespace OpenBatches

/-- The closed batches of entries have the batch of a key if there is an entry for it. -/
theorem ofCategory_closeAll {entries : List (String × OpenBatch)}
    (distinct : (entryKeys entries).Nodup) (key : String) :
    Batch.ofCategory key (closeAll entries) = ((entries.lookup key).map (·.close key)).toList := by
  induction entries with
  | nil => rfl
  | cons e rest ih =>
    obtain ⟨k, b⟩ := e
    obtain ⟨hk, hrest⟩ := List.nodup_cons.1 distinct
    have hstep : closeAll ((k, b) :: rest) =
        ((some b).map (·.close k)).toList ++ closeAll rest := rfl
    rw [hstep, Batch.ofCategory_append, Batch.ofCategory_close, ih hrest, lookup_entry]
    by_cases hkey : k = key
    · subst hkey
      rw [lookup_eq_none_iff_notMem.2 hk]
      simp
    · simp [hkey, Ne.symm hkey]

theorem ofCategory_extractAll {a : OpenBatches} (h : a.Distinct) (meets : OpenBatch → Bool)
    (key : String) :
    Batch.ofCategory key (a.extractAll meets).1 =
      (((a.get? key).filter meets).map (·.close key)).toList := by
  rw [extractAll, ofCategory_closeAll (h.filter _), lookup_filter h]
  rfl

theorem ofCategory_drain {a : OpenBatches} (h : a.Distinct) (key : String) :
    Batch.ofCategory key a.drain.1 = ((a.get? key).map (·.close key)).toList :=
  ofCategory_closeAll h key

theorem sizeOf_push (a : OpenBatches) (key : String) (deadline : Nat) (p : Payload) :
    (a.push key deadline p).sizeOf key = (((a.get? key).getD ⟨.empty, deadline⟩).push p).size := by
  rw [sizeOf, get?_push, if_pos rfl]
  rfl

end OpenBatches

/-! ## The compartment of a key -/

/-- What a round shows of one key. -/
structure Glimpse where
  /-- The time of the round. -/
  now : Nat
  /-- The batches of the key that were handed over in it, in order. -/
  flushed : List Batch
  /-- The open batch of the key after it. -/
  batch : Option OpenBatch

/-- What a visit shows of a key. -/
def Visit.ofKey (key : String) (v : Visit) : Glimpse :=
  ⟨v.now, Batch.ofCategory key v.flushed, v.batches.get? key⟩

/-- The round without its record, unless the record has a key. -/
def Collector.Round.forKey (key : String) (round : Round) : Round :=
  { round with record := round.record.filter (·.key = key) }

/-- What a collector would be if there were one key only. -/
structure Compartment where
  /-- The key. -/
  key : String
  /-- The open batch. -/
  batch : Option OpenBatch
  /-- The longest time a batch stays open. -/
  timeout : Nat
  /-- The number of records at which a batch is full. -/
  maxBatchSize : Nat

namespace Compartment

/-- Folds a payload into the batch, and closes the batch if that makes it full. -/
def add (c : Compartment) (p : Payload) (now : Nat) : List Batch × Compartment :=
  let collected := (c.batch.getD ⟨.empty, now + c.timeout⟩).push p
  if collected.size < c.maxBatchSize then ([], { c with batch := some collected })
  else ([collected.close c.key], { c with batch := none })

/-- Folds in a record if it has the key. -/
def offer (c : Compartment) (r : Record) (now : Nat) : List Batch × Compartment :=
  if r.key = c.key then c.add r.payload now else ([], c)

/-- Folds in a record if one came that has the key. -/
def offerAny (c : Compartment) (record : Option Record) (now : Nat) : List Batch × Compartment :=
  match record with
  | none => ([], c)
  | some r => c.offer r now

/-- Closes the batch if it is overdue. -/
def sweep (c : Compartment) (now : Nat) : List Batch × Compartment :=
  (((c.batch.filter (·.deadline < now)).map (·.close c.key)).toList,
    { c with batch := c.batch.filter fun b => !decide (b.deadline < now) })

/-- One round: a record, if one came that has the key, and then a sweep. -/
def receive (c : Compartment) (record : Option Record) (now : Nat) : List Batch × Compartment :=
  let (full, c) := c.offerAny record now
  let (overdue, c) := c.sweep now
  (full ++ overdue, c)

/-- What rounds show. -/
def glimpses (c : Compartment) : List Collector.Round → List Glimpse
  | [] => []
  | round :: rest =>
    let (flushed, after) := c.receive round.record round.now
    ⟨round.now, flushed, after.batch⟩ :: after.glimpses rest

/-- The compartment after rounds. -/
def afterAll (c : Compartment) (rounds : List Collector.Round) : Compartment :=
  rounds.foldl (fun c round => (c.receive round.record round.now).2) c

/-- Folds in the records of a queue that have the key. -/
def drain (c : Compartment) (now : Nat) : List Record → List Batch × Compartment
  | [] => ([], c)
  | r :: rest =>
    let (full, c) := c.offer r now
    let (later, c) := c.drain now rest
    (full ++ later, c)

/-- Folds in the records of a queue that have the key and closes the batch. -/
def shutdown (c : Compartment) (queue : List Record) (now : Nat) : List Batch :=
  let (full, c) := c.drain now queue
  full ++ (c.batch.map (·.close c.key)).toList

/-! ### Records of other keys -/

theorem offer_own {c : Compartment} {r : Record} (h : r.key = c.key) (now : Nat) :
    c.offer r now = c.add r.payload now := if_pos h

theorem offer_other {c : Compartment} {r : Record} (h : r.key ≠ c.key) (now : Nat) :
    c.offer r now = ([], c) := if_neg h

@[simp] theorem offer_key (c : Compartment) (r : Record) (now : Nat) :
    (c.offer r now).2.key = c.key := by
  simp only [offer, add]
  split
  · split
    · rfl
    · rfl
  · rfl

@[simp] theorem receive_key (c : Compartment) (record : Option Record) (now : Nat) :
    (c.receive record now).2.key = c.key := by
  cases record with
  | none => rfl
  | some r => exact c.offer_key r now

/-- A record of another key is as good as none. -/
theorem receive_forKey (c : Compartment) (round : Collector.Round) :
    c.receive (round.forKey c.key).record round.now = c.receive round.record round.now := by
  obtain ⟨record, now⟩ := round
  cases record with
  | none => rfl
  | some r =>
    by_cases hr : r.key = c.key
    · simp [Collector.Round.forKey, Option.filter, hr]
    · simp [Collector.Round.forKey, Option.filter, hr, receive, offerAny, offer]

theorem glimpses_forKey (c : Compartment) (rounds : List Collector.Round) :
    c.glimpses (rounds.map (·.forKey c.key)) = c.glimpses rounds := by
  induction rounds generalizing c with
  | nil => rfl
  | cons round rest ih =>
    have hrest := ih (c.receive round.record round.now).2
    rw [receive_key] at hrest
    have hnow : (round.forKey c.key).now = round.now := rfl
    simp only [List.map_cons, glimpses, hnow, receive_forKey, hrest]

theorem afterAll_forKey (c : Compartment) (rounds : List Collector.Round) :
    c.afterAll (rounds.map (·.forKey c.key)) = c.afterAll rounds := by
  induction rounds generalizing c with
  | nil => rfl
  | cons round rest ih =>
    have hrest := ih (c.receive round.record round.now).2
    rw [receive_key] at hrest
    have hnow : (round.forKey c.key).now = round.now := rfl
    simp only [afterAll, List.map_cons, List.foldl_cons, hnow, receive_forKey] at hrest ⊢
    exact hrest

theorem drain_forKey (c : Compartment) (now : Nat) (queue : List Record) :
    c.drain now (queue.filter (·.key = c.key)) = c.drain now queue := by
  induction queue generalizing c with
  | nil => rfl
  | cons r rest ih =>
    by_cases hr : r.key = c.key
    · have hrest := ih (c.offer r now).2
      rw [offer_key] at hrest
      simp [hr, drain, hrest]
    · simp [hr, drain, offer_other hr, ih c]

@[simp] theorem afterAll_key (c : Compartment) (rounds : List Collector.Round) :
    (c.afterAll rounds).key = c.key := by
  induction rounds generalizing c with
  | nil => rfl
  | cons round rest ih =>
    have hrest := ih (c.receive round.record round.now).2
    rwa [receive_key] at hrest

/-! ### The time of a shutdown -/

/-- Two compartments are the same but for the deadline of the batch. -/
structure SameItems (c c' : Compartment) : Prop where
  /-- The keys are the same. -/
  key_eq : c.key = c'.key
  /-- The payloads that wait are the same. -/
  items_eq : c.batch.map (·.items.toList) = c'.batch.map (·.items.toList)
  /-- A batch is full at the same number of records. -/
  max_eq : c.maxBatchSize = c'.maxBatchSize

theorem SameItems.offer {c c' : Compartment} (h : c.SameItems c') (r : Record) (now now' : Nat) :
    (c.offer r now).1 = (c'.offer r now').1 ∧ (c.offer r now).2.SameItems (c'.offer r now').2 := by
  obtain ⟨hkey, hitems, hmax⟩ := h
  have hpushed : ((c.batch.getD ⟨.empty, now + c.timeout⟩).push r.payload).items.toList =
      ((c'.batch.getD ⟨.empty, now' + c'.timeout⟩).push r.payload).items.toList := by
    cases hb : c.batch <;> cases hb' : c'.batch <;> simp_all [OpenBatch.push]
  have hsize : ((c.batch.getD ⟨.empty, now + c.timeout⟩).push r.payload).size =
      ((c'.batch.getD ⟨.empty, now' + c'.timeout⟩).push r.payload).size := by
    rw [OpenBatch.size, OpenBatch.size, ← Arrivals.length_toList, hpushed, Arrivals.length_toList]
  simp only [Compartment.offer, Compartment.add, hkey, hsize, hmax, OpenBatch.close, hpushed]
  split
  · split
    · exact ⟨rfl, rfl, by simpa using hpushed, rfl⟩
    · exact ⟨rfl, rfl, rfl, rfl⟩
  · exact ⟨rfl, hkey, hitems, hmax⟩

/-- What a shutdown closes does not hang on its time: the batches that it opens have no time to
become overdue. -/
theorem SameItems.shutdown {c c' : Compartment} (h : c.SameItems c') (queue : List Record)
    (now now' : Nat) : c.shutdown queue now = c'.shutdown queue now' := by
  induction queue generalizing c c' with
  | nil =>
    obtain ⟨hkey, hitems, -⟩ := h
    cases hb : c.batch <;> cases hb' : c'.batch <;>
      simp_all [Compartment.shutdown, Compartment.drain, OpenBatch.close]
  | cons r rest ih =>
    obtain ⟨hfull, hafter⟩ := h.offer r now now'
    have hrest := ih hafter
    simp only [Compartment.shutdown, Compartment.drain, hfull, List.append_assoc] at hrest ⊢
    rw [hrest]

theorem shutdown_forKey {c : Compartment} {key : String} (h : c.key = key) (queue : List Record)
    (now now' : Nat) : c.shutdown (queue.filter (·.key = key)) now = c.shutdown queue now' := by
  subst h
  rw [shutdown, drain_forKey]
  exact SameItems.shutdown ⟨rfl, rfl, rfl⟩ queue now now'

end Compartment

/-! ## Collectors and their compartments -/

namespace Watcher

/-- What a key has of a watcher. -/
def compartment (w : Watcher) (key : String) : Compartment :=
  ⟨key, w.batches.get? key, w.timeout, w.maxBatchSize⟩

/-- The watcher after rounds. -/
def afterAll (w : Watcher) (rounds : List Collector.Round) : Watcher :=
  rounds.foldl (fun w round => (w.receive round.record round.now).2) w

/-- A record changes the compartment of its key as if there were no other, and no other. -/
theorem add_compartment (w : Watcher) (r : Record) (now : Nat) (key : String) :
    (Batch.ofCategory key (w.add r now).1,
        { w with batches := (w.add r now).2 }.compartment key) =
      (w.compartment key).offer r now := by
  by_cases hkey : r.key = key
  · subst hkey
    rw [Compartment.offer_own rfl]
    simp only [add, OpenBatches.sizeOf_push, Compartment.add, compartment]
    split
    · next hroom => simp [OpenBatches.get?_push, hroom]
    · next hfull =>
      simp [OpenBatches.remove, OpenBatches.get?_push, Batch.ofCategory, OpenBatch.close, hfull]
  · rw [Compartment.offer_other hkey]
    simp only [add, compartment]
    split
    · simp [OpenBatches.get?_push, Ne.symm hkey]
    · simp [OpenBatches.remove, OpenBatches.get?_push, Ne.symm hkey, Batch.ofCategory,
        OpenBatch.close, hkey]

theorem add_distinct {w : Watcher} (h : w.batches.Distinct) (r : Record) (now : Nat) :
    (w.add r now).2.Distinct := by
  rw [add]
  split
  · exact h.push ..
  · exact (h.push ..).erase _

theorem addAny_distinct {w : Watcher} (h : w.batches.Distinct) (record : Option Record)
    (now : Nat) : (w.addAny record now).2.Distinct := by
  cases record with
  | none => exact h
  | some r => exact add_distinct h r now

theorem addAny_compartment (w : Watcher) (record : Option Record) (now : Nat) (key : String) :
    (Batch.ofCategory key (w.addAny record now).1,
        { w with batches := (w.addAny record now).2 }.compartment key) =
      (w.compartment key).offerAny record now := by
  cases record with
  | none => rfl
  | some r => exact w.add_compartment r now key

/-- What is overdue of a key is its batch, if that is overdue. -/
theorem overdue_compartment {w : Watcher} (h : w.batches.Distinct) (now : Nat) (key : String) :
    let overdue := w.batches.extractAll fun b => b.deadline < now
    (Batch.ofCategory key overdue.1, { w with batches := overdue.2 }.compartment key) =
      (w.compartment key).sweep now := by
  simp only [OpenBatches.ofCategory_extractAll h, Compartment.sweep, compartment,
    OpenBatches.get?_extractAll h]

theorem receive_distinct {w : Watcher} (h : w.batches.Distinct) (record : Option Record)
    (now : Nat) : (w.receive record now).2.batches.Distinct :=
  (addAny_distinct h record now).extractAll fun b => b.deadline < now

/-- A round does to a key what a round of its compartment does. -/
theorem receive_compartment {w : Watcher} (h : w.batches.Distinct) (record : Option Record)
    (now : Nat) (key : String) :
    (Batch.ofCategory key (w.receive record now).1, (w.receive record now).2.compartment key) =
      (w.compartment key).receive record now := by
  have hoverdue := overdue_compartment (w := { w with batches := (w.addAny record now).2 })
    (addAny_distinct h record now) now key
  rw [Compartment.receive, ← addAny_compartment]
  simp only [← hoverdue, receive, Batch.ofCategory_append]

theorem visits_compartment {w : Watcher} (h : w.batches.Distinct)
    (rounds : List Collector.Round) (key : String) :
    (w.visits rounds).map (·.ofKey key) = (w.compartment key).glimpses rounds := by
  induction rounds generalizing w with
  | nil => rfl
  | cons round rest ih =>
    have hround := w.receive_compartment h round.record round.now key
    have hrest := ih (receive_distinct h round.record round.now)
    simp only [visits, List.map_cons, hrest, Compartment.glimpses, ← hround]
    rfl

theorem afterAll_compartment {w : Watcher} (h : w.batches.Distinct)
    (rounds : List Collector.Round) (key : String) :
    (w.afterAll rounds).compartment key = (w.compartment key).afterAll rounds := by
  induction rounds generalizing w with
  | nil => rfl
  | cons round rest ih =>
    have hround := w.receive_compartment h round.record round.now key
    have hrest := ih (receive_distinct h round.record round.now)
    simp only [afterAll, Compartment.afterAll, List.foldl_cons, ← hround] at hrest ⊢
    exact hrest

end Watcher

namespace Collector

variable {σ τ : Type}

/-- Draining a queue changes the compartment of a key as if there were no other. -/
theorem drainQueue_compartment (d : Collector) (sink : Sink σ) (now : Nat) (queue : List Record)
    (s : σ) (key : String) :
    (Batch.ofCategory key (d.drainQueue sink now queue s).flushed,
        (d.drainQueue sink now queue s).after.watcher.compartment key) =
      (d.watcher.compartment key).drain now queue := by
  induction queue generalizing d s with
  | nil => rfl
  | cons r rest ih =>
    have hr := d.watcher.add_compartment r now key
    obtain ⟨hflushed, hafter⟩ := d.watcher_after_add sink r now s
    have hrest := ih (d.add sink r now s).after (d.add sink r now s).sink
    rw [hafter] at hrest
    simp only [drainQueue, Batch.ofCategory_append, Compartment.drain, ← hr, ← hrest, hflushed]

/-- A shutdown does to a key what a shutdown of its compartment does. -/
theorem shutdown_compartment {d : Collector} (h : d.batches.Distinct) (sink : Sink σ)
    (queue : List Record) (now : Nat) (s : σ) (key : String) :
    Batch.ofCategory key (d.shutdown sink queue now s).flushed =
      (d.watcher.compartment key).shutdown queue now := by
  have hdrained := drainQueue_compartment d sink now queue s key
  have hdistinct := drainQueue_distinct h sink now queue s
  simp only [shutdown, Batch.ofCategory_append, OpenBatches.ofCategory_drain hdistinct,
    Compartment.shutdown, ← hdrained]
  rfl

/-- A loop ends with the batches that it would leave open if it looked in every round. -/
theorem loop_of_timely {sink : Sink σ} (returns : sink.Returns) {d : Collector} {last : Nat}
    (h : d.Timely last) (rounds : List Round)
    (ordered : (last :: rounds.map (·.now)).Pairwise (· ≤ ·)) (s : σ) :
    (d.loop sink rounds s).after.watcher = d.watcher.afterAll rounds := by
  induction rounds generalizing d last s with
  | nil => rfl
  | cons round rest ih =>
    obtain ⟨hlast, hrest⟩ := List.pairwise_cons.1 ordered
    have hle : last ≤ round.now := hlast round.now (List.mem_cons_self ..)
    obtain ⟨-, full, hresult⟩ := receive_of_returns returns d round.record round.now s
    have hround := receive_of_timely returns h hle round.record s
    simp only [loop, hresult, Watcher.afterAll, List.foldl_cons, hround]
    exact ih (h.receive hle sink round.record s) hrest _

theorem loop_distinct {d : Collector} (h : d.batches.Distinct) (sink : Sink σ)
    (rounds : List Round) (s : σ) : (d.loop sink rounds s).after.batches.Distinct := by
  induction rounds generalizing d s with
  | nil => exact h
  | cons round rest ih =>
    have hround := receive_distinct h sink round.record round.now s
    rw [loop]
    split
    · exact hround
    · exact ih hround _

theorem times_forKey (key : String) (rounds : List Round) :
    (rounds.map (·.forKey key)).map (·.now) = rounds.map (·.now) := by
  rw [List.map_map]
  rfl

/-- What rounds of a new collector show of a key, and what a shutdown after them hands over of it,
is what its compartment does. -/
theorem start_compartment {sink : Sink σ} (returns : sink.Returns) (settings : Settings)
    (begun : Nat) (rounds : List Round)
    (ordered : (begun :: rounds.map (·.now)).Pairwise (· ≤ ·)) (s : σ) (queue : List Record)
    (now : Nat) (key : String) :
    let d := start settings begun
    let looped := d.loop sink rounds s
    (d.visits sink rounds s).map (·.ofKey key) = (d.watcher.compartment key).glimpses rounds ∧
      Batch.ofCategory key (looped.after.shutdown sink queue now looped.sink).flushed =
        ((d.watcher.compartment key).afterAll rounds).shutdown queue now := by
  intro d looped
  have hdistinct : d.batches.Distinct := OpenBatches.distinct_empty
  have htimely : d.Timely begun := timely_start settings begun
  constructor
  · rw [visits_of_timely returns htimely rounds ordered, Watcher.visits_compartment hdistinct]
  · rw [shutdown_compartment (loop_distinct hdistinct sink rounds s),
      loop_of_timely returns htimely rounds ordered, Watcher.afterAll_compartment hdistinct]

/-- **Keys do not interfere.** Take a run of rounds whose times do not decrease and leave out the
records of all keys but one, keeping the times. In every round the same batches of the key are
handed over and the same batch of it stays open, with the same deadline; and a shutdown in the end,
over the queue or over the records of the key in it, hands over the same batches of the key,
whatever time each of the two shutdowns reads. -/
theorem visits_forKey {sink : Sink σ} {sink' : Sink τ} (returns : sink.Returns)
    (returns' : sink'.Returns) (settings : Settings) (begun : Nat) (rounds : List Round)
    (ordered : (begun :: rounds.map (·.now)).Pairwise (· ≤ ·)) (s : σ) (s' : τ)
    (queue : List Record) (now now' : Nat) (key : String) :
    let d := start settings begun
    let own := rounds.map (·.forKey key)
    let looped := d.loop sink rounds s
    let alone := d.loop sink' own s'
    (d.visits sink rounds s).map (·.ofKey key) = (d.visits sink' own s').map (·.ofKey key) ∧
      Batch.ofCategory key (looped.after.shutdown sink queue now looped.sink).flushed =
        Batch.ofCategory key
          (alone.after.shutdown sink' (queue.filter (·.key = key)) now' alone.sink).flushed := by
  intro d own looped alone
  have ordered' : (begun :: own.map (·.now)).Pairwise (· ≤ ·) := by rwa [times_forKey]
  obtain ⟨hvisits, hshutdown⟩ :=
    start_compartment returns settings begun rounds ordered s queue now key
  obtain ⟨hvisits', hshutdown'⟩ := start_compartment returns' settings begun own ordered' s'
    (queue.filter (·.key = key)) now' key
  let c := d.watcher.compartment key
  have hafter : (c.afterAll own).shutdown (queue.filter (·.key = key)) now' =
      (c.afterAll rounds).shutdown queue now := by
    rw [show c.afterAll own = c.afterAll rounds from c.afterAll_forKey rounds]
    exact Compartment.shutdown_forKey (c.afterAll_key rounds) queue now' now
  exact ⟨hvisits.trans ((c.glimpses_forKey rounds).symm.trans hvisits'.symm),
    hshutdown.trans (hafter.symm.trans hshutdown'.symm)⟩

/-- Rounds in which batches of another key become full, so that the collector sweeps in rounds in
which it would not without that key. -/
def crowdedRounds : List Round :=
  [⟨some ⟨"a", .null⟩, 0⟩, ⟨some ⟨"b", .null⟩, 3⟩, ⟨some ⟨"b", .null⟩, 4⟩, ⟨none, 10⟩, ⟨none, 11⟩,
    ⟨some ⟨"a", .bool true⟩, 12⟩, ⟨some ⟨"b", .null⟩, 12⟩, ⟨some ⟨"b", .null⟩, 13⟩]

theorem visits_forKey_crowdedRounds :
    let d := start { maxBatchSize := 2, collectionTimeout := 10 } 0
    let own := crowdedRounds.map (·.forKey "a")
    Sink.keep.Returns ∧ (0 :: crowdedRounds.map (·.now)).Pairwise (· ≤ ·) ∧
      ((d.loop Sink.keep crowdedRounds []).after.nextWake,
        (d.loop Sink.keep own []).after.nextWake) = (22, 21) ∧
      (d.visits Sink.keep own []).map (fun v => v.flushed.map (·.label)) =
        [[], [], [], [], ["Batch to a of size 1"], [], [], []] ∧
      (d.visits Sink.keep crowdedRounds []).map (·.ofKey "a") =
        (d.visits Sink.keep own []).map (·.ofKey "a") := by
  refine ⟨Sink.keep_returns, by decide, by decide, by decide, ?_⟩
  exact (visits_forKey Sink.keep_returns Sink.keep_returns
    { maxBatchSize := 2, collectionTimeout := 10 } 0 crowdedRounds (by decide) [] []
    [⟨"b", .null⟩, ⟨"a", .null⟩] 14 15 "a").1

end Collector

end EventBatching
