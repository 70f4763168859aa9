import EventBatching.Proofs.Collector.Handover

/-!
# The time to look again

A collector sweeps only if a record made a batch full or the time to look again has passed. That
time is not moved when a batch is opened: a new batch is due one timeout from now, and the time to
look again is never later than that. So a round that does not sweep has nothing to sweep, and the
collector does exactly what it would do if it looked at every open batch in every round.

* `Collector.Timely` is the invariant: nothing is due before the time to look again, which is at
  most one timeout after the last round.
* `Watcher` is a collector without a time to look again.
* `Collector.visits_eq_watcher` says that the two hand over the same batches and leave the same
  batches open, round by round.
-/

namespace EventBatching

namespace Collector

variable {σ : Type}

/-! ## The earliest deadline -/

theorem foldl_min_le (entries : List (String × OpenBatch)) (latest : Nat) :
    entries.foldl (fun t (_, b) => min t b.deadline) latest ≤ latest ∧
      ∀ e ∈ entries, entries.foldl (fun t (_, b) => min t b.deadline) latest ≤ e.2.deadline := by
  induction entries generalizing latest with
  | nil => exact ⟨Nat.le_refl _, fun _ he => absurd he List.not_mem_nil⟩
  | cons e rest ih =>
    obtain ⟨hle, hrest⟩ := ih (min latest e.2.deadline)
    refine ⟨Nat.le_trans hle (Nat.min_le_left ..), fun e' he' => ?_⟩
    rcases List.mem_cons.1 he' with rfl | he'
    · exact Nat.le_trans hle (Nat.min_le_right ..)
    · exact hrest e' he'

theorem earliest_le (latest : Nat) (a : OpenBatches) : earliest latest a ≤ latest :=
  (foldl_min_le a.entries latest).1

theorem dueFrom_earliest (latest : Nat) (a : OpenBatches) : a.DueFrom (earliest latest a) :=
  (foldl_min_le a.entries latest).2

/-! ## The invariant -/

/-- A collector whose last round was at a time looks again before anything is overdue. -/
structure Timely (d : Collector) (last : Nat) : Prop where
  /-- A batch that is opened later is due at or after the time to look again. -/
  wake_le : d.nextWake ≤ last + d.timeout
  /-- A batch that is open is due at or after the time to look again. -/
  dueFrom : d.batches.DueFrom d.nextWake

theorem timely_start (settings : Settings) (now : Nat) : (start settings now).Timely now :=
  ⟨Nat.le_refl _, OpenBatches.dueFrom_empty _⟩

section Steps

variable {d : Collector} {last now : Nat}

theorem Timely.later (h : d.Timely last) (hle : last ≤ now) : d.Timely now :=
  ⟨Nat.le_trans h.wake_le (Nat.add_le_add_right hle _), h.dueFrom⟩

theorem Timely.add (h : d.Timely last) (hle : last ≤ now) (sink : Sink σ) (r : Record) (s : σ) :
    (d.add sink r now s).after.Timely now := by
  have hpushed : (d.collected r now).DueFrom d.nextWake :=
    h.dueFrom.push r.key (h.later hle).wake_le r.payload
  rw [add_after]
  refine ⟨(h.later hle).wake_le, ?_⟩
  show (d.filled r now).2.DueFrom d.nextWake
  rw [filled]
  split
  · exact hpushed
  · exact hpushed.filter _

/-- A sweep settles the time to look again, whatever it was. -/
theorem timely_sweep (d : Collector) (sink : Sink σ) (now : Nat) (s : σ) :
    (d.sweep sink now s).after.Timely now := by
  rw [sweep_after]
  exact ⟨earliest_le .., dueFrom_earliest (now + d.timeout) (d.overdue now).2⟩

theorem Timely.tick (h : d.Timely last) (hle : last ≤ now) (sink : Sink σ) (flushed : Bool)
    (s : σ) : (d.tick sink flushed now s).after.Timely now := by
  rw [Collector.tick]
  split
  · exact timely_sweep ..
  · exact h.later hle

/-- A round keeps the invariant, even if the sink panics in it. -/
theorem Timely.receive (h : d.Timely last) (hle : last ≤ now) (sink : Sink σ)
    (record : Option Record) (s : σ) : (d.receive sink record now s).after.Timely now := by
  cases record with
  | none => exact h.tick hle sink false s
  | some r =>
    have hadded := h.add hle sink r s
    rw [Collector.receive]
    split
    · exact hadded
    · exact hadded.tick (Nat.le_refl _) ..

end Steps

end Collector

/-! ## A collector that always looks -/

/-- A collector without a time to look again. -/
structure Watcher where
  /-- The open batches. -/
  batches : OpenBatches
  /-- The longest time a batch stays open. -/
  timeout : Nat
  /-- The number of records at which a batch is full. -/
  maxBatchSize : Nat

/-- What a round leaves to be seen. -/
structure Visit where
  /-- The time of the round. -/
  now : Nat
  /-- The batches that were handed over in it, in order. -/
  flushed : List Batch
  /-- The batches that are open after it. -/
  batches : OpenBatches

namespace Watcher

/-- A watcher without open batches. -/
def start (settings : Settings) : Watcher :=
  ⟨.empty, settings.collectionTimeout, settings.maxBatchSize⟩

/-- Folds a record into the batch of its key, and hands the batch over if that makes it full. -/
def add (w : Watcher) (r : Record) (now : Nat) : List Batch × OpenBatches :=
  let collected := w.batches.push r.key (now + w.timeout) r.payload
  if collected.sizeOf r.key < w.maxBatchSize then ([], collected)
  else
    let (full, rest) := collected.remove r.key
    (full.toList, rest)

/-- Folds in a record if one came. -/
def addAny (w : Watcher) (record : Option Record) (now : Nat) : List Batch × OpenBatches :=
  match record with
  | none => ([], w.batches)
  | some r => w.add r now

/-- One round: a record, if one came, and then every overdue batch. -/
def receive (w : Watcher) (record : Option Record) (now : Nat) : List Batch × Watcher :=
  let (full, batches) := w.addAny record now
  let (overdue, rest) := batches.extractAll fun b => b.deadline < now
  (full ++ overdue, { w with batches := rest })

/-- What rounds leave to be seen. -/
def visits (w : Watcher) : List Collector.Round → List Visit
  | [] => []
  | round :: rest =>
    let (flushed, after) := w.receive round.record round.now
    ⟨round.now, flushed, after.batches⟩ :: after.visits rest

/-- A round leaves nothing open that is overdue. -/
theorem dueFrom_receive (w : Watcher) (record : Option Record) (now : Nat) :
    (w.receive record now).2.batches.DueFrom now :=
  OpenBatches.dueFrom_extractAll (w.addAny record now).2 now

theorem dueFrom_of_mem_visits (w : Watcher) (rounds : List Collector.Round) :
    ∀ v ∈ w.visits rounds, v.batches.DueFrom v.now := by
  induction rounds generalizing w with
  | nil => exact fun _ hv => absurd hv List.not_mem_nil
  | cons round rest ih =>
    intro v hv
    rcases List.mem_cons.1 hv with rfl | hv
    · exact w.dueFrom_receive round.record round.now
    · exact ih _ v hv

end Watcher

namespace Collector

variable {σ : Type}

/-- The collector without its time to look again. -/
def watcher (d : Collector) : Watcher := ⟨d.batches, d.timeout, d.maxBatchSize⟩

/-- What rounds leave to be seen. -/
def visits (d : Collector) (sink : Sink σ) : List Round → σ → List Visit
  | [], _ => []
  | round :: rest, s =>
    let received := d.receive sink round.record round.now s
    ⟨round.now, received.flushed, received.after.batches⟩ ::
      visits received.after sink rest received.sink

/-! ## A round without a sweep -/

theorem watcher_add (d : Collector) (r : Record) (now : Nat) :
    d.watcher.add r now = ((d.filled r now).1.toList, (d.filled r now).2) := by
  rw [filled, Watcher.add]
  show (if (d.collected r now).sizeOf r.key < d.maxBatchSize then _ else _) = _
  split
  · rfl
  · rfl

theorem watcher_after_add (d : Collector) (sink : Sink σ) (r : Record) (now : Nat) (s : σ) :
    (d.add sink r now s).flushed = (d.watcher.add r now).1 ∧
      (d.add sink r now s).after.watcher =
        { d.watcher with batches := (d.watcher.add r now).2 } := by
  rw [add_flushed, add_after, watcher_add]
  exact ⟨rfl, rfl⟩

/-- A tick hands over what is overdue and leaves the rest, whether it sweeps or not. -/
theorem tick_of_timely {sink : Sink σ} (returns : sink.Returns) {d : Collector} {last : Nat}
    (h : d.Timely last) (flushed : Bool) (now : Nat) (s : σ) :
    (d.tick sink flushed now s).flushed = (d.overdue now).1 ∧
      (d.tick sink flushed now s).after.watcher =
        { d.watcher with batches := (d.overdue now).2 } := by
  rw [tick]
  split
  · rw [sweep_of_returns returns]
    exact ⟨rfl, rfl⟩
  · next hskip =>
    have hwake : now ≤ d.nextWake := by
      simp only [Bool.or_eq_true, decide_eq_true_eq, not_or, Nat.not_lt] at hskip
      exact hskip.2
    -- nothing open is due before `nextWake`, so the sweep would have found nothing
    rw [overdue, OpenBatches.extractAll_of_dueFrom (h.dueFrom.mono hwake)]
    exact ⟨rfl, rfl⟩

/-! ## Rounds -/

/-- A round does what it does without a time to look again. -/
theorem receive_of_timely {sink : Sink σ} (returns : sink.Returns) {d : Collector} {last now : Nat}
    (h : d.Timely last) (hle : last ≤ now) (record : Option Record) (s : σ) :
    d.watcher.receive record now =
      ((d.receive sink record now s).flushed, (d.receive sink record now s).after.watcher) := by
  cases record with
  | none =>
    obtain ⟨hflushed, hafter⟩ := tick_of_timely returns h false now s
    simp only [receive]
    rw [hflushed, hafter]
    rfl
  | some r =>
    have hadded := h.add hle sink r s
    rw [add_of_returns returns] at hadded
    obtain ⟨hflushed, hafter⟩ := tick_of_timely returns hadded (d.filled r now).1.isSome now
      (sink.feed (d.filled r now).1.toList s)
    simp only [receive, add_of_returns returns, Watcher.receive, Watcher.addAny, watcher_add]
    rw [hflushed, hafter]
    rfl

theorem visits_of_timely {sink : Sink σ} (returns : sink.Returns) {d : Collector} {last : Nat}
    (h : d.Timely last) (rounds : List Round)
    (ordered : (last :: rounds.map (·.now)).Pairwise (· ≤ ·)) (s : σ) :
    d.visits sink rounds s = d.watcher.visits rounds := by
  -- on the rounds; `Timely` at the time of the last one is what carries the induction
  induction rounds generalizing d last s with
  | nil => rfl
  | cons round rest ih =>
    obtain ⟨hlast, hrest⟩ := List.pairwise_cons.1 ordered
    have hle : last ≤ round.now := hlast round.now (List.mem_cons_self ..)
    rw [visits, Watcher.visits, receive_of_timely returns h hle round.record s,
      ih (h.receive hle sink round.record s) hrest]
    rfl

/-- A loop does, one round after another, what its rounds leave to be seen. -/
theorem loop_visits {sink : Sink σ} (returns : sink.Returns) (d : Collector)
    (rounds : List Round) (s : σ) :
    (d.loop sink rounds s).flushed = (d.visits sink rounds s).flatMap (·.flushed) ∧
      (d.loop sink rounds s).after.batches =
        ((d.visits sink rounds s).getLast?.map (·.batches)).getD d.batches ∧
      (d.loop sink rounds s).sink = sink.feed (d.loop sink rounds s).flushed s ∧
      (d.loop sink rounds s).panicked = none ∧ (d.loop sink rounds s).missed = [] := by
  induction rounds generalizing d s with
  | nil => exact ⟨rfl, rfl, rfl, rfl, rfl⟩
  | cons round rest ih =>
    obtain ⟨hsink, full, hresult⟩ := receive_of_returns returns d round.record round.now s
    obtain ⟨hflushed, hbatches, hfed, hpanicked, hmissed⟩ :=
      ih (d.receive sink round.record round.now s).after
        (d.receive sink round.record round.now s).sink
    simp only [loop, hresult, visits, List.flatMap_cons]
    refine ⟨by rw [hflushed], ?_, ?_, hpanicked, hmissed⟩
    · rw [hbatches, List.getLast?_cons]
      cases (visits _ sink rest _).getLast? with
      | none => rfl
      | some v => rfl
    · rw [hfed, Sink.feed_append, ← hsink]

/-- **The time to look again changes nothing.** In rounds whose times do not decrease, a collector
hands over the batches that it would hand over if it looked in every round, and leaves the same
batches open; no batch that is open after a round is overdue. -/
theorem visits_eq_watcher {sink : Sink σ} (returns : sink.Returns) (settings : Settings)
    (begun : Nat) (rounds : List Round)
    (ordered : (begun :: rounds.map (·.now)).Pairwise (· ≤ ·)) (s : σ) :
    let seen := (start settings begun).visits sink rounds s
    let looped := (start settings begun).loop sink rounds s
    seen = (Watcher.start settings).visits rounds ∧
      (∀ v ∈ seen, v.batches.DueFrom v.now) ∧
      looped.flushed = seen.flatMap (·.flushed) ∧
      looped.after.batches = (seen.getLast?.map (·.batches)).getD .empty ∧
      looped.sink = sink.feed looped.flushed s ∧ looped.panicked = none ∧ looped.missed = [] := by
  intro seen looped
  have hseen : seen = (Watcher.start settings).visits rounds :=
    visits_of_timely returns (timely_start settings begun) rounds ordered s
  refine ⟨hseen, ?_, loop_visits returns (start settings begun) rounds s⟩
  rw [hseen]
  exact Watcher.dueFrom_of_mem_visits _ rounds

/-- Rounds at whose times batches become due: at its deadline a batch is not overdue yet. -/
def tyingRounds : List Round :=
  [⟨some ⟨"a", .null⟩, 0⟩, ⟨some ⟨"b", .null⟩, 3⟩, ⟨none, 10⟩, ⟨none, 11⟩,
    ⟨some ⟨"b", .null⟩, 13⟩, ⟨some ⟨"a", .null⟩, 13⟩, ⟨none, 24⟩]

theorem visits_eq_watcher_tyingRounds :
    Sink.keep.Returns ∧ (0 :: tyingRounds.map (·.now)).Pairwise (· ≤ ·) ∧
      ((Watcher.start { maxBatchSize := 2, collectionTimeout := 10 }).visits tyingRounds).map
        (fun v => v.flushed.map (·.label)) =
        [[], [], [], ["Batch to a of size 1"], ["Batch to b of size 2"], [],
          ["Batch to a of size 1"]] ∧
      (start { maxBatchSize := 2, collectionTimeout := 10 } 0).visits Sink.keep tyingRounds [] =
        (Watcher.start { maxBatchSize := 2, collectionTimeout := 10 }).visits tyingRounds :=
  ⟨Sink.keep_returns, by decide, by decide,
    (visits_eq_watcher Sink.keep_returns { maxBatchSize := 2, collectionTimeout := 10 } 0
      tyingRounds (by decide) []).1⟩

end Collector

end EventBatching
