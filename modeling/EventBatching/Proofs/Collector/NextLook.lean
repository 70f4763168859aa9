import EventBatching.Proofs.Collector.Holding

/-!
# When a collector looks again

A collector remembers when it must look at its open batches again. The time is moved by sweeps only,
and a sweep settles it before any batch is handed over. So it is right in every state, also if the
sink has panicked: it is never later than a deadline, never later than one timeout after the last
operation, and right after a sweep it is the earliest deadline that is left.

* `OpenBatches.DueBy` says that no open batch is due after a time.
* `Collector.Punctual` is the invariant, and `History.punctual_perform` says that every operation
  keeps it.
* `Collector.earliest_eq` says what a sweep settles.
* `History.run_nextWake` is what holds after every list of operations.
-/

namespace EventBatching

/-! ## No deadline after a time -/

namespace OpenBatches

/-- No open batch has a deadline after a time. -/
def DueBy (a : OpenBatches) (t : Nat) : Prop := ∀ e ∈ a.entries, e.2.deadline ≤ t

theorem dueBy_empty (t : Nat) : empty.DueBy t := fun _ h => absurd h List.not_mem_nil

section DueBy

variable {a : OpenBatches} {t t' : Nat}

theorem DueBy.mono (h : a.DueBy t) (hle : t ≤ t') : a.DueBy t' :=
  fun e he => Nat.le_trans (h e he) hle

theorem DueBy.filter (h : a.DueBy t) (keep : String × OpenBatch → Bool) :
    DueBy ⟨a.entries.filter keep⟩ t := fun e he => h e (List.mem_filter.1 he).1

theorem DueBy.push (h : a.DueBy t) (key : String) {deadline : Nat} (hle : deadline ≤ t)
    (p : Payload) : (a.push key deadline p).DueBy t := by
  intro e he
  rcases deadline_of_mem_push he with hopened | ⟨before, hbefore, hsame⟩
  · rwa [hopened]
  · rw [← hsame]
    exact h before hbefore

end DueBy

/-- The deadlines of the open batches. -/
def deadlines (a : OpenBatches) : List Nat := a.entries.map (·.2.deadline)

end OpenBatches

/-! ## What a sweep settles -/

namespace Collector

variable {σ : Type}

theorem foldl_min_of_le {latest : Nat} {times : List Nat} (within : ∀ t ∈ times, t ≤ latest) :
    times.foldl min latest = times.min?.getD latest := by
  cases times with
  | nil => rfl
  | cons t rest =>
    have ht : min latest t = t := Nat.min_eq_right (within t (List.mem_cons_self ..))
    rw [List.foldl_cons, ht, List.min?_cons']
    rfl

/-- The earliest deadline, or the latest time if nothing is open. -/
theorem earliest_eq {a : OpenBatches} {latest : Nat} (within : a.DueBy latest) :
    earliest latest a = a.deadlines.min?.getD latest := by
  have hfold : earliest latest a = a.deadlines.foldl min latest := by
    rw [earliest, OpenBatches.deadlines, List.foldl_map]
  rw [hfold]
  refine foldl_min_of_le fun t ht => ?_
  obtain ⟨e, he, rfl⟩ := List.mem_map.1 ht
  exact within e he

/-! ## The invariant -/

/-- A collector whose last operation was at a time looks again in time, and at most one timeout
later. -/
structure Punctual (settings : Settings) (d : Collector) (last : Nat) : Prop where
  /-- It looks again before anything is overdue. -/
  timely : d.Timely last
  /-- What is open was opened at the last operation or before it. -/
  dueBy : d.batches.DueBy (last + settings.collectionTimeout)
  /-- The timeout is the one that was set. -/
  timeout_eq : d.timeout = settings.collectionTimeout

theorem punctual_start (settings : Settings) (begun : Nat) :
    (start settings begun).Punctual settings begun :=
  ⟨timely_start settings begun, OpenBatches.dueBy_empty _, rfl⟩

section Steps

variable {settings : Settings} {d : Collector} {last now : Nat}

theorem Punctual.later (h : d.Punctual settings last) (hle : last ≤ now) :
    d.Punctual settings now :=
  ⟨h.timely.later hle, h.dueBy.mono (Nat.add_le_add_right hle _), h.timeout_eq⟩

theorem Punctual.add (h : d.Punctual settings last) (hle : last ≤ now) (sink : Sink σ) (r : Record)
    (s : σ) : (d.add sink r now s).after.Punctual settings now := by
  have htimely := h.timely.add hle sink r s
  have hpushed : (d.collected r now).DueBy (now + settings.collectionTimeout) := by
    refine (h.later hle).dueBy.push r.key (Nat.le_of_eq ?_) r.payload
    rw [h.timeout_eq]
  rw [add_after] at htimely ⊢
  refine ⟨htimely, ?_, h.timeout_eq⟩
  show (d.filled r now).2.DueBy _
  rw [filled]
  split
  · exact hpushed
  · exact hpushed.filter _

theorem Punctual.sweep (h : d.Punctual settings last) (hle : last ≤ now) (sink : Sink σ) (s : σ) :
    (d.sweep sink now s).after.Punctual settings now :=
  ⟨timely_sweep d sink now s, (h.later hle).dueBy.filter _, h.timeout_eq⟩

/-- Right after a sweep, and even if the sink panicked in it, the collector looks again at the
earliest deadline, or one timeout later if nothing is open. -/
theorem Punctual.sweep_nextWake (h : d.Punctual settings last) (hle : last ≤ now) (sink : Sink σ)
    (s : σ) :
    (d.sweep sink now s).after.nextWake =
      (d.sweep sink now s).after.batches.deadlines.min?.getD
        (now + settings.collectionTimeout) := by
  have hwithin := (h.sweep hle sink s).dueBy
  rw [← h.timeout_eq] at hwithin ⊢
  exact earliest_eq hwithin

theorem Punctual.tick (h : d.Punctual settings last) (hle : last ≤ now) (sink : Sink σ)
    (flushed : Bool) (s : σ) : (d.tick sink flushed now s).after.Punctual settings now := by
  rw [Collector.tick]
  split
  · exact h.sweep hle sink s
  · exact h.later hle

/-- After a tick the time to look again has not passed, whether the tick swept or not. -/
theorem le_tick_nextWake (d : Collector) (sink : Sink σ) (flushed : Bool) (now : Nat) (s : σ) :
    now ≤ (d.tick sink flushed now s).after.nextWake := by
  rw [tick]
  split
  · rw [sweep_after]
    show now ≤ (d.overdue now).2.entries.foldl _ _
    refine List.foldlRecOn _ _ (Nat.le_add_right now d.timeout) fun wake hwake e he => ?_
    exact Nat.le_min.2 ⟨hwake, OpenBatches.dueFrom_extractAll d.batches now e he⟩
  · next hskip =>
    simp only [Bool.or_eq_true, decide_eq_true_eq, not_or, Nat.not_lt] at hskip
    exact hskip.2

theorem Punctual.drainQueue (h : d.Punctual settings last) (hle : last ≤ now) (sink : Sink σ)
    (queue : List Record) (s : σ) :
    (d.drainQueue sink now queue s).after.Punctual settings now := by
  induction queue generalizing d last s with
  | nil => exact h.later hle
  | cons r rest ih => exact ih (h.add hle sink r s) (Nat.le_refl now) _

theorem Punctual.shutdown (h : d.Punctual settings last) (hle : last ≤ now) (sink : Sink σ)
    (queue : List Record) (s : σ) : (d.shutdown sink queue now s).after.Punctual settings now := by
  have hdrained := h.drainQueue hle sink queue s
  exact ⟨⟨hdrained.timely.wake_le, OpenBatches.dueFrom_empty _⟩, OpenBatches.dueBy_empty _,
    hdrained.timeout_eq⟩

end Steps

/-- Whether an operation sweeps. -/
def Sweeps (d : Collector) : Operation → Prop
  | .sweep _ => True
  | .tick flushed now => flushed = true ∨ d.nextWake < now
  | .add _ _ | .shutdown _ _ => False

end Collector

/-! ## Histories -/

/-- The time of the last of several operations, or when it all began if there are none. -/
def Operation.lastTime (begun : Nat) (ops : List Operation) : Nat :=
  (ops.getLast?.map (·.now)).getD begun

theorem Operation.lastTime_cons (begun : Nat) (op : Operation) (rest : List Operation) :
    Operation.lastTime begun (op :: rest) = Operation.lastTime op.now rest := by
  rw [lastTime, lastTime, List.getLast?_cons]
  cases rest.getLast? with
  | none => rfl
  | some last => rfl

namespace History

variable {σ : Type}

section Steps

variable {settings : Settings} {h : History σ} {last : Nat}

/-- Every operation keeps the invariant, wherever the sink panics in it. -/
theorem punctual_perform (punctual : h.collector.Punctual settings last) (sink : Sink σ)
    (op : Operation) (hle : last ≤ op.now) :
    (h.perform sink op).collector.Punctual settings op.now := by
  cases op with
  | add r now => exact punctual.add hle sink r h.sink
  | tick flushed now => exact punctual.tick hle sink flushed h.sink
  | sweep now => exact punctual.sweep hle sink h.sink
  | shutdown inbox now =>
    rw [perform_shutdown]
    exact punctual.shutdown hle sink inbox.queue.toList h.sink

theorem punctual_run (punctual : h.collector.Punctual settings last) (sink : Sink σ)
    (ops : List Operation) (ordered : (last :: ops.map (·.now)).Pairwise (· ≤ ·)) :
    (h.run sink ops).collector.Punctual settings (Operation.lastTime last ops) := by
  induction ops generalizing h last with
  | nil => exact punctual
  | cons op rest ih =>
    obtain ⟨hlast, hrest⟩ := List.pairwise_cons.1 ordered
    have hle : last ≤ op.now := hlast op.now (List.mem_cons_self ..)
    rw [Operation.lastTime_cons]
    exact ih (punctual_perform punctual sink op hle) hrest

/-- An operation that sweeps settles the time to look again. -/
theorem perform_nextWake (punctual : h.collector.Punctual settings last) (sink : Sink σ)
    {op : Operation} (hle : last ≤ op.now) (sweeps : h.collector.Sweeps op) :
    (h.perform sink op).collector.nextWake =
      (h.perform sink op).collector.batches.deadlines.min?.getD
        (op.now + settings.collectionTimeout) := by
  cases op with
  | add r now => exact sweeps.elim
  | sweep now => exact punctual.sweep_nextWake hle sink h.sink
  | shutdown inbox now => exact sweeps.elim
  | tick flushed now =>
    have hsweep : (flushed || decide (h.collector.nextWake < now)) = true := by
      simpa [Collector.Sweeps] using sweeps
    have hsame : (h.collector.tick sink flushed now h.sink).after =
        (h.collector.sweep sink now h.sink).after := by rw [Collector.tick, if_pos hsweep]
    show (h.collector.tick sink flushed now h.sink).after.nextWake =
      (h.collector.tick sink flushed now h.sink).after.batches.deadlines.min?.getD _
    rw [hsame]
    exact punctual.sweep_nextWake hle sink h.sink

end Steps

/-- **A collector always looks again in time.** Let a collector do one thing after another, at times
that do not decrease, with a sink that may panic at any batch. Then the time to look again is at no
moment after a deadline, and at most one timeout after the last operation. Whatever swept last, be
it told to or by a tick, has settled it at the earliest deadline that is left, or one timeout later
if nothing is open; and no tick leaves it in the past. -/
theorem run_nextWake (settings : Settings) (sink : Sink σ) (begun : Nat) (s : σ)
    (ops : List Operation) (ordered : (begun :: ops.map (·.now)).Pairwise (· ≤ ·)) :
    let d := ((start settings begun s).run sink ops).collector
    (∀ e ∈ d.batches.entries, d.nextWake ≤ e.2.deadline) ∧
      d.nextWake ≤ Operation.lastTime begun ops + settings.collectionTimeout ∧
      ∀ before op, ops = before ++ [op] →
        (((start settings begun s).run sink before).collector.Sweeps op →
          d.nextWake = d.batches.deadlines.min?.getD (op.now + settings.collectionTimeout)) ∧
        ∀ flushed now, op = .tick flushed now → now ≤ d.nextWake := by
  intro d
  have hpunctual : d.Punctual settings (Operation.lastTime begun ops) :=
    punctual_run (h := start settings begun s) (Collector.punctual_start settings begun) sink ops
      ordered
  refine ⟨hpunctual.timely.dueFrom, ?_, fun before op hops => ?_⟩
  · rw [← hpunctual.timeout_eq]
    exact hpunctual.timely.wake_le
  · subst hops
    have hd : d = (((start settings begun s).run sink before).perform sink op).collector := by
      rw [show d = ((start settings begun s).run sink (before ++ [op])).collector from rfl, run,
        List.foldl_append]
      rfl
    rw [List.map_append, ← List.cons_append] at ordered
    obtain ⟨hbefore, -, hlater⟩ := List.pairwise_append.1 ordered
    have hstate := punctual_run (h := start settings begun s)
      (Collector.punctual_start settings begun) sink before hbefore
    have hle : Operation.lastTime begun before ≤ op.now := by
      refine hlater _ ?_ op.now (List.mem_singleton_self _)
      rw [Operation.lastTime]
      cases hlast : before.getLast? with
      | none => exact List.mem_cons_self ..
      | some last =>
        exact List.mem_cons_of_mem _ (List.mem_map_of_mem (List.mem_of_getLast? hlast))
    rw [hd]
    refine ⟨fun sweeps => perform_nextWake hstate sink hle sweeps, fun flushed now htick => ?_⟩
    subst htick
    exact Collector.le_tick_nextWake ..

/-- Operations with a sink that refuses the batches of one key: it panics in the tick that finds one
overdue, and again on a full one. The tick before looks too early, and the first sweep looks at a
batch in the moment in which it is due. -/
def startledHistory : List Operation :=
  [.add ⟨"a", .null⟩ 0, .add ⟨"b", .null⟩ 3, .tick false 9, .tick false 11, .add ⟨"a", .null⟩ 12,
    .add ⟨"a", .bool true⟩ 12, .sweep 13, .sweep 30]

theorem run_nextWake_startledHistory :
    let settings : Settings := { maxBatchSize := 2, collectionTimeout := 10 }
    let sink := Rehearsal.refusingSink ["a"]
    let after := fun n => ((start settings 0 ()).run sink (startledHistory.take n)).collector
    (0 :: (startledHistory.take 4).map (·.now)).Pairwise (· ≤ ·) ∧
      (List.range 9).map (fun n => (after n).nextWake) = [10, 10, 10, 10, 13, 13, 13, 13, 40] ∧
      ((after 3).tick sink false 11 ()).result = .error "flush refuses Batch to a of size 1" ∧
      (after 4).batches.deadlines = [13] ∧
      (after 4).nextWake = (after 4).batches.deadlines.min?.getD (11 + 10) ∧
      (11 ≤ (after 4).nextWake ∧ (after 4).nextWake ≤ 11 + 10) := by
  intro settings sink after
  have hordered : (0 :: (startledHistory.take 4).map (·.now)).Pairwise (· ≤ ·) := by decide
  obtain ⟨-, hsoon, hlast⟩ := run_nextWake settings sink 0 () (startledHistory.take 4) hordered
  obtain ⟨hsettled, hpast⟩ := hlast (startledHistory.take 3) (.tick false 11) rfl
  have hsweeps : (after 3).Sweeps (.tick false 11) := .inr (by decide)
  exact ⟨hordered, by decide, by decide, by decide, hsettled hsweeps, hpast false 11 rfl, hsoon⟩

end History

end EventBatching
