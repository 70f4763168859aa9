import EventBatching.Proofs.Collector.Compartments
import Mathlib.Data.List.Forall2

/-!
# No batch waits for long

A collector sleeps until its time to look again, but never for less than a millisecond. If every
sleep ends when it should and the rounds take no time, a batch is handed over at most one collection
timeout and that millisecond after its first record came; and a sweep never hands over a batch
before its timeout has passed.

The time at which the first record of a batch came is not kept anywhere in a collector. So the
records of a key are taken with their times, in the order in which they came, and cut into the
batches that were handed over: the first record of a part is the first record of its batch.

* `Collector.Prompt` says that the rounds of a run come when the sleeps of the collector end, or
  before.
* `Collector.handovers` are the batches that rounds hand over, with the time and with whether a
  sweep did it; `Handover.InTime` says of one of them that it was in time.
* `Compartment.Dated` is the invariant: the deadline of an open batch is one timeout after the first
  of the records that wait.
* `Collector.handovers_inTime` is the bound for every run.
-/

namespace EventBatching

/-! ## Hand-overs -/

/-- A batch that was handed over. -/
structure Handover where
  /-- The batch. -/
  batch : Batch
  /-- The time. -/
  now : Nat
  /-- Whether a sweep handed it over. -/
  swept : Bool

/-- A batch whose records came at known times was handed over in time. -/
structure Handover.InTime (timeout : Nat) (h : Handover) (part : List (Payload × Nat)) : Prop where
  /-- The records are those of the batch. -/
  items : h.batch.items = part.map (·.1)
  /-- The batch had a first record and left in time after it, and not too early if it was swept. -/
  bounds : ∃ first ∈ part.head?, h.now ≤ first.2 + timeout + Collector.minWait ∧
    (h.swept = true → first.2 + timeout < h.now)

/-- The records of a key that a round brings, with the time. -/
def Collector.Round.arrivals (key : String) (round : Round) : List (Payload × Nat) :=
  (round.forKey key).record.toList.map fun r => (r.payload, round.now)

namespace Compartment

/-- What a round hands over. -/
def handovers (c : Compartment) (round : Collector.Round) : List Handover :=
  (c.offerAny round.record round.now).1.map (⟨·, round.now, false⟩) ++
    ((c.offerAny round.record round.now).2.sweep round.now).1.map (⟨·, round.now, true⟩)

/-! ## The deadline of the open batch -/

/-- The open batch has the records that wait, and is due one timeout after the first of them. -/
structure Dated (c : Compartment) (waiting : List (Payload × Nat)) : Prop where
  /-- The payloads of the open batch are those that wait. -/
  items : (c.batch.map (·.items.toList)).getD [] = waiting.map (·.1)
  /-- The deadline is one timeout after the first of them came. -/
  deadline : c.batch.map (·.deadline) = waiting.head?.map (·.2 + c.timeout)

/-- The open batch is not overdue for longer than the shortest sleep. -/
def Fresh (c : Compartment) (now : Nat) : Prop :=
  ∀ b ∈ c.batch, now ≤ b.deadline + Collector.minWait

/-- A part of what came was handed over in time, and the rest waits. -/
structure Cut (timeout : Nat) (came : List (Payload × Nat)) (handed : List Handover)
    (parts : List (List (Payload × Nat))) (rest : List (Payload × Nat)) : Prop where
  /-- The parts and the rest make up what came. -/
  came_eq : came = parts.flatten ++ rest
  /-- Every part is a batch that was handed over in time. -/
  inTime : List.Forall₂ (Handover.InTime timeout) handed parts

theorem Cut.trans {timeout : Nat} {came more rest rest' : List (Payload × Nat)}
    {handed handed' : List Handover} {parts parts' : List (List (Payload × Nat))}
    (h : Cut timeout came handed parts rest)
    (h' : Cut timeout (rest ++ more) handed' parts' rest') :
    Cut timeout (came ++ more) (handed ++ handed') (parts ++ parts') rest' where
  came_eq := by
    rw [h.came_eq, List.append_assoc, h'.came_eq, List.flatten_append, List.append_assoc]
  inTime := List.rel_append h.inTime h'.inTime

@[simp] theorem offerAny_timeout (c : Compartment) (record : Option Record) (now : Nat) :
    (c.offerAny record now).2.timeout = c.timeout := by
  cases record with
  | none => rfl
  | some r =>
    simp only [offerAny, offer, add]
    split
    · split
      · rfl
      · rfl
    · rfl

section Steps

variable {c : Compartment} {waiting : List (Payload × Nat)} {now : Nat}

/-- A record that came goes to the end of what waits, and is the first of it if nothing waited. -/
theorem Dated.collect (dated : c.Dated waiting) (p : Payload) (now : Nat) :
    Dated { c with batch := some ((c.batch.getD ⟨.empty, now + c.timeout⟩).push p) }
      (waiting ++ [(p, now)]) := by
  obtain ⟨hitems, hdeadline⟩ := dated
  cases hb : c.batch with
  | none =>
    have hnil : waiting = [] := by
      rw [hb] at hdeadline
      cases waiting with
      | nil => rfl
      | cons first rest => simp at hdeadline
    subst hnil
    constructor <;> simp [OpenBatch.push]
  | some b =>
    rw [hb] at hitems hdeadline
    cases waiting with
    | nil => simp at hdeadline
    | cons first rest => constructor <;> simp_all [OpenBatch.push]

/-- A batch that is closed while it is dated is handed over in time. -/
theorem Dated.inTime {b : OpenBatch} (dated : c.Dated waiting) (open_eq : c.batch = some b)
    (fresh : now ≤ b.deadline + Collector.minWait) {swept : Bool}
    (late : swept = true → b.deadline < now) :
    Handover.InTime c.timeout ⟨b.close c.key, now, swept⟩ waiting := by
  obtain ⟨hitems, hdeadline⟩ := dated
  rw [open_eq] at hitems hdeadline
  refine ⟨hitems, ?_⟩
  cases waiting with
  | nil => simp at hdeadline
  | cons first rest =>
    have hfirst : b.deadline = first.2 + c.timeout := by simpa using hdeadline
    rw [hfirst] at fresh late
    exact ⟨first, rfl, fresh, late⟩

theorem Dated.closed (c : Compartment) : Dated { c with batch := none } [] := ⟨rfl, rfl⟩

/-- A record of the key leaves the batch open or hands it over in time. -/
theorem Dated.add (dated : c.Dated waiting) (fresh : c.Fresh now) (p : Payload) :
    ∃ parts rest, Cut c.timeout (waiting ++ [(p, now)])
        ((c.add p now).1.map (⟨·, now, false⟩)) parts rest ∧
      (c.add p now).2.Dated rest ∧ (c.add p now).2.Fresh now := by
  have hcollected := dated.collect p now
  have hfresh : now ≤ ((c.batch.getD ⟨.empty, now + c.timeout⟩).push p).deadline +
      Collector.minWait := by
    cases hb : c.batch with
    | none => simp [OpenBatch.push, Nat.add_assoc]
    | some b => exact fresh b hb
  rw [Compartment.add]
  split
  · refine ⟨[], waiting ++ [(p, now)], ⟨rfl, .nil⟩, hcollected, ?_⟩
    intro b hb
    obtain rfl := Option.some.inj hb
    exact hfresh
  · refine ⟨[waiting ++ [(p, now)]], [], ⟨by simp, .cons ?_ .nil⟩, Dated.closed c, ?_⟩
    · exact hcollected.inTime rfl hfresh (fun h => Bool.noConfusion h)
    · intro b hb
      exact absurd hb (by simp)

theorem Dated.offerAny (dated : c.Dated waiting) (round : Collector.Round)
    (fresh : c.Fresh round.now) :
    ∃ parts rest, Cut c.timeout (waiting ++ round.arrivals c.key)
        ((c.offerAny round.record round.now).1.map (⟨·, round.now, false⟩)) parts rest ∧
      (c.offerAny round.record round.now).2.Dated rest ∧
      (c.offerAny round.record round.now).2.Fresh round.now := by
  have hnone : ∃ parts rest, Cut c.timeout (waiting ++ []) [] parts rest ∧ c.Dated rest ∧
      c.Fresh round.now :=
    ⟨[], waiting, ⟨List.append_nil _, .nil⟩, dated, fresh⟩
  obtain ⟨record, now⟩ := round
  cases record with
  | none => exact hnone
  | some r =>
    by_cases hr : r.key = c.key
    · have harrivals : Collector.Round.arrivals c.key ⟨some r, now⟩ = [(r.payload, now)] := by
        simp [Collector.Round.arrivals, Collector.Round.forKey, Option.filter, hr]
      rw [harrivals, Compartment.offerAny, offer_own hr]
      exact dated.add fresh r.payload
    · have harrivals : Collector.Round.arrivals c.key ⟨some r, now⟩ = [] := by
        simp [Collector.Round.arrivals, Collector.Round.forKey, Option.filter, hr]
      rw [harrivals, Compartment.offerAny, offer_other hr]
      exact hnone

/-- A sweep leaves the batch open or hands it over in time. -/
theorem Dated.sweep (dated : c.Dated waiting) (fresh : c.Fresh now) :
    ∃ parts rest, Cut c.timeout waiting ((c.sweep now).1.map (⟨·, now, true⟩)) parts rest ∧
      (c.sweep now).2.Dated rest := by
  obtain ⟨key, batch, timeout, maxBatchSize⟩ := c
  cases batch with
  | none => exact ⟨[], waiting, ⟨rfl, .nil⟩, dated⟩
  | some b =>
    by_cases hdue : b.deadline < now
    · have hin : Handover.InTime timeout ⟨b.close key, now, true⟩ waiting :=
        dated.inTime rfl (fresh b rfl) (fun _ => hdue)
      simp only [Compartment.sweep, Option.filter, hdue, decide_true]
      exact ⟨[waiting], [], ⟨by simp, .cons hin .nil⟩, rfl, rfl⟩
    · simp only [Compartment.sweep, Option.filter, hdue, decide_false]
      exact ⟨[], waiting, ⟨rfl, .nil⟩, dated⟩

/-- What a round hands over, it hands over in time. -/
theorem Dated.receive (dated : c.Dated waiting) (round : Collector.Round)
    (fresh : c.Fresh round.now) :
    ∃ parts rest, Cut c.timeout (waiting ++ round.arrivals c.key) (c.handovers round) parts rest ∧
      (c.receive round.record round.now).2.Dated rest := by
  obtain ⟨parts, rest, hcut, hdated, hfresh⟩ := dated.offerAny round fresh
  obtain ⟨parts', rest', hcut', hdated'⟩ := hdated.sweep hfresh
  rw [offerAny_timeout, ← List.append_nil rest] at hcut'
  have hboth := hcut.trans hcut'
  rw [List.append_nil] at hboth
  exact ⟨parts ++ parts', rest', hboth, hdated'⟩

end Steps

end Compartment

/-! ## What rounds hand over -/

namespace Collector

variable {σ : Type}

/-- Folds in a record if one came. -/
def addAny (d : Collector) (sink : Sink σ) (record : Option Record) (now : Nat) (s : σ) :
    Effect σ Collector Bool :=
  match record with
  | none => ⟨d, s, [], .ok false⟩
  | some r => d.add sink r now s

/-- What a round hands over: the batch that its record made full, and then what it sweeps. -/
def roundHandovers (d : Collector) (sink : Sink σ) (round : Round) (s : σ) : List Handover :=
  let added := d.addAny sink round.record round.now s
  let swept := match added.result with
    | .ok full => (added.after.tick sink full round.now added.sink).flushed
    | .error _ => []
  added.flushed.map (⟨·, round.now, false⟩) ++ swept.map (⟨·, round.now, true⟩)

/-- What rounds hand over. -/
def handovers (d : Collector) (sink : Sink σ) : List Round → σ → List Handover
  | [], _ => []
  | round :: rest, s =>
    let received := d.receive sink round.record round.now s
    d.roundHandovers sink round s ++ handovers received.after sink rest received.sink

/-- Every round comes after the one before it, and not later than the sleep between them may
last. -/
def Prompt (d : Collector) (sink : Sink σ) (last : Nat) : List Round → σ → Prop
  | [], _ => True
  | round :: rest, s =>
    last ≤ round.now ∧ round.now ≤ last + d.waitFor last ∧
      let received := d.receive sink round.record round.now s
      Prompt received.after sink round.now rest received.sink

instance decidablePrompt (sink : Sink σ) : (d : Collector) → (last : Nat) → (rounds : List Round) →
    (s : σ) → Decidable (d.Prompt sink last rounds s)
  | _, _, [], _ => isTrue trivial
  | d, _, round :: rest, s =>
    have := decidablePrompt sink (d.receive sink round.record round.now s).after round.now rest
      (d.receive sink round.record round.now s).sink
    inferInstanceAs (Decidable (_ ∧ _ ∧ Prompt _ _ _ _ _))

/-- The records of a key that rounds bring, with their times. -/
def arrivals (key : String) (rounds : List Round) : List (Payload × Nat) :=
  rounds.flatMap (·.arrivals key)

theorem roundHandovers_batches (d : Collector) (sink : Sink σ) (round : Round) (s : σ) :
    (d.roundHandovers sink round s).map (·.batch) =
      (d.receive sink round.record round.now s).flushed := by
  obtain ⟨record, now⟩ := round
  have hbatches : ∀ (bs : List Batch) (swept : Bool),
      (bs.map fun b => (⟨b, now, swept⟩ : Handover)).map (·.batch) = bs := by
    intro bs swept
    rw [List.map_map]
    exact List.map_id bs
  rw [roundHandovers, List.map_append, hbatches, hbatches]
  cases record with
  | none => rfl
  | some r =>
    rw [receive, addAny]
    split
    · next hresult => simp [hresult]
    · next hresult => simp [hresult]

theorem handovers_batches (d : Collector) (sink : Sink σ) (rounds : List Round) (s : σ) :
    (d.handovers sink rounds s).map (·.batch) = (d.visits sink rounds s).flatMap (·.flushed) := by
  induction rounds generalizing d s with
  | nil => rfl
  | cons round rest ih =>
    simp only [handovers, visits, List.map_append, List.flatMap_cons, roundHandovers_batches, ih]

section Rounds

variable {sink : Sink σ} {d : Collector} {last : Nat}

/-- What a round hands over is what its record made full and whatever is overdue after that. -/
theorem roundHandovers_of_timely (returns : sink.Returns) (h : d.Timely last) (round : Round)
    (hle : last ≤ round.now) (s : σ) :
    d.roundHandovers sink round s =
      (d.watcher.addAny round.record round.now).1.map (⟨·, round.now, false⟩) ++
        ((d.watcher.addAny round.record round.now).2.extractAll
          fun b => b.deadline < round.now).1.map (⟨·, round.now, true⟩) := by
  obtain ⟨record, now⟩ := round
  cases record with
  | none =>
    obtain ⟨hflushed, -⟩ := tick_of_timely returns h false now s
    simp only [roundHandovers, addAny, hflushed]
    rfl
  | some r =>
    have hadded := h.add hle sink r s
    rw [add_of_returns returns] at hadded
    obtain ⟨hflushed, -⟩ := tick_of_timely returns hadded (d.filled r now).1.isSome now
      (sink.feed (d.filled r now).1.toList s)
    simp only [roundHandovers, addAny, add_of_returns returns, Watcher.addAny, watcher_add]
    rw [hflushed]
    rfl

theorem ofCategory_handovers (key : String) (bs : List Batch) (now : Nat) (swept : Bool) :
    (bs.map fun b => (⟨b, now, swept⟩ : Handover)).filter (·.batch.category = key) =
      (Batch.ofCategory key bs).map (⟨·, now, swept⟩) := by
  rw [List.filter_map]
  rfl

/-- What a round hands over of a key is what its compartment hands over. -/
theorem roundHandovers_compartment (returns : sink.Returns) (h : d.Timely last)
    (distinct : d.batches.Distinct) (round : Round) (hle : last ≤ round.now) (s : σ)
    (key : String) :
    (d.roundHandovers sink round s).filter (·.batch.category = key) =
      (d.watcher.compartment key).handovers round := by
  have hadded := d.watcher.addAny_compartment round.record round.now key
  have hoverdue := Watcher.overdue_compartment
    (w := { d.watcher with batches := (d.watcher.addAny round.record round.now).2 })
    (Watcher.addAny_distinct distinct round.record round.now) round.now key
  rw [roundHandovers_of_timely returns h round hle, List.filter_append, ofCategory_handovers,
    ofCategory_handovers, Compartment.handovers, ← hadded, ← hoverdue]

/-- When a round comes that is not late, nothing is overdue for longer than the shortest sleep. -/
theorem Timely.dueFrom_round (h : d.Timely last) (due : d.batches.DueFrom last) {now : Nat}
    (hwait : now ≤ last + d.waitFor last) : d.batches.DueFrom (now - minWait) := by
  rw [waitFor] at hwait
  by_cases hshort : d.nextWake - last ≤ minWait
  · -- the shortest sleep: the last round left nothing that was overdue then
    exact due.mono (by omega)
  · -- a longer sleep ends at the time to look again
    exact h.dueFrom.mono (by omega)

end Rounds

/-! ## Runs -/

theorem fresh_of_dueFrom {d : Collector} {now : Nat} (h : d.batches.DueFrom (now - minWait))
    (key : String) : (d.watcher.compartment key).Fresh now := by
  intro b hb
  have hdue := h.get? hb
  omega

/-- In rounds that are not late, the records of every key are cut into the batches that were handed
over, each of them in time, and those that are still open. -/
theorem handovers_cut {sink : Sink σ} (returns : sink.Returns) {d : Collector} {last : Nat}
    (h : d.Timely last) (due : d.batches.DueFrom last) (distinct : d.batches.Distinct)
    (rounds : List Round) (s : σ) (prompt : d.Prompt sink last rounds s) (key : String)
    {waiting : List (Payload × Nat)} (dated : (d.watcher.compartment key).Dated waiting) :
    ∃ parts rest, Compartment.Cut d.timeout (waiting ++ arrivals key rounds)
        ((d.handovers sink rounds s).filter (·.batch.category = key)) parts rest ∧
      ((d.loop sink rounds s).after.watcher.compartment key).Dated rest := by
  -- on the rounds; no batch is overdue after a round, so that none is for long when the next comes
  induction rounds generalizing d last s waiting with
  | nil => exact ⟨[], waiting, ⟨List.append_nil _, .nil⟩, dated⟩
  | cons round rest ih =>
    obtain ⟨hle, hwait, hprompt⟩ := prompt
    obtain ⟨-, full, hresult⟩ := receive_of_returns returns d round.record round.now s
    have hround := receive_of_timely returns h hle round.record s
    have hafter : (d.receive sink round.record round.now s).after.watcher =
        (d.watcher.receive round.record round.now).2 := by rw [hround]
    have hdue : (d.receive sink round.record round.now s).after.batches.DueFrom round.now := by
      have hwatched := d.watcher.dueFrom_receive round.record round.now
      rwa [← hafter] at hwatched
    have htimeout : (d.receive sink round.record round.now s).after.timeout = d.timeout :=
      congrArg Watcher.timeout hafter
    obtain ⟨parts, left, hcut, hdated⟩ :=
      dated.receive round (fresh_of_dueFrom (h.dueFrom_round due hwait) key)
    rw [← Watcher.receive_compartment distinct, ← hafter] at hdated
    obtain ⟨parts', left', hcut', hdated'⟩ :=
      ih (h.receive hle sink round.record s) hdue (receive_distinct distinct ..) _ hprompt hdated
    rw [htimeout] at hcut'
    rw [← roundHandovers_compartment returns h distinct round hle s] at hcut
    refine ⟨parts ++ parts', left', ?_, ?_⟩
    · have hboth := hcut.trans hcut'
      rw [List.append_assoc] at hboth
      rw [handovers, List.filter_append]
      exact hboth
    · simp only [loop, hresult]
      exact hdated'

/-- Rounds that are not late do not go back in time. -/
theorem Prompt.ordered {sink : Sink σ} {d : Collector} {last : Nat} {rounds : List Round} {s : σ}
    (prompt : d.Prompt sink last rounds s) :
    (last :: rounds.map (·.now)).Pairwise (· ≤ ·) := by
  induction rounds generalizing d last s with
  | nil => exact List.pairwise_singleton _ _
  | cons round rest ih =>
    obtain ⟨hle, -, hprompt⟩ := prompt
    have hrest := ih hprompt
    obtain ⟨hround, -⟩ := List.pairwise_cons.1 hrest
    refine List.pairwise_cons.2 ⟨?_, hrest⟩
    intro t ht
    rcases List.mem_cons.1 ht with rfl | ht
    · exact hle
    · exact Nat.le_trans hle (hround t ht)

/-- **No batch waits for long.** Let every round of a new collector come when its sleep ends or
before. Then the records of every key, in the order in which they came, are those of the batches of
the key that were handed over and of the one that is still open; each batch was handed over at most
one timeout and the shortest sleep after its first record came, and more than one timeout after it
if a sweep did it. After every round, no batch is open whose deadline was before the round. -/
theorem handovers_inTime {sink : Sink σ} (returns : sink.Returns) (settings : Settings)
    (begun : Nat) (rounds : List Round) (s : σ)
    (prompt : (start settings begun).Prompt sink begun rounds s) :
    let d := start settings begun
    let looped := d.loop sink rounds s
    (∀ key, ∃ parts rest, arrivals key rounds = parts.flatten ++ rest ∧
        List.Forall₂ (Handover.InTime settings.collectionTimeout)
          ((d.handovers sink rounds s).filter (·.batch.category = key)) parts ∧
        looped.after.batches.itemsOf key = rest.map (·.1)) ∧
      (d.handovers sink rounds s).map (·.batch) = looped.flushed ∧
      ∀ v ∈ d.visits sink rounds s, v.batches.DueFrom v.now := by
  intro d looped
  have htimely : d.Timely begun := timely_start settings begun
  refine ⟨fun key => ?_, ?_, ?_⟩
  · have hnothing : (d.watcher.compartment key).Dated [] := ⟨rfl, rfl⟩
    obtain ⟨parts, rest, hcut, hdated⟩ := handovers_cut returns htimely
      (OpenBatches.dueFrom_empty begun) OpenBatches.distinct_empty rounds s prompt key hnothing
    exact ⟨parts, rest, hcut.came_eq, hcut.inTime, hdated.items⟩
  · rw [handovers_batches]
    exact (loop_visits returns d rounds s).1.symm
  · rw [visits_of_timely returns htimely rounds prompt.ordered]
    exact Watcher.dueFrom_of_mem_visits _ rounds

/-- Rounds in which the collector wakes at a deadline, when nothing is overdue yet, and sleeps for
the shortest time once more. -/
def lastMoments : List Round :=
  [⟨some ⟨"a", .null⟩, 100⟩, ⟨some ⟨"b", .null⟩, 200⟩, ⟨some ⟨"b", .bool true⟩, 300⟩, ⟨none, 5100⟩,
    ⟨none, 6100⟩]

theorem handovers_inTime_lastMoments :
    let settings : Settings := { maxBatchSize := 2, collectionTimeout := 5000 }
    let d := start settings 0
    Sink.keep.Returns ∧ d.Prompt Sink.keep 0 lastMoments [] ∧
      (d.handovers Sink.keep lastMoments []).map (fun h => (h.batch.label, h.now, h.swept)) =
        [("Batch to b of size 2", 300, false), ("Batch to a of size 1", 6100, true)] ∧
      ∃ parts rest, arrivals "a" lastMoments = parts.flatten ++ rest ∧
        List.Forall₂ (Handover.InTime 5000)
          ((d.handovers Sink.keep lastMoments []).filter (·.batch.category = "a")) parts ∧
        (d.loop Sink.keep lastMoments []).after.batches.itemsOf "a" = rest.map (·.1) := by
  refine ⟨Sink.keep_returns, by decide, by decide, ?_⟩
  exact (handovers_inTime Sink.keep_returns { maxBatchSize := 2, collectionTimeout := 5000 } 0
    lastMoments [] (by decide)).1 "a"

end Collector

end EventBatching
