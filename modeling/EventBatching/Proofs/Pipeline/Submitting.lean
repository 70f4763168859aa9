import EventBatching.Pipeline
import EventBatching.Proofs.Collector.Draining

/-!
# Records that are submitted one after another

A collector that has read what was queued takes a record as soon as it is submitted, and has read
everything again afterwards. So what one submit leaves is what the next one finds.

* `Pipeline.Settled` says that a collector has read what was queued. `Pipeline.Settled.submit` says
  that it stays so, and `Pipeline.Settled.settle_eq` that nothing happens meanwhile.
* `Pipeline.submit_oneMore` says that every record is counted once, as accepted or as dropped.
* `Pipeline.submitAll_of_idle` says that without a collector nothing else changes.
-/

namespace EventBatching

/-- One more record is counted, as accepted or as dropped. -/
def Counters.OneMore (c c' : Counters) : Prop :=
  (c'.accepted = c.accepted + 1 ∧ c'.dropped = c.dropped) ∨
    (c'.accepted = c.accepted ∧ c'.dropped = c.dropped + 1)

namespace Pipeline

variable {π ρ : Type} {d : Downstream π ρ} {p : Pipeline π ρ}

/-! ## Collectors that have read everything -/

/-- A collector that runs has read what was queued and takes what comes as it comes. -/
def Settled (p : Pipeline π ρ) : Prop :=
  p.collector.isSome = true → p.reading = true ∧ p.inbox.queue = .empty

/-- Submits records one after another. -/
def submitAll (d : Downstream π ρ) (rs : List Record) (p : Pipeline π ρ) : Pipeline π ρ :=
  rs.foldl (fun p r => p.submit d r) p

@[simp] theorem submitAll_nil : p.submitAll d [] = p := rfl

@[simp] theorem submitAll_append (rs rs' : List Record) :
    p.submitAll d (rs ++ rs') = (p.submitAll d rs).submitAll d rs' := List.foldl_append

theorem Settled.perform (reading : p.reading = true) (read : p.inbox.queue = .empty)
    (collector : Collector) (rounds : List Collector.Round) :
    (p.perform d collector rounds).Settled := by
  unfold Pipeline.perform
  simp only
  split
  · intro h
    exact absurd h (by simp [conclude])
  · intro _
    exact ⟨reading, read⟩

theorem settled_settle (d : Downstream π ρ) (p : Pipeline π ρ) : (p.settle d).Settled := by
  rw [settle]
  split
  · next hnone =>
    intro h
    rw [hnone] at h
    exact absurd h (by simp)
  · exact Settled.perform rfl rfl _ _

/-- A collector that has read what was queued has nothing to do. -/
theorem Settled.settle_eq (h : p.Settled) (d : Downstream π ρ) : p.settle d = p := by
  rw [settle]
  split
  · rfl
  · next collector hcollector =>
    obtain ⟨hreading, hqueue⟩ := h (by rw [hcollector]; rfl)
    rw [hqueue, Arrivals.toList_empty, List.map_nil]
    simp only [Pipeline.perform, Collector.loop, Option.isSome_none, Bool.false_eq_true, if_false]
    rw [← hreading, ← hqueue, ← hcollector]

theorem Settled.submit (h : p.Settled) (d : Downstream π ρ) (r : Record) :
    (p.submit d r).Settled := by
  unfold Pipeline.submit
  simp only
  split
  · exact settled_settle d _
  · next hidle =>
    intro hsome
    have hcollector : p.collector.isSome = true := hsome
    have hawaiting : p.isAwaiting = true := by
      rw [isAwaiting, (h hcollector).1, hcollector]
      rfl
    exact absurd hawaiting hidle

theorem Settled.submitAll (h : p.Settled) (d : Downstream π ρ) (rs : List Record) :
    (p.submitAll d rs).Settled := by
  induction rs generalizing p with
  | nil => exact h
  | cons r rest ih => exact ih (h.submit d r)

/-! ## Counting records -/

theorem perform_counts (d : Downstream π ρ) (collector : Collector)
    (rounds : List Collector.Round) (p : Pipeline π ρ) :
    (p.perform d collector rounds).inbox.accepted = p.inbox.accepted ∧
      (p.perform d collector rounds).inbox.dropped = p.inbox.dropped := by
  unfold Pipeline.perform
  simp only
  split
  · exact ⟨rfl, rfl⟩
  · exact ⟨rfl, rfl⟩

theorem settle_counts (d : Downstream π ρ) (p : Pipeline π ρ) :
    (p.settle d).inbox.accepted = p.inbox.accepted ∧
      (p.settle d).inbox.dropped = p.inbox.dropped := by
  rw [settle]
  split
  · exact ⟨rfl, rfl⟩
  · exact perform_counts d _ _ _

/-- What is submitted is counted once, as accepted or as dropped. -/
theorem submit_oneMore (d : Downstream π ρ) (r : Record) (p : Pipeline π ρ) :
    p.counters.OneMore (p.submit d r).counters := by
  have hsettled : (p.submit d r).inbox.accepted = (p.inbox.submit p.isAwaiting r).1.accepted ∧
      (p.submit d r).inbox.dropped = (p.inbox.submit p.isAwaiting r).1.dropped := by
    unfold Pipeline.submit
    simp only
    split
    · exact settle_counts d _
    · exact ⟨rfl, rfl⟩
  show Counters.OneMore _ { (p.submit d r).counters with
    accepted := (p.submit d r).inbox.accepted, dropped := (p.submit d r).inbox.dropped }
  rw [hsettled.1, hsettled.2]
  cases hroom : p.inbox.receiving && p.inbox.hasRoom p.isAwaiting with
  | true =>
    rw [Inbox.submit_of_room hroom]
    exact .inl ⟨rfl, rfl⟩
  | false =>
    rw [Inbox.submit_of_no_room hroom]
    exact .inr ⟨rfl, rfl⟩

theorem submitAll_total (d : Downstream π ρ) (rs : List Record) (p : Pipeline π ρ) :
    (p.submitAll d rs).counters.accepted + (p.submitAll d rs).counters.dropped =
      p.counters.accepted + p.counters.dropped + rs.length := by
  induction rs generalizing p with
  | nil => rfl
  | cons r rest ih =>
    have hrest := ih (p.submit d r)
    have hstep : p.submitAll d (r :: rest) = (p.submit d r).submitAll d rest := rfl
    rw [hstep, hrest, List.length_cons]
    rcases p.submit_oneMore d r with ⟨haccepted, hdropped⟩ | ⟨haccepted, hdropped⟩
    · omega
    · omega

/-- Without a collector nothing but the two numbers of records changes. -/
theorem submitAll_of_idle (idle : p.collector = none) (d : Downstream π ρ) (rs : List Record) :
    (p.submitAll d rs).counters =
      { p.counters with
        accepted := (p.submitAll d rs).counters.accepted
        dropped := (p.submitAll d rs).counters.dropped } := by
  induction rs generalizing p with
  | nil => rfl
  | cons r rest ih =>
    have hawaiting : p.isAwaiting = false := by
      rw [isAwaiting, idle, Option.isSome_none, Bool.and_false]
    have hsubmit : p.submit d r =
        { p with inbox := (p.inbox.submit false r).1 }.log (p.inbox.submit false r).2 := by
      simp only [Pipeline.submit, hawaiting]
      rfl
    have hrest := ih (p := p.submit d r) (by rw [hsubmit]; exact idle)
    have hstep : p.submitAll d (r :: rest) = (p.submit d r).submitAll d rest := rfl
    rw [hstep, hrest, hsubmit]
    rfl

end Pipeline

end EventBatching
