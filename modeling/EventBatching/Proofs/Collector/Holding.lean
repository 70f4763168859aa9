import EventBatching.Proofs.Collector.Chunks
import EventBatching.Proofs.Collector.Conservation
import EventBatching.Proofs.Collector.Lateness

/-!
# What open batches hold

A collector that is told to do this and that, at times that may go back and with a sink that may
panic at any batch, keeps a simple picture of every key all the same. The open batch of a key holds
the last payloads that came for it, at least one and too few to fill a batch, and its deadline is
settled by the first of them. A panic does not disturb the picture, because a batch leaves the open
ones before the sink sees it.

* `Operation.arrivals` are the payloads that an operation brings for a key, with its time.
* `Compartment.Holds` is the picture of one key, and `History.Holds` that of all keys;
  `History.Holds.perform` says that every operation keeps it.
* `Release` is a batch that was handed over, with what made it leave. `Release.Sized` says how large
  it may be.
* `History.run_openBatches` is what holds after every list of operations.
-/

namespace EventBatching

/-! ## Arrivals -/

namespace Operation

/-- The time that an operation is given. -/
def now : Operation → Nat
  | .add _ now => now
  | .tick _ now => now
  | .sweep now => now
  | .shutdown _ now => now

/-- The payloads that an operation brings for a key, in their order, with its time. -/
def arrivals (key : String) (op : Operation) : List (Payload × Nat) :=
  (Record.payloadsUnder key op.records).map (·, op.now)

end Operation

/-! ## Why batches leave -/

/-- What made a batch leave. -/
inductive Trigger where
  /-- It was full. -/
  | full
  /-- It was overdue. -/
  | overdue
  /-- The collector shut down. -/
  | leftover
  deriving Repr, DecidableEq

/-- A batch that was handed over. -/
structure Release where
  /-- The batch. -/
  batch : Batch
  /-- What made it leave. -/
  trigger : Trigger
  deriving Repr

/-- A batch is not empty and not larger than the greatest size, and of that size if it left for
it. -/
structure Release.Sized (greatest : Nat) (r : Release) : Prop where
  /-- There is a payload in it. -/
  one_le : 1 ≤ r.batch.size
  /-- There are not too many. -/
  le_greatest : r.batch.size ≤ greatest
  /-- What is handed over as full is full. -/
  full : r.trigger = .full → r.batch.size = greatest

/-! ## The picture of one key -/

namespace Compartment

/-- The open batch holds the last of what came, too little to fill it, and is due one timeout after
the first payload in it. -/
structure Holds (settings : Settings) (c : Compartment) (came : List (Payload × Nat)) : Prop where
  /-- The timeout is the one that was set. -/
  timeout_eq : c.timeout = settings.collectionTimeout
  /-- The greatest size is the one that was set. -/
  max_eq : c.maxBatchSize = settings.maxBatchSize
  /-- What waits is the last of what came. -/
  waits : ∃ waiting, waiting <:+ came ∧ c.Dated waiting ∧ waiting.length < c.maxBatchSize

section Picture

variable {settings : Settings} {c : Compartment} {came waiting : List (Payload × Nat)}

theorem Dated.length_waiting (dated : c.Dated waiting) : c.waiting.length = waiting.length := by
  have hitems : c.waiting = waiting.map (·.1) := dated.items
  rw [hitems, List.length_map]

/-- A batch that is open has a first payload, and that one settles when it is due. -/
theorem Dated.first {b : OpenBatch} (dated : c.Dated waiting) (open_eq : c.batch = some b) :
    ∃ first more, waiting = first :: more ∧ b.items.toList = waiting.map (·.1) ∧
      b.deadline = first.2 + c.timeout := by
  obtain ⟨hitems, hdeadline⟩ := dated
  rw [open_eq] at hitems hdeadline
  cases waiting with
  | nil => exact absurd hdeadline (by simp)
  | cons first more => exact ⟨first, more, rfl, hitems, by simpa using hdeadline⟩

/-- A batch that is open has a payload and room for one more. -/
theorem Holds.size {b : OpenBatch} (holds : c.Holds settings came) (open_eq : c.batch = some b) :
    1 ≤ b.size ∧ b.size < settings.maxBatchSize := by
  obtain ⟨waiting, -, hdated, hroom⟩ := holds.waits
  obtain ⟨first, more, hwaiting, hitems, -⟩ := hdated.first open_eq
  have hsize : b.size = waiting.length := by
    rw [OpenBatch.size, ← Arrivals.length_toList, hitems, List.length_map]
  rw [holds.max_eq] at hroom
  rw [hsize]
  refine ⟨?_, hroom⟩
  rw [hwaiting, List.length_cons]
  exact Nat.succ_pos _

/-- A batch that leaves before it is full is not empty. -/
theorem Holds.closed {b : OpenBatch} (holds : c.Holds settings came) (open_eq : c.batch = some b)
    {trigger : Trigger} (early : trigger ≠ .full) :
    Release.Sized settings.maxBatchSize ⟨b.close c.key, trigger⟩ := by
  obtain ⟨hone, hroom⟩ := holds.size open_eq
  have hsize : (b.close c.key).size = b.size := Arrivals.length_toList _
  rw [← hsize] at hone hroom
  exact ⟨hone, Nat.le_of_lt hroom, fun h => absurd h early⟩

/-- Where nothing is open, nothing waits. -/
theorem holds_none (timeout_eq : c.timeout = settings.collectionTimeout)
    (max_eq : c.maxBatchSize = settings.maxBatchSize) (positive : 1 ≤ settings.maxBatchSize)
    (came : List (Payload × Nat)) : Holds settings { c with batch := none } came :=
  ⟨timeout_eq, max_eq, [], List.nil_suffix, Dated.closed c, by
    show 0 < c.maxBatchSize
    rwa [max_eq]⟩

/-- A payload goes to those that wait or leaves with them, and they leave when they are as many as
there may be. -/
theorem Holds.add (holds : c.Holds settings came) (positive : 1 ≤ settings.maxBatchSize)
    (p : Payload) (now : Nat) :
    (c.add p now).2.Holds settings (came ++ [(p, now)]) ∧
      ∀ b ∈ (c.add p now).1, b.size = settings.maxBatchSize := by
  obtain ⟨waiting, hsuffix, hdated, hroom⟩ := holds.waits
  have hsize := c.size_collected p (now + c.timeout)
  rw [hdated.length_waiting] at hsize
  rw [Compartment.add]
  split
  · next hopen =>
    refine ⟨⟨holds.timeout_eq, holds.max_eq, waiting ++ [(p, now)], ?_, hdated.collect p now, ?_⟩,
      fun b hb => absurd hb List.not_mem_nil⟩
    · exact List.suffix_append_self_iff.2 hsuffix
    · rw [List.length_append, List.length_singleton, ← hsize]
      exact hopen
  · next hfull =>
    refine ⟨holds_none holds.timeout_eq holds.max_eq positive _, fun b hb => ?_⟩
    obtain rfl := List.mem_singleton.1 hb
    have hclosed : (((c.batch.getD ⟨.empty, now + c.timeout⟩).push p).close c.key).size =
        ((c.batch.getD ⟨.empty, now + c.timeout⟩).push p).size := Arrivals.length_toList _
    rw [hclosed, ← holds.max_eq]
    omega

/-- The records of a queue are taken one after another, all at one time. -/
theorem Holds.drain (holds : c.Holds settings came) (positive : 1 ≤ settings.maxBatchSize)
    (now : Nat) (queue : List Record) :
    (c.drain now queue).2.Holds settings
        (came ++ (Record.payloadsUnder c.key queue).map (·, now)) ∧
      ∀ b ∈ (c.drain now queue).1, b.size = settings.maxBatchSize := by
  induction queue generalizing c came with
  | nil =>
    rw [Record.payloadsUnder_nil, List.map_nil, List.append_nil]
    exact ⟨holds, fun b hb => absurd hb List.not_mem_nil⟩
  | cons r rest ih =>
    rw [Compartment.drain, Record.payloadsUnder_cons]
    by_cases hkey : r.key = c.key
    · obtain ⟨hholds, hfull⟩ := holds.add positive r.payload now
      obtain ⟨hlater, hfull'⟩ := ih hholds
      rw [add_key, List.append_assoc] at hlater
      rw [if_pos hkey, offer_own hkey, List.map_append]
      refine ⟨hlater, fun b hb => ?_⟩
      rcases List.mem_append.1 hb with hb | hb
      · exact hfull b hb
      · exact hfull' b hb
    · rw [if_neg hkey, offer_other hkey]
      exact ih holds

/-- A sweep leaves the batch as it is or closes it. -/
theorem Holds.sweep (holds : c.Holds settings came) (positive : 1 ≤ settings.maxBatchSize)
    (now : Nat) :
    (c.sweep now).2.Holds settings came ∧
      ∀ b ∈ (c.sweep now).1, Release.Sized settings.maxBatchSize ⟨b, .overdue⟩ := by
  obtain ⟨key, batch, timeout, max⟩ := c
  cases batch with
  | none => exact ⟨holds, fun b hb => absurd hb List.not_mem_nil⟩
  | some o =>
    by_cases hdue : o.deadline < now
    · simp only [Compartment.sweep, Option.filter, hdue, decide_true]
      refine ⟨holds_none holds.timeout_eq holds.max_eq positive came, fun b hb => ?_⟩
      obtain rfl := List.mem_singleton.1 hb
      exact holds.closed rfl (by decide)
    · simp only [Compartment.sweep, Option.filter, hdue, decide_false]
      exact ⟨holds, fun b hb => absurd hb List.not_mem_nil⟩

end Picture

end Compartment

/-! ## The picture of all keys -/

namespace Sink

variable {σ : Type}

/-- What a sink is given is the first of what there is for it. -/
theorem takeAll_flushed_prefix (sink : Sink σ) (bs : List Batch) (s : σ) :
    (sink.takeAll bs s).flushed <+: bs := by
  induction bs generalizing s with
  | nil => exact List.prefix_refl _
  | cons b rest ih =>
    rw [takeAll]
    split
    · exact List.cons_prefix_cons.2 ⟨rfl, List.nil_prefix⟩
    · exact List.cons_prefix_cons.2 ⟨rfl, ih _⟩

end Sink

/-- A batch is one of those of its category. -/
theorem Batch.mem_ofCategory {b : Batch} {bs : List Batch} (h : b ∈ bs) :
    b ∈ Batch.ofCategory b.category bs := List.mem_filter.2 ⟨h, by simp⟩

namespace Collector

variable {σ : Type}

/-- The open batches hold the last of what came for each key. -/
structure Holds (settings : Settings) (came : String → List (Payload × Nat)) (d : Collector) :
    Prop where
  /-- No key has two open batches. -/
  distinct : d.batches.Distinct
  /-- The picture of every key is right. -/
  holds : ∀ key, (d.watcher.compartment key).Holds settings (came key)

theorem holds_start (settings : Settings) (positive : 1 ≤ settings.maxBatchSize) (begun : Nat) :
    (start settings begun).Holds settings fun _ => [] :=
  ⟨OpenBatches.distinct_empty, fun key =>
    Compartment.holds_none (c := (start settings begun).watcher.compartment key) rfl rfl positive
      []⟩

section Steps

variable {settings : Settings} {came : String → List (Payload × Nat)} {d : Collector}

/-- A sweep closes batches that were open and leaves the others as they are. -/
theorem Holds.sweep (picture : d.Holds settings came) (positive : 1 ≤ settings.maxBatchSize)
    (sink : Sink σ) (now : Nat) (s : σ) :
    (d.sweep sink now s).after.Holds settings came ∧
      ∀ b ∈ (d.sweep sink now s).flushed, Release.Sized settings.maxBatchSize ⟨b, .overdue⟩ := by
  have hoverdue := fun key => Watcher.overdue_compartment (w := d.watcher) picture.distinct now key
  refine ⟨⟨overdue_distinct picture.distinct now, fun key => ?_⟩, fun b hb => ?_⟩
  · have hkey := ((picture.holds key).sweep positive now).1
    rw [← hoverdue key] at hkey
    exact hkey
  · have hkey := ((picture.holds b.category).sweep positive now).2 b
    rw [← hoverdue b.category] at hkey
    exact hkey (Batch.mem_ofCategory ((Sink.takeAll_flushed_prefix ..).subset hb))

theorem Holds.tick (picture : d.Holds settings came) (positive : 1 ≤ settings.maxBatchSize)
    (sink : Sink σ) (flushed : Bool) (now : Nat) (s : σ) :
    (d.tick sink flushed now s).after.Holds settings came ∧
      ∀ b ∈ (d.tick sink flushed now s).flushed,
        Release.Sized settings.maxBatchSize ⟨b, .overdue⟩ := by
  rw [Collector.tick]
  split
  · exact picture.sweep positive sink now s
  · exact ⟨picture, fun b hb => absurd hb List.not_mem_nil⟩

/-- Queued records go to the open batches, and the batches that they close are full. -/
theorem Holds.drainQueue (picture : d.Holds settings came) (positive : 1 ≤ settings.maxBatchSize)
    (sink : Sink σ) (now : Nat) (queue : List Record) (s : σ) :
    (d.drainQueue sink now queue s).after.Holds settings
        (fun key => came key ++ (Record.payloadsUnder key queue).map (·, now)) ∧
      ∀ b ∈ (d.drainQueue sink now queue s).flushed,
        Release.Sized settings.maxBatchSize ⟨b, .full⟩ := by
  have hdrained := fun key => d.drainQueue_compartment sink now queue s key
  refine ⟨⟨drainQueue_distinct picture.distinct .., fun key => ?_⟩, fun b hb => ?_⟩
  · have hkey := ((picture.holds key).drain positive now queue).1
    rw [← hdrained key] at hkey
    exact hkey
  · have hkey := ((picture.holds b.category).drain positive now queue).2 b
    rw [← hdrained b.category] at hkey
    have hfull : b.size = settings.maxBatchSize := hkey (Batch.mem_ofCategory hb)
    exact ⟨by rwa [hfull], Nat.le_of_eq hfull, fun _ => hfull⟩

/-- To add a record is to drain a queue of it alone. -/
theorem Holds.add (picture : d.Holds settings came) (positive : 1 ≤ settings.maxBatchSize)
    (sink : Sink σ) (r : Record) (now : Nat) (s : σ) :
    (d.add sink r now s).after.Holds settings
        (fun key => came key ++ (Record.payloadsUnder key [r]).map (·, now)) ∧
      ∀ b ∈ (d.add sink r now s).flushed, Release.Sized settings.maxBatchSize ⟨b, .full⟩ := by
  obtain ⟨hafter, hfull⟩ := picture.drainQueue positive sink now [r] s
  exact ⟨hafter, fun b hb => hfull b (List.mem_append_left [] hb)⟩

/-- To close all batches leaves none, and those that are closed were not full. -/
theorem Holds.drain (picture : d.Holds settings came) (positive : 1 ≤ settings.maxBatchSize) :
    Holds settings came { d with batches := d.batches.drain.2 } ∧
      ∀ b ∈ d.batches.drain.1, Release.Sized settings.maxBatchSize ⟨b, .leftover⟩ := by
  refine ⟨⟨OpenBatches.distinct_empty, fun key => ?_⟩, fun b hb => ?_⟩
  · exact Compartment.holds_none (picture.holds key).timeout_eq (picture.holds key).max_eq positive
      (came key)
  · obtain ⟨e, he, rfl⟩ := List.mem_map.1 hb
    have hopen : (d.watcher.compartment e.1).batch = some e.2 := picture.distinct.get?_of_mem he
    refine (picture.holds e.1).closed hopen ?_
    exact Trigger.noConfusion

/-- An open batch is the last of what came for its key. -/
theorem Holds.entry (picture : d.Holds settings came) {e : String × OpenBatch}
    (he : e ∈ d.batches.entries) :
    1 ≤ e.2.size ∧ e.2.size < settings.maxBatchSize ∧
      ∃ first more, first :: more <:+ came e.1 ∧ e.2.items.toList = (first :: more).map (·.1) ∧
        e.2.deadline = first.2 + settings.collectionTimeout := by
  have hopen : (d.watcher.compartment e.1).batch = some e.2 := picture.distinct.get?_of_mem he
  have hkey := picture.holds e.1
  obtain ⟨hone, hroom⟩ := hkey.size hopen
  obtain ⟨waiting, hsuffix, hdated, -⟩ := hkey.waits
  obtain ⟨first, more, rfl, hitems, hdeadline⟩ := hdated.first hopen
  rw [hkey.timeout_eq] at hdeadline
  exact ⟨hone, hroom, first, more, hsuffix, hitems, hdeadline⟩

end Steps

end Collector

/-! ## Histories -/

namespace History

variable {σ : Type}

/-- The payloads that operations bring for a key, in their order, with the times of the
operations. -/
def arrivals (key : String) (ops : List Operation) : List (Payload × Nat) :=
  ops.flatMap (·.arrivals key)

/-- What an operation hands over: what an addition makes full, what a sweep finds overdue, and of a
shutdown what the queued records make full and then what is left. -/
def releases (sink : Sink σ) (h : History σ) : Operation → List Release
  | .add r now => (h.collector.add sink r now h.sink).flushed.map (⟨·, .full⟩)
  | .tick flushed now => (h.collector.tick sink flushed now h.sink).flushed.map (⟨·, .overdue⟩)
  | .sweep now => (h.collector.sweep sink now h.sink).flushed.map (⟨·, .overdue⟩)
  | .shutdown inbox now =>
    let drained := h.collector.drainQueue sink now inbox.queue.toList h.sink
    drained.flushed.map (⟨·, .full⟩) ++ drained.after.batches.drain.1.map (⟨·, .leftover⟩)

/-- What operations hand over. -/
def allReleases (sink : Sink σ) : List Operation → History σ → List Release
  | [], _ => []
  | op :: rest, h => h.releases sink op ++ allReleases sink rest (h.perform sink op)

theorem batches_tagged (bs : List Batch) (trigger : Trigger) :
    (bs.map fun b => (⟨b, trigger⟩ : Release)).map (·.batch) = bs := by
  rw [List.map_map]
  exact List.map_id bs

/-- What is said of batches is said of them with what made them leave. -/
theorem forall_tagged {bs : List Batch} {trigger : Trigger} {p : Release → Prop}
    (h : ∀ b ∈ bs, p ⟨b, trigger⟩) : ∀ r ∈ bs.map fun b => (⟨b, trigger⟩ : Release), p r := by
  intro r hr
  obtain ⟨b, hb, rfl⟩ := List.mem_map.1 hr
  exact h b hb

theorem perform_flushed (sink : Sink σ) (h : History σ) (op : Operation) :
    (h.perform sink op).flushed = h.flushed ++ (h.releases sink op).map (·.batch) := by
  cases op with
  | add r now =>
    rw [releases, batches_tagged]
    rfl
  | tick flushed now =>
    rw [releases, batches_tagged]
    rfl
  | sweep now =>
    rw [releases, batches_tagged]
    rfl
  | shutdown inbox now =>
    rw [releases, List.map_append, batches_tagged, batches_tagged, perform_shutdown]
    rfl

theorem run_flushed (sink : Sink σ) (ops : List Operation) (h : History σ) :
    (h.run sink ops).flushed = h.flushed ++ (h.allReleases sink ops).map (·.batch) := by
  induction ops generalizing h with
  | nil => exact (List.append_nil _).symm
  | cons op rest ih =>
    rw [allReleases, List.map_append, ← List.append_assoc, ← perform_flushed]
    exact ih (h.perform sink op)

section Steps

variable {settings : Settings} {came : String → List (Payload × Nat)} {h : History σ}

/-- Every operation keeps the picture, wherever the sink panics in it, and what it hands over has a
right size. -/
theorem holds_perform (picture : h.collector.Holds settings came)
    (positive : 1 ≤ settings.maxBatchSize) (sink : Sink σ) (op : Operation) :
    (h.perform sink op).collector.Holds settings (fun key => came key ++ op.arrivals key) ∧
      ∀ r ∈ h.releases sink op, r.Sized settings.maxBatchSize := by
  have hnone : (fun key => came key ++ []) = came := funext fun key => List.append_nil _
  cases op with
  | add r now =>
    obtain ⟨hafter, hsized⟩ := picture.add positive sink r now h.sink
    exact ⟨hafter, forall_tagged hsized⟩
  | tick flushed now =>
    obtain ⟨hafter, hsized⟩ := picture.tick positive sink flushed now h.sink
    rw [← hnone] at hafter
    exact ⟨hafter, forall_tagged hsized⟩
  | sweep now =>
    obtain ⟨hafter, hsized⟩ := picture.sweep positive sink now h.sink
    rw [← hnone] at hafter
    exact ⟨hafter, forall_tagged hsized⟩
  | shutdown inbox now =>
    obtain ⟨hdrained, hfull⟩ :=
      picture.drainQueue positive sink now inbox.queue.toList h.sink
    obtain ⟨hafter, hleft⟩ := hdrained.drain positive
    rw [perform_shutdown]
    refine ⟨hafter, fun r hr => ?_⟩
    rcases List.mem_append.1 hr with hr | hr
    · exact forall_tagged hfull r hr
    · exact forall_tagged hleft r hr

theorem holds_run (picture : h.collector.Holds settings came)
    (positive : 1 ≤ settings.maxBatchSize) (sink : Sink σ) (ops : List Operation) :
    (h.run sink ops).collector.Holds settings (fun key => came key ++ arrivals key ops) ∧
      ∀ r ∈ h.allReleases sink ops, r.Sized settings.maxBatchSize := by
  induction ops generalizing h came with
  | nil =>
    have hnone : (fun key => came key ++ arrivals key []) = came :=
      funext fun key => List.append_nil _
    rw [hnone]
    exact ⟨picture, fun r hr => absurd hr List.not_mem_nil⟩
  | cons op rest ih =>
    obtain ⟨hafter, hsized⟩ := holds_perform picture positive sink op
    obtain ⟨hlater, hsized'⟩ := ih hafter
    simp only [List.append_assoc] at hlater
    refine ⟨hlater, fun r hr => ?_⟩
    rcases List.mem_append.1 hr with hr | hr
    · exact hsized r hr
    · exact hsized' r hr

end Steps

/-- **An open batch is the last of what came, and too little to be full.** Let a collector be told
to add, tick, sweep and shut down in any order, at times that may go back, with a sink that may
panic at any batch. After that no key has two open batches. Each open batch holds at least one
payload and has room for one more; its payloads are the last that came for its key, and its deadline
is one timeout after the first of them came. Every batch that the sink was given, whether it
panicked on it or not, held at least one payload and not more than the greatest number, and exactly
that number if it left because it was full. -/
theorem run_openBatches (settings : Settings) (positive : 1 ≤ settings.maxBatchSize)
    (sink : Sink σ) (begun : Nat) (s : σ) (ops : List Operation) :
    let h := (start settings begun s).run sink ops
    let released := (start settings begun s).allReleases sink ops
    h.collector.batches.Distinct ∧
      (∀ e ∈ h.collector.batches.entries,
        1 ≤ e.2.size ∧ e.2.size < settings.maxBatchSize ∧
          ∃ first more, first :: more <:+ arrivals e.1 ops ∧
            e.2.items.toList = (first :: more).map (·.1) ∧
            e.2.deadline = first.2 + settings.collectionTimeout) ∧
      released.map (·.batch) = h.flushed ∧ ∀ r ∈ released, r.Sized settings.maxBatchSize := by
  intro h released
  obtain ⟨hholds, hsized⟩ := holds_run (h := start settings begun s)
    (Collector.holds_start settings positive begun) positive sink ops
  refine ⟨hholds.distinct, fun e he => ?_, ?_, hsized⟩
  · exact hholds.entry he
  · exact (run_flushed sink ops (start settings begun s)).symm

/-- Operations at times that go back, with a sink that refuses the batches of one key: it panics on
a full batch, on an overdue one, and on one that a shutdown closes. -/
def refusedHistory : List Operation :=
  [.add ⟨"a", .null⟩ 9, .add ⟨"b", .null⟩ 7, .add ⟨"b", .bool true⟩ 5, .tick true 5,
    .add ⟨"b", .bool false⟩ 4, .sweep 30, .add ⟨"b", .null⟩ 3,
    .shutdown { capacity := 1, queue := Arrivals.empty.push ⟨"a", .null⟩ } 2,
    .add ⟨"b", .string "late"⟩ 1]

theorem run_openBatches_refusedHistory :
    let settings : Settings := { maxBatchSize := 2, collectionTimeout := 10 }
    let sink := Rehearsal.refusingSink ["b"]
    let h := (start settings 20 ()).run sink refusedHistory
    1 ≤ settings.maxBatchSize ∧
      ((start settings 20 ()).allReleases sink refusedHistory).map
        (fun r => (r.batch.label, r.trigger)) =
        [("Batch to b of size 2", .full), ("Batch to a of size 1", .overdue),
          ("Batch to b of size 1", .overdue), ("Batch to a of size 1", .leftover),
          ("Batch to b of size 1", .leftover)] ∧
      h.collector.batches.entries.map (fun e => (e.1, e.2.deadline)) = [("b", 11)] ∧
      ∀ e ∈ h.collector.batches.entries, ∃ first more,
        first :: more <:+ arrivals e.1 refusedHistory ∧
          e.2.items.toList = (first :: more).map (·.1) ∧ e.2.deadline = first.2 + 10 := by
  intro settings sink h
  obtain ⟨-, hentries, -⟩ :=
    run_openBatches settings (by decide) sink 20 () refusedHistory
  refine ⟨by decide, ?_, ?_, fun e he => (hentries e he).2.2⟩
  · simp only [refusedHistory, allReleases, perform_shutdown]
    decide
  · simp only [h, refusedHistory, run, List.foldl_cons, List.foldl_nil, perform_shutdown]
    decide

end History

end EventBatching
