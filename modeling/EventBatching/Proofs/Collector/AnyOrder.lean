import EventBatching.Proofs.Collector.Compartments
import EventBatching.Proofs.Collector.Conservation

/-!
# Open batches in any order

A sweep and the end of a shutdown go through all open batches, in the order in which they come up.
The collector that runs keeps them in the order of their keys, which stands for every other order:
here both are described for all of them, and so are histories in which the open batches come up in
another order each time. The order settles in which order the sink is given batches, and so which
of them a sweep loses when the sink panics. What a shutdown does to a key does not hang on it.

* `Collector.sweepIn` looks at every open batch once, in any order, and finds on its way when to
  look again. `Collector.sweepIn_eq` says that it is the sweep of the open batches in that order.
* `Collector.ofCategory_shutdownIn` says that a shutdown does the same to a key in every order.
* `History.runIn` performs operations with the open batches in any order each time, and
  `History.runIn_kept` says that `History.run` does so in the order in which they are kept.
-/

namespace EventBatching

namespace Collector

variable {σ : Type}

/-- The collector with its open batches in an order. -/
def inOrder (d : Collector) (order : OpenBatches.Order) : Collector :=
  { d with batches := d.batches.inOrder order }

theorem inOrder_compartment {d : Collector} (distinct : d.batches.Distinct)
    (order : OpenBatches.Order) (key : String) :
    (d.inOrder order).watcher.compartment key = d.watcher.compartment key := by
  have hget : (d.inOrder order).batches.get? key = d.batches.get? key :=
    congrFun (distinct.get?_inOrder order) key
  simp only [Watcher.compartment, watcher, hget]
  rfl

/-! ## Sweeps -/

/-- Asks for the batches that are overdue, and remembers the earliest deadline of the others. -/
def expired (now : Nat) : OpenBatches.Condition Nat := fun b wake =>
  if b.deadline < now then (true, wake) else (false, min wake b.deadline)

theorem expired_fst (now : Nat) (b : OpenBatch) (wake : Nat) :
    (expired now b wake).1 = decide (b.deadline < now) := by
  rw [expired]
  split
  · next hdue => exact (decide_eq_true hdue).symm
  · next hdue => exact (decide_eq_false hdue).symm

theorem recalled_expired (now : Nat) (entries : List (String × OpenBatch)) (latest : Nat) :
    OpenBatches.recalled (expired now) entries latest =
      earliest latest ⟨entries.filter fun (_, b) => !decide (b.deadline < now)⟩ := by
  induction entries generalizing latest with
  | nil => rfl
  | cons e rest ih =>
    rw [OpenBatches.recalled, List.foldl_cons]
    by_cases hdue : e.2.deadline < now
    · have hpassed : (expired now e.2 latest).2 = latest := by rw [expired, if_pos hdue]
      rw [hpassed, List.filter_cons_of_neg (by simpa using hdue)]
      exact ih latest
    · have hseen : (expired now e.2 latest).2 = min latest e.2.deadline := by
        rw [expired, if_neg hdue]
      rw [hseen, List.filter_cons_of_pos (by simpa using hdue)]
      exact ih (min latest e.2.deadline)

/-- A sweep that looks at every open batch once, in the order in which they come up: it takes out
what is overdue and finds on its way when to look again, and then hands over what it took out. -/
def sweepIn (d : Collector) (order : OpenBatches.Order) (sink : Sink σ) (now : Nat) (s : σ) :
    Effect σ Collector Unit :=
  let (overdue, wake, rest) :=
    (d.batches.inOrder order).extractWith (expired now) d.batches.size (now + d.timeout)
  let handed := sink.takeAll overdue s
  { after := { d with batches := rest, nextWake := wake }
    sink := handed.sink
    flushed := handed.flushed
    result := handed.result }

/-- To look once is to take out what is overdue and then to look at what is left. -/
theorem sweepIn_eq (d : Collector) (order : OpenBatches.Order) (sink : Sink σ) (now : Nat)
    (s : σ) : d.sweepIn order sink now s = (d.inOrder order).sweep sink now s := by
  have henough : (d.batches.inOrder order).size ≤ d.batches.size :=
    Nat.le_of_eq (d.batches.size_inOrder order)
  obtain ⟨hdrawn, hkept⟩ := OpenBatches.ruled_of_test (expired_fst now)
    (d.batches.inOrder order).entries (now + d.timeout)
  have hlooked := OpenBatches.extractWith_of_enough _ (expired now) henough (now + d.timeout)
  rw [hdrawn, hkept, recalled_expired] at hlooked
  simp only [sweepIn, hlooked]
  rfl

theorem sweepIn_kept (d : Collector) (sink : Sink σ) (now : Nat) (s : σ) :
    d.sweepIn .kept sink now s = d.sweep sink now s := d.sweepIn_eq .kept sink now s

/-- Sweeps, with the open batches in an order, if a batch was handed over or the time to look again
has passed. -/
def tickIn (d : Collector) (order : OpenBatches.Order) (sink : Sink σ) (flushed : Bool) (now : Nat)
    (s : σ) : Effect σ Collector Unit :=
  if flushed || d.nextWake < now then d.sweepIn order sink now s else ⟨d, s, [], .ok ()⟩

theorem tickIn_kept (d : Collector) (sink : Sink σ) (flushed : Bool) (now : Nat) (s : σ) :
    d.tickIn .kept sink flushed now s = d.tick sink flushed now s := by
  rw [tickIn, tick, sweepIn_kept]

/-! ## Shutdowns -/

theorem shutdownIn_sink (d : Collector) (order : OpenBatches.Order) (sink : Sink σ)
    (queue : List Record) (now : Nat) (s : σ) :
    (d.shutdownIn order sink queue now s).sink =
      sink.feed (d.shutdownIn order sink queue now s).flushed s := by
  simp only [shutdownIn, Ending.handOver]
  rw [handOverAll_sink, Sink.feed_append, drainQueue_sink]

/-- Where nothing is queued and nothing is open, nothing is handed over. -/
theorem flushed_shutdownIn_of_empty {d : Collector} (nothing : d.batches = .empty)
    (order : OpenBatches.Order) (sink : Sink σ) (now : Nat) (s : σ) :
    (d.shutdownIn order sink [] now s).flushed = [] := by
  show (d.batches.inOrder order).drain.1 = []
  rw [nothing, OpenBatches.inOrder_empty]
  rfl

/-- A shutdown hands over the same batches of a key in every order. -/
theorem ofCategory_shutdownIn {d : Collector} (distinct : d.batches.Distinct)
    (order : OpenBatches.Order) (sink : Sink σ) (queue : List Record) (now : Nat) (s : σ)
    (key : String) :
    Batch.ofCategory key (d.shutdownIn order sink queue now s).flushed =
      Batch.ofCategory key (d.shutdown sink queue now s).flushed := by
  have hdrained := drainQueue_distinct distinct sink now queue s
  simp only [shutdownIn, Ending.handOver, shutdown, Batch.ofCategory_append,
    OpenBatches.ofCategory_drain hdrained, OpenBatches.ofCategory_drain (hdrained.inOrder order),
    hdrained.get?_inOrder order]

end Collector

/-! ## Histories -/

namespace History

variable {σ : Type}

/-- Performs an operation for which the open batches come up in an order. -/
def performIn (sink : Sink σ) (h : History σ) (order : OpenBatches.Order) : Operation → History σ
  | .add r now => h.extend (h.collector.add sink r now h.sink)
  | .tick flushed now => h.extend (h.collector.tickIn order sink flushed now h.sink)
  | .sweep now => h.extend (h.collector.sweepIn order sink now h.sink)
  | .shutdown inbox now =>
    let (ended, inbox) := h.collector.shutdownInboxIn order sink inbox now h.sink
    ⟨ended.after, ended.sink, h.flushed ++ ended.flushed, h.left ++ inbox.queue.toList⟩

/-- Performs operations one after another, with the open batches in any order each time. -/
def runIn (sink : Sink σ) (deeds : List (OpenBatches.Order × Operation)) (h : History σ) :
    History σ := deeds.foldl (fun h deed => h.performIn sink deed.1 deed.2) h

theorem performIn_kept (sink : Sink σ) (h : History σ) (op : Operation) :
    h.performIn sink .kept op = h.perform sink op := by
  cases op with
  | add r now => rfl
  | tick flushed now => rw [performIn, Collector.tickIn_kept, perform]
  | sweep now => rw [performIn, Collector.sweepIn_kept, perform]
  | shutdown inbox now => rfl

/-- A history is one in which the open batches always come up as they are kept. -/
theorem runIn_kept (sink : Sink σ) (ops : List Operation) (h : History σ) :
    h.runIn sink (ops.map (OpenBatches.Order.kept, ·)) = h.run sink ops := by
  induction ops generalizing h with
  | nil => rfl
  | cons op rest ih =>
    have hrest := ih (h.performIn sink .kept op)
    rw [performIn_kept] at hrest
    rw [List.map_cons, runIn, List.foldl_cons, performIn_kept]
    exact hrest

end History

end EventBatching
