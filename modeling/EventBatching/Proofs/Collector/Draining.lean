import EventBatching.Inbox
import EventBatching.Proofs.Collector.Handover
import EventBatching.Proofs.OpenBatches.Drawing

/-!
# Draining an inbox

A collector that shuts down takes what is queued out of its inbox, one record at a time, until a
look at the inbox finds nothing, and then hands over the open batches in the order in which they
come up. `Collector.shutdown` is told the queue as a list and keeps to one order. Here the same is
said of the inbox itself, one look after another, and of every order, and the two are shown to be
one.

* `Inbox.receive_eq_some` and `Inbox.receive_eq_none_iff` say what a look at an inbox finds.
* `Collector.shutdownInboxIn` is a shutdown over an inbox with the open batches in any order, and
  `Collector.shutdownInbox` the one in the order in which they are kept.
* `Collector.drainInbox_eq` and `Collector.shutdownInboxIn_eq` say that a drained inbox is empty and
  that every record of it was folded in, in the order of the queue.
-/

namespace EventBatching

/-! ## Looking into an inbox -/

/-- Arrivals without anything in them are the empty ones. -/
theorem Arrivals.eq_empty_of_toList {α : Type} {q : Arrivals α} (h : q.toList = []) :
    q = .empty := by
  obtain ⟨early, late, size, size_eq⟩ := q
  obtain ⟨rfl, hlate⟩ := List.append_eq_nil_iff.1 h
  obtain rfl : late = [] := List.reverse_eq_nil_iff.1 hlate
  obtain rfl : size = 0 := size_eq
  rfl

namespace Inbox

theorem receive_eq_some {q rest : Inbox} {r : Record} (h : q.receive = some (r, rest)) :
    q.queue.toList = r :: rest.queue.toList ∧ rest = { q with queue := rest.queue } := by
  obtain ⟨⟨r', queue⟩, htaken, hrest⟩ := Option.map_eq_some_iff.1 h
  obtain ⟨rfl, rfl⟩ := Prod.mk.inj hrest
  exact ⟨Arrivals.toList_of_takeFirst? htaken, rfl⟩

theorem receive_eq_none_iff {q : Inbox} : q.receive = none ↔ q.queue.toList = [] := by
  rw [receive, Option.map_eq_none_iff]
  exact Arrivals.takeFirst?_eq_none_iff

theorem size_of_receive {q rest : Inbox} {r : Record} (h : q.receive = some (r, rest)) :
    q.queue.size = rest.queue.size + 1 := by
  rw [← Arrivals.length_toList, (receive_eq_some h).1, List.length_cons, Arrivals.length_toList]

theorem accepted_of_receive {q rest : Inbox} {r : Record} (h : q.receive = some (r, rest)) :
    rest.accepted = q.accepted := by
  rw [(receive_eq_some h).2]

theorem submit_of_room {q : Inbox} {awaited : Bool}
    (h : (q.receiving && q.hasRoom awaited) = true) (r : Record) :
    (q.submit awaited r).1 = { q with queue := q.queue.push r, accepted := q.accepted + 1 } := by
  rw [submit, if_pos h]

theorem submit_of_no_room {q : Inbox} {awaited : Bool}
    (h : (q.receiving && q.hasRoom awaited) = false) (r : Record) :
    (q.submit awaited r).1 = { q with dropped := q.dropped + 1 } := by
  rw [submit, h]
  rfl

/-- An inbox without a record in it is one whose queue is the empty one. -/
theorem eq_of_toList_eq_nil {q : Inbox} (h : q.queue.toList = []) :
    q = { q with queue := .empty } := by
  rw [← Arrivals.eq_empty_of_toList h]

end Inbox

namespace Collector

variable {σ : Type}

/-! ## Draining -/

/-- Folds in what an inbox holds, one record after another, until a look finds nothing. -/
def drainInbox (d : Collector) (sink : Sink σ) (now : Nat) (q : Inbox) (s : σ) :
    Ending σ × Inbox :=
  match _h : q.receive with
  | none => (⟨d, s, [], []⟩, q)
  | some (r, rest) =>
    let added := d.add sink r now s
    let (later, left) := drainInbox added.after sink now rest added.sink
    let logs := match added.result with
      | .ok _ => []
      | .error _ => [drainPanic r.key]
    ({ later with flushed := added.flushed ++ later.flushed, logs := logs ++ later.logs }, left)
termination_by q.queue.size
decreasing_by
  have hsize := Inbox.size_of_receive ‹q.receive = _›
  omega

theorem drainInbox_eq (d : Collector) (sink : Sink σ) (now : Nat) (q : Inbox) (s : σ) :
    d.drainInbox sink now q s =
      (d.drainQueue sink now q.queue.toList s, { q with queue := .empty }) := by
  fun_induction drainInbox d sink now q s with
  | case1 d q s received =>
    have hnil := Inbox.receive_eq_none_iff.1 received
    rw [hnil, ← Inbox.eq_of_toList_eq_nil hnil]
    rfl
  | case2 d q s r rest received added later left hlater logs ih =>
    obtain ⟨hqueue, hrest⟩ := Inbox.receive_eq_some received
    rw [hlater, Prod.mk.injEq] at ih
    rw [hqueue, ih.1, ih.2, hrest]
    rfl

/-! ## Shutting down -/

/-- Hands over what is open after records were folded in, in the order in which it comes up, and
writes the last line. -/
def Ending.handOver (drained : Ending σ) (order : OpenBatches.Order) (sink : Sink σ)
    (queued : Nat) : Ending σ :=
  let (leftover, rest) := (drained.after.batches.inOrder order).drain
  let (s, logs) := handOverAll sink leftover drained.sink
  { after := { drained.after with batches := rest }
    sink := s
    flushed := drained.flushed ++ leftover
    logs := drained.logs ++ logs ++ [shutDownLine queued leftover.length] }

/-- Folds in what is queued and hands over every open batch, in the order in which they come up. -/
def shutdownIn (d : Collector) (order : OpenBatches.Order) (sink : Sink σ) (queue : List Record)
    (now : Nat) (s : σ) : Ending σ :=
  (d.drainQueue sink now queue s).handOver order sink queue.length

/-- Folds in what an inbox holds and hands over every open batch, in the order in which they come
up. -/
def shutdownInboxIn (d : Collector) (order : OpenBatches.Order) (sink : Sink σ) (q : Inbox)
    (now : Nat) (s : σ) : Ending σ × Inbox :=
  let (drained, left) := d.drainInbox sink now q s
  (drained.handOver order sink q.queue.size, left)

/-- Folds in what an inbox holds and hands over every open batch, in the order in which they are
kept. -/
def shutdownInbox (d : Collector) (sink : Sink σ) (q : Inbox) (now : Nat) (s : σ) :
    Ending σ × Inbox := d.shutdownInboxIn .kept sink q now s

theorem shutdownIn_kept (d : Collector) (sink : Sink σ) (queue : List Record) (now : Nat) (s : σ) :
    d.shutdownIn .kept sink queue now s = d.shutdown sink queue now s := rfl

/-- A shutdown leaves nothing in the inbox, and does with what was in it what it does with a list.
-/
theorem shutdownInboxIn_eq (d : Collector) (order : OpenBatches.Order) (sink : Sink σ) (q : Inbox)
    (now : Nat) (s : σ) :
    d.shutdownInboxIn order sink q now s =
      (d.shutdownIn order sink q.queue.toList now s, { q with queue := .empty }) := by
  rw [shutdownInboxIn, drainInbox_eq, shutdownIn, Arrivals.length_toList]

theorem shutdownInbox_eq (d : Collector) (sink : Sink σ) (q : Inbox) (now : Nat) (s : σ) :
    d.shutdownInbox sink q now s =
      (d.shutdown sink q.queue.toList now s, { q with queue := .empty }) := by
  rw [shutdownInbox, shutdownInboxIn_eq, shutdownIn_kept]

end Collector

end EventBatching
