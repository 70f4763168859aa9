import EventBatching.Proofs.Pool.Accounting
import Mathlib.Data.Nat.Basic
import Mathlib.Order.Basic

/-!
# How many senders there are

A sender is started only after a look at how many there are, and leaves only after another. So there
are never more of them than twice the regular number, and a sender that has had no work never leaves
fewer than the regular number behind. A batch is put into the queue only by a call that has seen the
regular number of senders, and from then on nobody makes them fewer: as long as the pool is open
they stay, and after a shutdown they leave one by one only when the queue is empty.

* `Pool.Within` says that a pool is as large as the settings say and no larger.
* `Desk.Staffed` says that one call at a time has the lock, and that whoever waits in the queue, or
  is about to, has the regular number of senders to wait for.
* `Desk.Tallied` says that the desk has as many slips at a place as the pool has batches there.

Each is kept by every step, whatever the publisher and the policy do.
-/

namespace EventBatching

/-! ## What a turn tells -/

/-- Whether a call at a stage has seen the regular number of senders and still has the lock. -/
def Stage.seeks : Stage → Bool
  | .unplaced | .crowded => true
  | .arrived | .admitted | .turnedAway _ => false

theorem Stage.locks_of_seeks {stage : Stage} (h : stage.seeks = true) : stage.locks = true := by
  cases stage with
  | unplaced => rfl
  | crowded => rfl
  | arrived => exact absurd h (by decide)
  | admitted => exact absurd h (by decide)
  | turnedAway why => exact Bool.noConfusion h

namespace Pool

section Turns

variable {p : Pool} {stage next : Stage}

/-- A sender is started by a call that has the lock and has seen too few of them. -/
theorem turn_eq_spawn (h : p.turn stage = .spawn) :
    stage.locks = true ∧ (p.live < p.workers ∨ p.live < p.ceiling) := by
  cases stage with
  | arrived => exact absurd h (by simp [turn])
  | admitted =>
    by_cases hregular : p.live < p.workers
    · exact ⟨rfl, .inl hregular⟩
    · exact absurd h (by simp [turn, hregular])
  | unplaced => exact absurd h (by rw [turn]; split <;> simp)
  | crowded =>
    by_cases hburst : p.live < p.ceiling
    · exact ⟨rfl, .inr hburst⟩
    · exact absurd h (by simp [turn, hburst])
  | turnedAway why => exact absurd h (by simp [turn])

/-- A batch is put into the queue by a call that has seen the regular number of senders, and room.
-/
theorem turn_eq_enqueue (h : p.turn stage = .enqueue) :
    stage.seeks = true ∧ p.hasRoom = true := by
  cases stage with
  | arrived => exact absurd h (by simp [turn])
  | admitted => exact absurd h (by rw [turn]; split <;> simp)
  | unplaced =>
    by_cases hroom : p.hasRoom = true
    · exact ⟨rfl, hroom⟩
    · exact absurd h (by simp [turn, hroom])
  | crowded => exact absurd h (by rw [turn]; split <;> simp)
  | turnedAway why => exact absurd h (by simp [turn])

/-- A call that has the lock had it before, or has found the pool open. -/
theorem locks_of_go (h : p.turn stage = .go next) (locks : next.locks = true) :
    stage.locks = true ∨ stage = .arrived ∧ p.accepting = true := by
  cases stage with
  | arrived =>
    by_cases hopen : p.accepting = true
    · exact .inr ⟨rfl, hopen⟩
    · rw [turn, if_neg hopen] at h
      obtain rfl := Turn.go.inj h
      exact Bool.noConfusion locks
  | admitted => exact .inl rfl
  | unplaced => exact .inl rfl
  | crowded => exact .inl rfl
  | turnedAway why => exact absurd h (by simp [turn])

/-- A call that comes to seek a place has seen the regular number of senders. -/
theorem seeks_of_go (h : p.turn stage = .go next) (seeks : next.seeks = true) :
    stage.seeks = true ∨ p.workers ≤ p.live := by
  cases stage with
  | arrived =>
    rw [turn] at h
    obtain rfl := Turn.go.inj h
    split at seeks <;> exact Bool.noConfusion seeks
  | admitted =>
    by_cases hregular : p.live < p.workers
    · exact absurd h (by simp [turn, hregular])
    · exact .inr (Nat.le_of_not_lt hregular)
  | unplaced => exact .inl rfl
  | crowded => exact .inl rfl
  | turnedAway why => exact absurd h (by simp [turn])

end Turns

/-! ## How many senders a step leaves -/

section Live

variable {p after : Pool}

theorem live_spawn (p : Pool) (b : Batch) : (p.spawn b).live = p.live + 1 := by
  simp only [live, spawn, List.length_append, List.length_singleton]
  omega

theorem live_complete {place : Nat} {result : Publication}
    (h : p.complete place result = some after) : after.live = p.live := by
  obtain ⟨hplace, rfl⟩ := complete_eq_some h
  have hbusy : (p.busy.eraseIdx place).length + 1 = p.busy.length := by
    rw [List.length_eraseIdx_of_lt hplace]
    omega
  cases result <;> simp only [live, count] <;> omega

theorem live_take (h : p.take = some after) : after.live = p.live := by
  obtain ⟨idle, b, rest, hidle, -, rfl⟩ := take_eq_some h
  simp only [live, hidle, List.length_append, List.length_singleton]
  omega

theorem live_retire (h : p.retire = some after) : after.live + 1 = p.live := by
  obtain ⟨hidle, -, rfl⟩ := retire_eq_some h
  simp only [live]
  omega

theorem live_leave (h : p.leave = some after) : after.live + 1 = p.live := by
  obtain ⟨-, -, hidle, rfl⟩ := leave_eq_some h
  simp only [live]
  omega

/-- Taking a batch makes the queue shorter. -/
theorem size_take (h : p.take = some after) : after.queue.size + 1 = p.queue.size := by
  obtain ⟨idle, b, rest, -, hqueue, rfl⟩ := take_eq_some h
  rw [← Arrivals.length_toList p.queue, hqueue, List.length_cons, Arrivals.length_toList]

end Live

/-! ## Bounds -/

/-- A pool is as large as the settings say, and no larger. -/
structure Within (settings : Settings) (p : Pool) : Prop where
  /-- The regular number of senders is that of the settings. -/
  workers_eq : p.workers = settings.workers
  /-- The greatest number of senders is twice the regular one. -/
  ceiling_eq : p.ceiling = 2 * settings.workers
  /-- As many batches may wait as the settings say. -/
  capacity_eq : p.capacity = settings.sendQueue
  /-- There are not too many senders. -/
  live_le : p.live ≤ 2 * settings.workers
  /-- Not too many batches wait. -/
  size_le : p.queue.size ≤ settings.sendQueue

theorem make_eq_ok {settings : Settings} {pool : Pool} (made : make settings = .ok pool) :
    pool = { workers := settings.workers, ceiling := 2 * settings.workers,
             capacity := settings.sendQueue } := by
  rw [make, Settings.poolCeiling] at made
  split at made
  · cases made
  · cases made
  · next limit _ hlimit =>
    obtain rfl := Except.ok.inj made
    obtain ⟨-, rfl⟩ : _ ∧ settings.workers * 2 = limit := by
      simpa [Settings.burstLimit?] using hlimit
    rw [Nat.mul_comm]

theorem within_make {settings : Settings} {pool : Pool} (made : make settings = .ok pool) :
    pool.Within settings := by
  obtain rfl := make_eq_ok made
  exact ⟨rfl, rfl, rfl, Nat.zero_le _, Nat.zero_le _⟩

/-- A pool in which some batches may wait has room exactly for them. -/
theorem size_lt_of_hasRoom {p : Pool} (positive : 1 ≤ p.capacity) (h : p.hasRoom = true) :
    p.queue.size < p.capacity := by
  rw [hasRoom, if_neg (Nat.ne_of_gt positive)] at h
  exact of_decide_eq_true h

end Pool

namespace Desk

variable {π ρ : Type} {d : Downstream π ρ} {settings : Settings} {desk after : Desk π ρ}
  {move : Move}

theorem within_step (positive : 1 ≤ settings.sendQueue) (h : desk.pool.Within settings)
    (hstep : Step d desk move after) : after.pool.Within settings := by
  have hworkers := h.workers_eq
  have hceiling := h.ceiling_eq
  have hcapacity := h.capacity_eq
  have hlive := h.live_le
  have hsize := h.size_le
  cases hstep with
  | give b => exact h
  | proceed found free turn => exact h
  | @spawn call slip stage found turn =>
    obtain ⟨-, hfew⟩ := Pool.turn_eq_spawn turn
    have hspawn : (desk.pool.spawn slip.batch).live ≤ 2 * settings.workers := by
      rw [Pool.live_spawn]
      omega
    exact { h with live_le := hspawn }
  | @enqueue call slip stage found turn =>
    obtain ⟨-, hroom⟩ := Pool.turn_eq_enqueue turn
    have hbelow := Pool.size_lt_of_hasRoom (hcapacity.symm ▸ positive) hroom
    have hpush : desk.pool.queue.size + 1 ≤ settings.sendQueue := by omega
    exact { h with size_le := hpush }
  | refuse found turn => exact h
  | count leaving => exact { h with }
  | publish found => exact h
  | @finish place slip result pool found completed =>
    have hsame := Pool.live_complete completed
    obtain ⟨-, rfl⟩ := Pool.complete_eq_some completed
    cases result <;> exact { h with live_le := hsame.le.trans hlive }
  | @take slip rest pool found taken =>
    have hsame := Pool.live_take taken
    have hshorter := Pool.size_take taken
    obtain ⟨idle, b, queue, -, -, rfl⟩ := Pool.take_eq_some taken
    exact { h with
      live_le := hsame.le.trans hlive
      size_le := (Nat.le_succ _).trans (hshorter.le.trans hsize) }
  | @retire pool retired =>
    have hfewer := Pool.live_retire retired
    obtain ⟨-, -, rfl⟩ := Pool.retire_eq_some retired
    exact { h with live_le := (Nat.le_succ _).trans (hfewer.le.trans hlive) }
  | stay stays => exact h
  | @leave pool left =>
    have hfewer := Pool.live_leave left
    obtain ⟨-, -, -, rfl⟩ := Pool.leave_eq_some left
    exact { h with live_le := (Nat.le_succ _).trans (hfewer.le.trans hlive) }
  | shutdown free => exact { h with }

/-! ## Nobody waits for nobody -/

/-- One call at a time has the lock, and whoever waits, or is about to, has senders to wait for. -/
structure Staffed (desk : Desk π ρ) : Prop where
  /-- One call has the lock at most. -/
  locks_le : desk.calls.countP (·.2.locks) ≤ 1
  /-- While a call has the lock, the pool is open. -/
  accepting : ∀ call ∈ desk.calls, call.2.locks = true → desk.pool.accepting = true
  /-- A call that seeks a place in the queue can count on the regular number of senders. -/
  seeking : ∀ call ∈ desk.calls, call.2.seeks = true → desk.pool.workers ≤ desk.pool.live
  /-- What is in the queue can count on the regular number of senders. -/
  waiting : 0 < desk.pool.queue.size → desk.pool.workers ≤ desk.pool.live

theorem locked_eq_false_iff : desk.locked = false ↔ ∀ call ∈ desk.calls, call.2.locks = false := by
  simp [locked]

/-- A lock that is free stays free when a call ends. -/
theorem locked_eraseIdx {call : Nat} (calls : after.calls = desk.calls.eraseIdx call)
    (free : desk.locked = false) : after.locked = false := by
  rw [locked_eq_false_iff] at free ⊢
  intro other hother
  rw [calls] at hother
  exact free other (List.mem_of_mem_eraseIdx hother)

theorem countP_locks_of_free (free : desk.locked = false) :
    desk.calls.countP (·.2.locks) = 0 := by
  rw [List.countP_eq_zero]
  intro call hcall
  rw [locked_eq_false_iff.1 free call hcall]
  exact Bool.noConfusion

/-- How many calls have the lock when one of them has gone on. -/
theorem countP_locks_set {call : Nat} {slip : Slip} {stage : Stage}
    (found : desk.calls[call]? = some (slip, stage)) (next : Stage) :
    (desk.calls.set call (slip, next)).countP (·.2.locks) + stage.locks.toNat =
      desk.calls.countP (·.2.locks) + next.locks.toNat := by
  have hset := (perm_set found (slip, next)).countP_eq (·.2.locks)
  have hcalls := (perm_cons_eraseIdx found).countP_eq (·.2.locks)
  rw [hset, hcalls, List.countP_cons, List.countP_cons]
  cases stage.locks <;> cases next.locks <;> rfl

/-- How many calls have the lock when one of them has ended. -/
theorem countP_locks_eraseIdx {call : Nat} {slip : Slip} {stage : Stage}
    (found : desk.calls[call]? = some (slip, stage)) :
    (desk.calls.eraseIdx call).countP (·.2.locks) + stage.locks.toNat =
      desk.calls.countP (·.2.locks) := by
  rw [(perm_cons_eraseIdx found).countP_eq, List.countP_cons]
  cases stage.locks <;> rfl

theorem Staffed.proceed (h : desk.Staffed) {call : Nat} {slip : Slip} {stage next : Stage}
    (found : desk.calls[call]? = some (slip, stage))
    (free : stage = .arrived → desk.locked = false) (turn : desk.pool.turn stage = .go next) :
    (desk.proceed call slip next).Staffed := by
  have hmem : (slip, stage) ∈ desk.calls := List.mem_of_getElem? found
  have hlocks := countP_locks_set found next
  have hone := h.locks_le
  refine ⟨?_, ?_, ?_, h.waiting⟩
  · show (desk.calls.set call (slip, next)).countP (·.2.locks) ≤ 1
    cases hnext : next.locks with
    | false =>
      rw [hnext, Bool.toNat_false] at hlocks
      omega
    | true =>
      -- who has the lock now had it before, or found it free
      rw [hnext, Bool.toNat_true] at hlocks
      rcases Pool.locks_of_go turn hnext with hstage | ⟨harrived, -⟩
      · rw [hstage, Bool.toNat_true] at hlocks
        omega
      · have hnone := countP_locks_of_free (free harrived)
        omega
  · intro other hother locks
    rcases List.mem_or_eq_of_mem_set hother with hother | rfl
    · exact h.accepting other hother locks
    · rcases Pool.locks_of_go turn locks with hstage | ⟨-, hopen⟩
      · exact h.accepting _ hmem hstage
      · exact hopen
  · intro other hother seeks
    rcases List.mem_or_eq_of_mem_set hother with hother | rfl
    · exact h.seeking other hother seeks
    · rcases Pool.seeks_of_go turn seeks with hstage | hregular
      · exact h.seeking _ hmem hstage
      · exact hregular

/-- A call ends, and the pool has at least the senders that it had. -/
theorem Staffed.ended (h : desk.Staffed) (call : Nat)
    (same : after.pool.workers = desk.pool.workers)
    (opened : after.pool.accepting = desk.pool.accepting)
    (more : desk.pool.live ≤ after.pool.live) (calls : after.calls = desk.calls.eraseIdx call)
    (waiting : 0 < after.pool.queue.size → desk.pool.workers ≤ desk.pool.live) :
    after.Staffed := by
  have hsub : after.calls.Sublist desk.calls := by
    rw [calls]
    exact List.eraseIdx_sublist ..
  refine ⟨(hsub.countP_le).trans h.locks_le, ?_, ?_, ?_⟩
  · intro other hother locks
    rw [opened]
    exact h.accepting other (hsub.subset hother) locks
  · intro other hother seeks
    rw [same]
    exact (h.seeking other (hsub.subset hother) seeks).trans more
  · intro hwaits
    rw [same]
    exact (waiting hwaits).trans more

/-- The calls go on as they were, and the pool still has the regular number of senders if it had
them. -/
theorem Staffed.working (h : desk.Staffed) (same : after.pool.workers = desk.pool.workers)
    (opened : after.pool.accepting = desk.pool.accepting)
    (enough : desk.pool.workers ≤ desk.pool.live → desk.pool.workers ≤ after.pool.live)
    (calls : after.calls = desk.calls) (shorter : after.pool.queue.size ≤ desk.pool.queue.size) :
    after.Staffed := by
  refine ⟨by rw [calls]; exact h.locks_le, ?_, ?_, ?_⟩
  · intro other hother locks
    rw [opened]
    exact h.accepting other (calls ▸ hother) locks
  · intro other hother seeks
    rw [same]
    exact enough (h.seeking other (calls ▸ hother) seeks)
  · intro hwaits
    rw [same]
    exact enough (h.waiting (Nat.lt_of_lt_of_le hwaits shorter))

/-- A closed pool has no call with the lock. -/
theorem Staffed.free_of_closed (h : desk.Staffed) (closed : desk.pool.accepting = false) :
    desk.locked = false := by
  rw [locked_eq_false_iff]
  intro call hcall
  by_contra hlocks
  have hopen := h.accepting call hcall (by simpa using hlocks)
  rw [closed] at hopen
  exact Bool.noConfusion hopen

/-- Every step keeps the senders that somebody counts on. -/
theorem Staffed.step (h : desk.Staffed) (hstep : Step d desk move after) : after.Staffed := by
  cases hstep with
  | give b =>
    refine ⟨?_, ?_, ?_, h.waiting⟩
    · simp only [give, List.countP_append]
      exact h.locks_le
    · intro call hcall locks
      rcases List.mem_append.1 hcall with hcall | hcall
      · exact h.accepting call hcall locks
      · obtain rfl := List.mem_singleton.1 hcall
        exact Bool.noConfusion locks
    · intro call hcall seeks
      rcases List.mem_append.1 hcall with hcall | hcall
      · exact h.seeking call hcall seeks
      · obtain rfl := List.mem_singleton.1 hcall
        exact Bool.noConfusion seeks
  | proceed found free turn => exact h.proceed found free turn
  | @spawn call slip stage found turn =>
    have hmore : desk.pool.live ≤ (desk.pool.spawn slip.batch).live := by
      rw [Pool.live_spawn]
      exact Nat.le_succ _
    exact h.ended call rfl rfl hmore rfl h.waiting
  | @enqueue call slip stage found turn =>
    -- the batch joins the queue behind a call that has seen the regular number of senders
    obtain ⟨hseeks, -⟩ := Pool.turn_eq_enqueue turn
    have hregular := h.seeking _ (List.mem_of_getElem? found) hseeks
    exact h.ended call rfl rfl (Nat.le_refl _) rfl fun _ => hregular
  | @refuse call slip stage why found turn =>
    exact h.ended call rfl rfl (Nat.le_refl _) rfl h.waiting
  | count leaving => exact { h with }
  | publish found => exact { h with }
  | @finish place slip result pool found completed =>
    have hsame := Pool.live_complete completed
    obtain ⟨-, rfl⟩ := Pool.complete_eq_some completed
    have henough := fun hregular : desk.pool.workers ≤ desk.pool.live =>
      hregular.trans hsame.ge
    cases result <;> exact h.working rfl rfl henough rfl (Nat.le_refl _)
  | @take slip rest pool found taken =>
    have hsame := Pool.live_take taken
    have hshorter := Pool.size_take taken
    obtain ⟨idle, b, queue, -, -, rfl⟩ := Pool.take_eq_some taken
    exact h.working rfl rfl (fun hregular => hregular.trans hsame.ge) rfl
      (Nat.le_of_succ_le hshorter.le)
  | @retire pool retired =>
    have hfewer := Pool.live_retire retired
    obtain ⟨-, hbeyond, rfl⟩ := Pool.retire_eq_some retired
    exact h.working rfl rfl (fun _ => Nat.le_of_lt_succ (hbeyond.trans_eq hfewer.symm)) rfl
      (Nat.le_refl _)
  | stay stays => exact h
  | @leave pool left =>
    obtain ⟨hclosed, hempty, -, rfl⟩ := Pool.leave_eq_some left
    have hfree := locked_eq_false_iff.1 (h.free_of_closed hclosed)
    refine ⟨h.locks_le, h.accepting, fun call hcall seeks => ?_, fun hwaits => ?_⟩
    · have hlocks := Stage.locks_of_seeks seeks
      rw [hfree call hcall] at hlocks
      exact Bool.noConfusion hlocks
    · have hnone : desk.pool.queue.size = 0 := by simpa [Arrivals.isEmpty] using hempty
      exact absurd hnone (Nat.ne_of_gt hwaits)
  | shutdown free =>
    refine ⟨h.locks_le, fun call hcall locks => ?_, h.seeking, h.waiting⟩
    rw [locked_eq_false_iff.1 free call hcall] at locks
    exact Bool.noConfusion locks

theorem staffed_start (pool : Pool) (s : π) (r : ρ) (empty : pool.queue.size = 0) :
    (start pool s r).Staffed := by
  refine ⟨Nat.zero_le _, fun _ h => absurd h List.not_mem_nil, fun _ h => absurd h List.not_mem_nil,
    fun hwaits => ?_⟩
  exact absurd empty (Nat.ne_of_gt hwaits)

/-! ## As many slips as batches -/

/-- The desk has as many slips at a place as the pool has batches there, or has counted. -/
structure Tallied (desk : Desk π ρ) : Prop where
  /-- Senders hold as many. -/
  held_eq : desk.held.length = desk.pool.busy.length
  /-- As many wait. -/
  waiting_eq : desk.waiting.length = desk.pool.queue.size
  /-- As many were published. -/
  sent_eq : desk.pool.sent = desk.published.length
  /-- As many failed. -/
  failed_eq : desk.pool.failed = desk.failed.length

theorem Tallied.finish (h : desk.Tallied) {place : Nat} {slip : Slip} {result : Publication}
    {pool : Pool} (completed : desk.pool.complete place result = some pool) :
    (desk.finish place slip result pool).Tallied := by
  obtain ⟨hplace, rfl⟩ := Pool.complete_eq_some completed
  have hheld : (desk.held.eraseIdx place).length = (desk.pool.busy.eraseIdx place).length := by
    rw [List.length_eraseIdx_of_lt hplace, List.length_eraseIdx_of_lt (h.held_eq ▸ hplace),
      h.held_eq]
  have hsent : desk.pool.sent + 1 = (desk.published ++ [slip]).length := by
    rw [h.sent_eq, List.length_append, List.length_singleton]
  have hfailed : desk.pool.failed + 1 = (desk.failed ++ [(slip, result)]).length := by
    rw [h.failed_eq, List.length_append, List.length_singleton]
  cases result with
  | published => exact { h with held_eq := hheld, sent_eq := hsent }
  | failed message => exact { h with held_eq := hheld, failed_eq := hfailed }
  | panicked message => exact { h with held_eq := hheld, failed_eq := hfailed }

theorem Tallied.step (h : desk.Tallied) (hstep : Step d desk move after) : after.Tallied := by
  cases hstep with
  | give b => exact { h with }
  | proceed found free turn => exact { h with }
  | @spawn call slip stage found turn =>
    refine { h with held_eq := ?_ }
    simp only [spawn, Pool.spawn, List.length_append, List.length_singleton, h.held_eq]
  | @enqueue call slip stage found turn =>
    refine { h with waiting_eq := ?_ }
    simp only [enqueue, Pool.enqueue, Arrivals.push, List.length_append, List.length_singleton,
      h.waiting_eq]
  | refuse found turn => exact { h with }
  | count leaving => exact { h with }
  | @publish place slip found =>
    refine { h with held_eq := ?_ }
    exact (List.length_set ..).trans h.held_eq
  | finish found completed => exact h.finish completed
  | @take slip rest pool found taken =>
    have hshorter := Pool.size_take taken
    have hwaiting := h.waiting_eq
    obtain ⟨idle, b, queue, -, -, rfl⟩ := Pool.take_eq_some taken
    rw [found, List.length_cons] at hwaiting
    refine { h with held_eq := ?_, waiting_eq := Nat.succ.inj (hwaiting.trans hshorter.symm) }
    simp only [take, List.length_append, List.length_singleton, h.held_eq]
  | retire retired =>
    obtain ⟨-, -, rfl⟩ := Pool.retire_eq_some retired
    exact { h with }
  | stay stays => exact h
  | leave left =>
    obtain ⟨-, -, -, rfl⟩ := Pool.leave_eq_some left
    exact { h with }
  | shutdown free => exact { h with }

end Desk

end EventBatching
