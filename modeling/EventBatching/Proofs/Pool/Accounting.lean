import EventBatching.Proofs.Pool.Desk
import Mathlib.Data.List.InsertIdx
import Mathlib.Data.List.Nodup
import Mathlib.Data.List.Pairwise

/-!
# Every batch is in one place

A batch enters the pool with a regular sender, through the queue, with a further sender, or not at
all, and senders take, publish, fail and leave meanwhile. Whatever order these steps come in, every
slip of a desk is in exactly one place, the publisher is called at most once for it, and the
counters of the pool add up to the calls that were made.

* `Desk.Placed` says that the places together hold what was given; `Desk.Mirrors` that the slips are
  those of the batches in the pool; `Desk.Called` that the publisher and the policy were called for
  what the desk says. Each is kept by every step.
* `Desk.run_accounts` puts them together for every sequence of steps.
-/

namespace EventBatching

/-! ## Policies and publishers -/

/-- A policy never panics. -/
def Policy.Returns {ρ : Type} (policy : Policy ρ) : Prop :=
  ∀ b why s, (policy b why s).outcome = .returned

/-- The state of a policy after refused batches. -/
def Policy.refuseAll {ρ : Type} (policy : Policy ρ) (refused : List (Batch × Rejection)) (r : ρ) :
    ρ := refused.foldl (fun r (b, why) => (policy b why r).state) r

theorem Policy.refuseAll_concat {ρ : Type} (policy : Policy ρ) (refused : List (Batch × Rejection))
    (b : Batch) (why : Rejection) (r : ρ) :
    policy.refuseAll (refused ++ [(b, why)]) r =
      (policy b why (policy.refuseAll refused r)).state := by
  rw [refuseAll, List.foldl_append]
  rfl

/-- What a publisher answers to batches, one after another: it gets the text of the items of each
and its category, and is asked for no checks. -/
def Publisher.askAll {π : Type} (publisher : Publisher π) :
    List Batch → π → List Publication × π
  | [], s => ([], s)
  | b :: rest, s =>
    let (answer, s) := publisher (Json.printList b.items) b.category ⟨false, false⟩ s
    let (answers, s) := askAll publisher rest s
    (answer :: answers, s)

theorem Publisher.askAll_concat {π : Type} (publisher : Publisher π) (bs : List Batch) (b : Batch)
    (s : π) :
    publisher.askAll (bs ++ [b]) s =
      ((publisher.askAll bs s).1 ++ [(Pool.publish publisher b (publisher.askAll bs s).2).1],
        (Pool.publish publisher b (publisher.askAll bs s).2).2) := by
  induction bs generalizing s with
  | nil => rfl
  | cons b' rest ih =>
    rw [List.cons_append, askAll]
    simp only [ih]
    rfl

/-! ## Lists with one thing changed -/

section Lists

variable {α β : Type} {l : List α} {i : Nat}

theorem perm_cons_eraseIdx {a : α} (h : l[i]? = some a) : l.Perm (a :: l.eraseIdx i) := by
  induction l generalizing i with
  | nil => exact absurd h (by simp)
  | cons b rest ih =>
    cases i with
    | zero =>
      obtain rfl : b = a := by simpa using h
      exact List.Perm.refl _
    | succ i =>
      have hrest : rest.Perm (a :: rest.eraseIdx i) := ih (by simpa using h)
      exact (hrest.cons b).trans (List.Perm.swap a b _)

theorem perm_set {a : α} (h : l[i]? = some a) (a' : α) :
    (l.set i a').Perm (a' :: l.eraseIdx i) := by
  obtain ⟨hi, -⟩ := List.getElem?_eq_some_iff.1 h
  rw [← List.eraseIdx_set_eq (a := a')]
  exact perm_cons_eraseIdx (List.getElem?_set_self hi)

/-- A change that a function does not see. -/
theorem map_set_eq {a a' : α} (h : l[i]? = some a) (f : α → β) (hf : f a' = f a) :
    (l.set i a').map f = l.map f := by
  obtain ⟨hi, rfl⟩ := List.getElem?_eq_some_iff.1 h
  have hi' : i < (l.map f).length := by rwa [List.length_map]
  rw [List.map_set, hf, ← List.getElem_map f (h := hi')]
  exact List.set_getElem_self hi'

end Lists

namespace Desk

variable {π ρ : Type}

/-! ## Places -/

/-- Where a slip may be. -/
inductive Place where
  /-- A call that is under way has it. -/
  | inHand
  /-- A sender holds it. -/
  | held
  /-- It waits in the queue. -/
  | waiting
  /-- It was published. -/
  | published
  /-- The publisher failed on it. -/
  | failed
  /-- The policy was given it. -/
  | refused
  deriving Repr, DecidableEq

/-- All places. -/
def Place.all : List Place := [.inHand, .held, .waiting, .published, .failed, .refused]

theorem Place.mem_all (place : Place) : place ∈ all := by
  cases place <;> decide

/-- The slips at a place. -/
def slipsAt (desk : Desk π ρ) : Place → List Slip
  | .inHand => desk.calls.map (·.1)
  | .held => desk.held.map (·.1)
  | .waiting => desk.waiting
  | .published => desk.published
  | .failed => desk.failed.map (·.1)
  | .refused => desk.refused.map (·.1)

/-- The places together hold what was given. -/
def Placed (desk : Desk π ρ) : Prop := (Place.all.flatMap desk.slipsAt).Perm desk.given

section Steps

variable {d : Downstream π ρ} {desk after : Desk π ρ} {move : Move}

/-- A step puts a slip from one place to another, or leaves every slip where it is. -/
theorem Placed.step (h : desk.Placed) (hstep : Step d desk move after) : after.Placed := by
  classical
  rw [Placed, List.perm_iff_count] at h ⊢
  -- a step moves one slip, so it changes how often that slip is counted at two places at most
  intro slip
  have hslip := h slip
  simp only [Place.all, List.flatMap_cons, List.flatMap_nil, slipsAt, List.count_append,
    List.append_nil] at hslip ⊢
  cases hstep with
  | give b =>
    simp only [give, List.map_append, List.map_cons, List.map_nil, List.count_append]
    omega
  | @proceed call moved stage next found free turn =>
    have hset : (desk.calls.set call (moved, next)).map (·.1) = desk.calls.map (·.1) :=
      map_set_eq found (·.1) rfl
    simp only [proceed, hset]
    exact hslip
  | @spawn call moved stage found turn =>
    have hcall := ((perm_cons_eraseIdx found).map (·.1)).count_eq slip
    simp only [spawn, List.map_append, List.map_cons, List.map_nil, List.count_append,
      List.count_cons, List.count_nil] at hcall ⊢
    omega
  | @enqueue call moved stage found turn =>
    have hcall := ((perm_cons_eraseIdx found).map (·.1)).count_eq slip
    simp only [enqueue, List.map_cons, List.count_append, List.count_cons, List.count_nil]
      at hcall ⊢
    omega
  | @refuse call moved stage why found turn =>
    have hcall := ((perm_cons_eraseIdx found).map (·.1)).count_eq slip
    simp only [refuse, List.map_append, List.map_cons, List.map_nil, List.count_append,
      List.count_cons, List.count_nil] at hcall ⊢
    omega
  | count leaving => exact hslip
  | @publish place moved found =>
    simp only [publish, map_set_eq found (·.1)]
    exact hslip
  | @finish place moved result pool found completed =>
    have hheld := ((perm_cons_eraseIdx found).map (·.1)).count_eq slip
    simp only [finish, List.map_cons, List.count_cons] at hheld ⊢
    split
    · simp only [List.count_append, List.count_cons, List.count_nil]
      omega
    · simp only [List.map_append, List.map_cons, List.map_nil, List.count_append, List.count_cons,
        List.count_nil]
      omega
  | @take moved rest pool found taken =>
    simp only [take, found, List.map_append, List.map_cons, List.map_nil, List.count_append,
      List.count_cons, List.count_nil] at hslip ⊢
    omega
  | retire retired => exact hslip
  | stay stays => exact hslip
  | leave left => exact hslip
  | shutdown free => exact hslip

/-! ## The batches in the pool -/

end Steps

/-- The slips that senders hold and that wait are those of the batches in the pool, the counters of
the pool count the others, and the slips are numbered in the order of the calls. -/
structure Mirrors (desk : Desk π ρ) : Prop where
  /-- Senders hold the batches of the slips that they hold. -/
  busy_eq : desk.held.map (·.1.batch) = desk.pool.busy
  /-- The batches of the slips that wait are in the queue. -/
  queue_eq : desk.waiting.map (·.batch) = desk.pool.queue.toList
  /-- The published slips are counted. -/
  sent_eq : desk.pool.sent = desk.published.length
  /-- The failed slips are counted. -/
  failed_eq : desk.pool.failed = desk.failed.length
  /-- The refused slips are counted, or will be. -/
  rejected_eq : desk.pool.rejected + desk.leaving = desk.refused.length
  /-- A slip has the number of the calls before its own. -/
  tickets_eq : desk.given.map (·.ticket) = List.range desk.given.length

section Steps

variable {d : Downstream π ρ} {desk after : Desk π ρ} {move : Move}

theorem Mirrors.step (returns : d.policy.Returns) (h : desk.Mirrors)
    (hstep : Step d desk move after) : after.Mirrors := by
  cases hstep with
  | give b =>
    refine { h with tickets_eq := ?_ }
    rw [give, List.map_append, h.tickets_eq, List.length_append, List.length_singleton,
      List.range_succ]
    rfl
  | proceed found free turn => exact { h with }
  | @spawn call slip stage found turn =>
    refine { h with busy_eq := ?_ }
    rw [spawn, List.map_append, h.busy_eq]
    rfl
  | @enqueue call slip stage found turn =>
    refine { h with queue_eq := ?_ }
    rw [enqueue, List.map_append, h.queue_eq, Pool.enqueue, Arrivals.toList_push]
    rfl
  | @refuse call slip stage why found turn =>
    refine { h with rejected_eq := ?_ }
    simp only [refuse, if_pos (returns slip.batch why desk.policy), List.length_append,
      List.length_singleton]
    have hrejected := h.rejected_eq
    omega
  | count leaving =>
    refine { h with rejected_eq := ?_ }
    have hrejected := h.rejected_eq
    simp only [count]
    omega
  | @publish place slip found =>
    have hset : (desk.held.set place (slip, some (Pool.publish d.publisher slip.batch
        desk.publisher).1)).map (·.1.batch) = desk.held.map (·.1.batch) :=
      map_set_eq found (·.1.batch) rfl
    exact { h with busy_eq := hset.trans h.busy_eq }
  | @finish place slip result pool found completed =>
    obtain ⟨-, rfl⟩ := Pool.complete_eq_some completed
    have hbusy : (desk.held.eraseIdx place).map (·.1.batch) = desk.pool.busy.eraseIdx place := by
      rw [← h.busy_eq, List.eraseIdx_map]
    have hsent : desk.pool.sent + 1 = (desk.published ++ [slip]).length := by
      rw [h.sent_eq, List.length_append, List.length_singleton]
    have hfailed : desk.pool.failed + 1 = (desk.failed ++ [(slip, result)]).length := by
      rw [h.failed_eq, List.length_append, List.length_singleton]
    cases result with
    | published => exact { h with busy_eq := hbusy, sent_eq := hsent }
    | failed message => exact { h with busy_eq := hbusy, failed_eq := hfailed }
    | panicked message => exact { h with busy_eq := hbusy, failed_eq := hfailed }
  | @take slip rest pool found taken =>
    obtain ⟨idle, b, queue, -, hqueue, rfl⟩ := Pool.take_eq_some taken
    have hwaiting := h.queue_eq
    rw [found, List.map_cons, hqueue, List.cons.injEq] at hwaiting
    refine { h with busy_eq := ?_, queue_eq := hwaiting.2 }
    rw [take, List.map_append, h.busy_eq, ← hwaiting.1]
    rfl
  | retire retired =>
    obtain ⟨-, -, rfl⟩ := Pool.retire_eq_some retired
    exact { h with }
  | stay stays => exact h
  | leave left =>
    obtain ⟨-, -, -, rfl⟩ := Pool.leave_eq_some left
    exact { h with }
  | shutdown free => exact { h with }

end Steps

/-! ## What the publisher and the policy were called for -/

/-- What a sender holds, if it has called the publisher for it. -/
def begun? (h : Slip × Option Publication) : Option (Slip × Publication) := h.2.map (h.1, ·)

/-- What senders hold and have called the publisher for. -/
def begun (desk : Desk π ρ) : List (Slip × Publication) := desk.held.filterMap begun?

/-- The publisher was called for what senders have begun, what was published and what failed, and
the policy for what was refused. -/
structure Called (d : Downstream π ρ) (s : π) (r : ρ) (desk : Desk π ρ) : Prop where
  /-- The publisher was called once for each slip that is begun or done, with the result counted. -/
  called_perm : desk.called.Perm
    (desk.begun ++ desk.published.map (·, .published) ++ desk.failed)
  /-- What failed was not published. -/
  failed_ne : ∀ failure ∈ desk.failed, failure.2 ≠ .published
  /-- The publisher answered what the desk says, and ended as it says. -/
  publisher_eq : d.publisher.askAll (desk.called.map (·.1.batch)) s =
    (desk.called.map (·.2), desk.publisher)
  /-- The policy was told what the desk says. -/
  policy_eq : d.policy.refuseAll (desk.refused.map fun told => (told.1.batch, told.2)) r =
    desk.policy

section Steps

variable {d : Downstream π ρ} {s : π} {r : ρ} {desk after : Desk π ρ} {move : Move}

theorem begun_concat_none (held : List (Slip × Option Publication)) (slip : Slip) :
    (held ++ [(slip, none)]).filterMap begun? = held.filterMap begun? := by
  rw [List.filterMap_append]
  exact List.append_nil _

theorem Called.publish (h : desk.Called d s r) {place : Nat} {slip : Slip}
    (found : desk.held[place]? = some (slip, none)) :
    (desk.publish d place slip).Called d s r := by
  classical
  have hbegun : desk.begun.Perm ((desk.held.eraseIdx place).filterMap begun?) :=
    (perm_cons_eraseIdx found).filterMap begun?
  have hset := (perm_set found (slip, some (Pool.publish d.publisher slip.batch
    desk.publisher).1)).filterMap begun?
  refine ⟨?_, h.failed_ne, ?_, h.policy_eq⟩
  · rw [List.perm_iff_count]
    intro x
    have hx := h.called_perm.count_eq x
    have hbegun := hbegun.count_eq x
    have hset := hset.count_eq x
    simp only [Desk.publish, begun, begun?, List.filterMap_cons, Option.map_some,
      List.count_append, List.count_cons, List.count_nil] at hx hbegun hset ⊢
    omega
  · simp only [Desk.publish, List.map_append, List.map_cons, List.map_nil]
    rw [Publisher.askAll_concat, h.publisher_eq]

theorem Called.finish (h : desk.Called d s r) {place : Nat} {slip : Slip} {result : Publication}
    {pool : Pool} (found : desk.held[place]? = some (slip, some result)) :
    (desk.finish place slip result pool).Called d s r := by
  classical
  have hbegun : desk.begun.Perm
      ((slip, result) :: (desk.held.eraseIdx place).filterMap begun?) :=
    (perm_cons_eraseIdx found).filterMap begun?
  by_cases hresult : result = .published
  · subst hresult
    refine ⟨?_, ?_, h.publisher_eq, h.policy_eq⟩
    · rw [List.perm_iff_count]
      intro x
      have hx := h.called_perm.count_eq x
      have hbegun := hbegun.count_eq x
      simp only [Desk.finish, if_true, begun, List.map_append, List.map_cons, List.map_nil,
        List.count_append, List.count_cons, List.count_nil] at hx hbegun ⊢
      omega
    · exact h.failed_ne
  · refine ⟨?_, ?_, h.publisher_eq, h.policy_eq⟩
    · rw [List.perm_iff_count]
      intro x
      have hx := h.called_perm.count_eq x
      have hbegun := hbegun.count_eq x
      simp only [Desk.finish, if_neg hresult, begun, List.count_append, List.count_cons,
        List.count_nil] at hx hbegun ⊢
      omega
    · simp only [Desk.finish, if_neg hresult]
      intro failure hfailure
      rcases List.mem_append.1 hfailure with hfailure | hfailure
      · exact h.failed_ne failure hfailure
      · obtain rfl := List.mem_singleton.1 hfailure
        exact hresult

theorem Called.step (h : desk.Called d s r) (hstep : Step d desk move after) :
    after.Called d s r := by
  cases hstep with
  | give b => exact { h with }
  | proceed found free turn => exact { h with }
  | @spawn call slip stage found turn =>
    refine { h with called_perm := ?_ }
    rw [begun, spawn, begun_concat_none]
    exact h.called_perm
  | enqueue found turn => exact { h with }
  | @refuse call slip stage why found turn =>
    refine { h with policy_eq := ?_ }
    simp only [refuse, List.map_append, List.map_cons, List.map_nil]
    rw [Policy.refuseAll_concat, h.policy_eq]
  | count leaving => exact { h with }
  | publish found => exact h.publish found
  | finish found completed => exact h.finish found
  | @take slip rest pool found taken =>
    refine { h with called_perm := ?_ }
    rw [begun, take, begun_concat_none]
    exact h.called_perm
  | retire retired => exact { h with }
  | stay stays => exact h
  | leave left => exact { h with }
  | shutdown free => exact { h with }

end Steps

/-! ## Every run -/

section Runs

variable {d : Downstream π ρ} {s : π} {r : ρ} {desk : Desk π ρ}

theorem placed_start (pool : Pool) (s : π) (r : ρ) : (start pool s r).Placed := List.Perm.refl _

theorem mirrors_start {settings : Settings} {pool : Pool} (made : Pool.make settings = .ok pool)
    (s : π) (r : ρ) : (start pool s r).Mirrors := by
  cases hceiling : settings.poolCeiling with
  | error excess =>
    rw [Pool.make, hceiling] at made
    cases made
  | ok ceiling =>
    rw [Pool.make, hceiling] at made
    obtain rfl := Except.ok.inj made
    exact ⟨rfl, rfl, rfl, rfl, rfl, rfl⟩

theorem called_start (d : Downstream π ρ) (pool : Pool) (s : π) (r : ρ) :
    (start pool s r).Called d s r :=
  ⟨List.Perm.refl _, fun _ h => absurd h List.not_mem_nil, rfl, rfl⟩

theorem given_nodup (h : desk.Mirrors) : desk.given.Nodup := by
  have htickets : (desk.given.map (·.ticket)).Nodup := by
    rw [h.tickets_eq]
    exact List.nodup_range
  exact List.Nodup.of_map _ htickets

theorem Placed.nodup (h : desk.Placed) (mirrors : desk.Mirrors) :
    (Place.all.flatMap desk.slipsAt).Nodup := h.nodup_iff.2 (given_nodup mirrors)

/-- A slip that was given is in one place and in no other. -/
theorem Placed.existsUnique (h : desk.Placed) (mirrors : desk.Mirrors) {slip : Slip}
    (given : slip ∈ desk.given) : ∃! place, slip ∈ desk.slipsAt place := by
  obtain ⟨place, -, hplace⟩ := List.mem_flatMap.1 (h.mem_iff.2 given)
  refine ⟨place, hplace, fun other hother => ?_⟩
  by_contra hne
  obtain ⟨-, hdisjoint⟩ := List.nodup_flatMap.1 (h.nodup mirrors)
  have hsym : Std.Symm (Function.onFun List.Disjoint desk.slipsAt) :=
    ⟨fun _ _ hxy => List.disjoint_symm hxy⟩
  exact hdisjoint.forall other.mem_all place.mem_all hne hother hplace

theorem begun_sublist (held : List (Slip × Option Publication)) :
    ((held.filterMap begun?).map (·.1)).Sublist (held.map (·.1)) := by
  induction held with
  | nil => exact List.Sublist.refl _
  | cons h rest ih =>
    obtain ⟨slip, result⟩ := h
    cases result with
    | none => exact ih.cons slip
    | some result => exact ih.cons_cons slip

/-- What the publisher was called for is at three of the places, each once. -/
theorem Called.sublist (h : desk.Called d s r) :
    ∃ slips, slips.Perm (desk.called.map (·.1)) ∧
      (slips ++ desk.slipsAt .refused).Sublist (Place.all.flatMap desk.slipsAt) := by
  refine ⟨_, (h.called_perm.map (·.1)).symm, ?_⟩
  have hpublished : (desk.published.map (·, Publication.published)).map (·.1) = desk.published := by
    rw [List.map_map]
    exact List.map_id _
  simp only [Place.all, List.flatMap_cons, List.flatMap_nil, List.append_nil, slipsAt,
    List.map_append, List.append_assoc, hpublished]
  refine List.Sublist.trans ?_ (List.sublist_append_right ..)
  exact (begun_sublist desk.held).append (List.sublist_append_right ..)

/-- **Every batch is in one place, and every call is accounted for.** Whatever steps are performed
on a new pool with a policy that never panics: the desk has the batches that were given; each slip
is in exactly one place, which has it once; senders and the queue hold what the pool says; the
publisher was called at most once for a slip, and never for one that was refused, and it answered to
its calls, one after another, as the places of the slips say. The counters of the pool, with what
waits and what senders hold, add up to the calls but for those under way. -/
theorem run_accounts (returns : d.policy.Returns) {settings : Settings} {pool : Pool}
    (made : Pool.make settings = .ok pool) (s : π) (r : ρ) {moves : List Move}
    (reached : run d moves (start pool s r) = some desk) :
    desk.given.map (·.batch) = moves.filterMap Move.batch? ∧
      (∀ slip ∈ desk.given, ∃! place, slip ∈ desk.slipsAt place) ∧
      (∀ place, (desk.slipsAt place).Nodup ∧ desk.slipsAt place ⊆ desk.given) ∧
      desk.Mirrors ∧ desk.Called d s r ∧ (desk.called.map (·.1)).Nodup ∧
      (∀ slip ∈ desk.called.map (·.1), slip ∉ desk.slipsAt .refused) ∧
      desk.pool.sent + desk.pool.failed + desk.pool.rejected + desk.pool.queue.size +
          desk.pool.busy.length + (desk.calls.length + desk.leaving) =
        (moves.filterMap Move.batch?).length := by
  have hplaced : desk.Placed :=
    run_invariant (fun _ _ _ h hstep => h.step hstep) (placed_start pool s r) reached
  have hmirrors : desk.Mirrors :=
    run_invariant (fun _ _ _ h hstep => h.step returns hstep) (mirrors_start made s r) reached
  have hcalled : desk.Called d s r :=
    run_invariant (fun _ _ _ h hstep => h.step hstep) (called_start d pool s r) reached
  have hgiven : desk.given.map (·.batch) = moves.filterMap Move.batch? := run_given reached
  have hnodup := hplaced.nodup hmirrors
  obtain ⟨slips, hslips, hsublist⟩ := hcalled.sublist
  obtain ⟨honce, -, hrefused⟩ := List.nodup_append.1 (hsublist.nodup hnodup)
  refine ⟨hgiven, fun slip h => hplaced.existsUnique hmirrors h, fun place => ⟨?_, ?_⟩, hmirrors,
    hcalled, hslips.nodup_iff.1 honce, ?_, ?_⟩
  · exact (List.nodup_flatMap.1 hnodup).1 place place.mem_all
  · exact fun slip h => hplaced.mem_iff.1 (List.mem_flatMap.2 ⟨place, place.mem_all, h⟩)
  · exact fun slip h hwas => hrefused slip (hslips.mem_iff.2 h) slip hwas rfl
  -- the counters are the lengths of places, and the lengths of all places add up to the calls
  · have hplaces := hplaced.length_eq
    have hbusy := congrArg List.length hmirrors.busy_eq
    have hqueue := congrArg List.length hmirrors.queue_eq
    have hsent := hmirrors.sent_eq
    have hfailed := hmirrors.failed_eq
    have hrejected := hmirrors.rejected_eq
    simp only [Place.all, List.flatMap_cons, List.flatMap_nil, slipsAt, List.length_append,
      List.length_map, List.length_nil] at hplaces
    rw [← hgiven, List.length_map]
    rw [List.length_map] at hbusy hqueue
    rw [Arrivals.length_toList] at hqueue
    omega

end Runs

/-- A publisher that takes, fails or panics by the category, and a policy that counts. -/
def mixedDownstream : Downstream Nat Nat where
  publisher := fun _ category _ s =>
    (if category = "taken" then .published
      else if category = "failing" then .failed "downstream rejected it"
      else .panicked "publisher panics", s + 1)
  policy := fun _ _ r => ⟨.returned, r + 1, []⟩

/-- Steps in which one batch starts a sender, one waits, one starts a further sender and two are
refused, while one is taken, one fails and one panics. -/
def mixedMoves : List Move :=
  [.give ⟨"taken", []⟩, .advance 0, .advance 0, .give ⟨"failing", []⟩, .give ⟨"panicking", []⟩,
    .advance 0, .publish 0, .advance 0, .advance 0, .advance 0, .advance 0, .advance 0, .advance 0,
    .give ⟨"late", []⟩, .advance 0, .advance 0, .advance 0, .advance 0, .finish 0, .publish 0,
    .advance 0, .take, .publish 1, .shutdown, .give ⟨"later", []⟩, .finish 0, .advance 0, .expire,
    .count, .finish 0, .advance 0, .leave, .count]

theorem run_accounts_mixedMoves :
    mixedDownstream.policy.Returns ∧
      ∃ pool desk, Pool.make { workers := 1, sendQueue := 1 } = .ok pool ∧
        run mixedDownstream mixedMoves (start pool 0 0) = some desk ∧
        (desk.pool.sent, desk.pool.failed, desk.pool.rejected, desk.pool.live) = (1, 2, 2, 0) ∧
        desk.given.length = 5 ∧ ∀ slip ∈ desk.given, ∃! place, slip ∈ desk.slipsAt place := by
  have returns : mixedDownstream.policy.Returns := fun _ _ _ => rfl
  let pool : Pool := { workers := 1, ceiling := 2, capacity := 1 }
  have made : Pool.make { workers := 1, sendQueue := 1 } = .ok pool := rfl
  have hcounted : (run mixedDownstream mixedMoves (start pool 0 0)).map (fun desk =>
      ((desk.pool.sent, desk.pool.failed, desk.pool.rejected, desk.pool.live),
        desk.given.length)) = some ((1, 2, 2, 0), 5) := by
    decide
  obtain ⟨desk, reached, hdesk⟩ := Option.map_eq_some_iff.1 hcounted
  obtain ⟨hcounters, hgiven⟩ := Prod.mk.inj hdesk
  obtain ⟨-, hplaces, -⟩ := run_accounts returns made 0 0 reached
  exact ⟨returns, pool, desk, made, reached, hcounters, hgiven, hplaces⟩

end Desk

end EventBatching
