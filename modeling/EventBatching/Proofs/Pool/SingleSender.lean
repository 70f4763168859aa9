import EventBatching.Proofs.Pool.Order

/-!
# A pool with one regular sender

Let the regular number of senders be one. As long as no batch finds the queue full, no second sender
is started: the first one is started for the first batch, it never leaves an open pool, and neither
a failing publisher nor an idle time ends it. So there is one line, from the calls through the queue
to the publisher, and the publisher is called for the batches in the order in which the pool took
them in, one after another.

* `Crew.Roomy` says that no batch has found the queue full.
* `Crew.Single` is the line, and `Crew.Single.step` says that every step of a roomy crew keeps it.
* `Crew.Welcoming` says that an open pool turns no batch away.
* `Crew.Lone` puts together what is known of such a pool, and `Crew.Lone.step` says that every step
  keeps it.
* `Crew.PublishesInOrder` is what follows for the publisher.
-/

namespace EventBatching

/-- The state of a publisher after calls is that after one call after another. -/
theorem Publisher.askAll_state {π : Type} (publisher : Publisher π) (bs : List Batch) (s : π) :
    (publisher.askAll bs s).2 =
      bs.foldl (fun s b => (publisher (Json.printList b.items) b.category .internal s).2) s := by
  induction bs generalizing s with
  | nil => rfl
  | cons b rest ih => exact ih _

namespace Crew

variable {π ρ : Type} {d : Downstream π ρ} {settings : Settings} {crew after : Crew π ρ}
  {duty : Duty}

/-! ## One line -/

/-- No call has found the queue full. -/
def Roomy (crew : Crew π ρ) : Prop := ∀ call ∈ crew.desk.calls, call.2 ≠ .crowded

instance : DecidablePred (Roomy (π := π) (ρ := ρ)) :=
  fun crew => inferInstanceAs (Decidable (∀ call ∈ crew.desk.calls, call.2 ≠ .crowded))

/-- What senders hold that the publisher was not called for. -/
def unpublished (held : List (Slip × Option Publication)) : List Slip :=
  (held.filter (·.2.isNone)).map (·.1)

/-- There is one sender at most, and what was taken in was published, or the sender has it, or it
waits. -/
structure Single (crew : Crew π ρ) : Prop where
  /-- There is not a second sender. -/
  live_le : crew.desk.pool.live ≤ 1
  /-- The publisher was called in the order in which the pool took in. -/
  taken_eq : crew.desk.called.map (·.1) ++ unpublished crew.desk.held ++ crew.desk.waiting =
    crew.taken

theorem single_begin {pool : Pool} (made : Pool.make settings = .ok pool) (s : π) (r : ρ) :
    (begin pool s r).Single := by
  obtain rfl := Pool.make_eq_ok made
  exact ⟨Nat.zero_le _, rfl⟩

/-- A sender holds one batch. -/
theorem Single.held_le (h : crew.Single) (tallied : crew.desk.Tallied) :
    crew.desk.held.length ≤ 1 := by
  rw [tallied.held_eq]
  exact (Nat.le_add_right ..).trans h.live_le

/-- A sender is started when there is none, and then nothing is before its batch. -/
theorem Single.spawn (h : crew.Single) (sound : crew.Sound settings)
    (single : settings.workers = 1) (roomy : crew.Roomy) {call : Nat} {slip : Slip} {stage : Stage}
    (found : crew.desk.calls[call]? = some (slip, stage))
    (turn : crew.desk.pool.turn stage = .spawn) :
    Single { crew with desk := crew.desk.spawn call slip, hiring := some slip } := by
  obtain ⟨-, hfew⟩ | ⟨hcrowded, -⟩ := Pool.spawn_cases turn
  · rw [sound.within.workers_eq, single] at hfew
    have hnone : crew.desk.pool.live = 0 := by omega
    have hheld : crew.desk.held = [] := by
      rw [← List.length_eq_zero_iff, sound.tallied.held_eq]
      exact (Nat.add_eq_zero_iff.1 hnone).1
    have hwaiting : crew.desk.waiting = [] := by
      rw [← List.length_eq_zero_iff, sound.tallied.waiting_eq]
      by_contra hwaits
      have hregular := sound.staffed.waiting (Nat.pos_of_ne_zero hwaits)
      rw [sound.within.workers_eq] at hregular
      omega
    have htaken := h.taken_eq
    rw [hheld, hwaiting] at htaken
    refine ⟨?_, ?_⟩
    · show (crew.desk.pool.spawn slip.batch).live ≤ 1
      rw [Pool.live_spawn, hnone]
    · rw [sound.keyed.taken_hiring found (Pool.turn_eq_spawn turn).1, ← htaken]
      simp [Desk.spawn, hheld, hwaiting, unpublished]
  · exact absurd hcrowded (roomy _ (List.mem_of_getElem? found))

/-- Every step keeps the line, if no batch has found the queue full. -/
theorem Single.step (h : crew.Single) (sound : crew.Sound settings)
    (single : settings.workers = 1) (roomy : crew.Roomy) (hstep : Step d crew duty after) :
    after.Single := by
  have hlive := h.live_le
  have htaken := h.taken_eq
  have hheld := h.held_le sound.tallied
  cases hstep with
  | give b => exact ⟨hlive, htaken⟩
  | proceed found free turn => exact ⟨hlive, htaken⟩
  | spawn found turn => exact h.spawn sound single roomy found turn
  | enqueue found turn =>
    refine ⟨hlive, ?_⟩
    rw [sound.keyed.taken_accepted found (Stage.locks_of_seeks (Pool.turn_eq_enqueue turn).1),
      ← htaken]
    simp [Desk.enqueue]
  | refuse found turn => exact ⟨hlive, htaken⟩
  | start hiring =>
    refine ⟨hlive, ?_⟩
    rw [taken_start hiring]
    exact htaken
  | count leaving => exact ⟨hlive, htaken⟩
  | publish found started =>
    obtain ⟨honly, rfl⟩ := eq_singleton_of_getElem? hheld found
    refine ⟨hlive, ?_⟩
    rw [honly] at htaken
    refine Eq.trans ?_ htaken
    simp [Desk.publish, honly, unpublished]
  | @finish place slip result pool found completed =>
    obtain ⟨honly, rfl⟩ := eq_singleton_of_getElem? hheld found
    have hsame := Pool.live_complete completed
    refine ⟨hsame.trans_le hlive, ?_⟩
    rw [honly] at htaken
    refine Eq.trans ?_ htaken
    simp [Desk.finish, honly, unpublished]
  | @take slip rest pool rests found taken =>
    have hsame := Pool.live_take taken
    obtain ⟨idle, b, queue, hidle, -, rfl⟩ := Pool.take_eq_some taken
    -- the sender that takes the batch is the only one, so nobody holds any
    have hnone : crew.desk.held = [] := by
      rw [← List.length_eq_zero_iff, sound.tallied.held_eq]
      rw [Pool.live, hidle] at hlive
      omega
    refine ⟨hsame.trans_le h.live_le, ?_⟩
    rw [hnone, found] at htaken
    refine Eq.trans ?_ htaken
    simp [Desk.take, hnone, unpublished]
  | expire rests => exact ⟨hlive, htaken⟩
  | @retire pool expired retired =>
    have hfewer := Pool.live_retire retired
    refine ⟨?_, htaken⟩
    show pool.live ≤ 1
    omega
  | stay expired stays => exact ⟨hlive, htaken⟩
  | cut rests closed empty => exact ⟨hlive, htaken⟩
  | depart cutOff =>
    refine ⟨?_, htaken⟩
    simp only [Crew.depart, Pool.live] at hlive ⊢
    omega
  | part parting => exact ⟨hlive, htaken⟩
  | shutdown free hiring => exact ⟨hlive, htaken⟩
  | release closed owns => exact ⟨hlive, htaken⟩

/-! ## Nobody is turned away -/

/-- While the pool is open, no batch is turned away. -/
def Welcoming (crew : Crew π ρ) : Prop :=
  crew.desk.pool.accepting = true →
    (∀ call ∈ crew.desk.calls, ∀ why, call.2 ≠ .turnedAway why) ∧ crew.desk.refused = []

theorem welcoming_begin (pool : Pool) (s : π) (r : ρ) : (begin pool s r).Welcoming :=
  fun _ => ⟨fun _ h => absurd h List.not_mem_nil, rfl⟩

/-- A call that has ended is not turned away. -/
theorem Welcoming.ended (h : crew.Welcoming) {call : Nat}
    (accepting : after.desk.pool.accepting = crew.desk.pool.accepting)
    (calls : after.desk.calls = crew.desk.calls.eraseIdx call)
    (refused : after.desk.refused = crew.desk.refused) : after.Welcoming := by
  intro hopen
  rw [accepting] at hopen
  obtain ⟨hcalls, hrefused⟩ := h hopen
  rw [calls, refused]
  exact ⟨fun other hother => hcalls other (List.mem_of_mem_eraseIdx hother), hrefused⟩

theorem Welcoming.step (h : crew.Welcoming) (roomy : crew.Roomy)
    (hstep : Step d crew duty after) : after.Welcoming := by
  cases hstep with
  | give b =>
    intro hopen
    obtain ⟨hcalls, hrefused⟩ := h hopen
    refine ⟨fun call hcall why => ?_, hrefused⟩
    rcases List.mem_append.1 hcall with hcall | hcall
    · exact hcalls call hcall why
    · obtain rfl := List.mem_singleton.1 hcall
      exact Stage.noConfusion
  | proceed found free turn =>
    intro hopen
    obtain ⟨hcalls, hrefused⟩ := h hopen
    refine ⟨fun other hother why => ?_, hrefused⟩
    rcases List.mem_or_eq_of_mem_set hother with hother | rfl
    · exact hcalls other hother why
    · rintro rfl
      obtain ⟨-, hclosed, -⟩ | ⟨hcrowded, -⟩ := Pool.turnedAway_of_go turn
      · exact Bool.noConfusion (hclosed.symm.trans hopen)
      · exact absurd hcrowded (roomy _ (List.mem_of_getElem? found))
  | spawn found turn => exact h.ended rfl rfl rfl
  | enqueue found turn => exact h.ended rfl rfl rfl
  | refuse found turn =>
    intro hopen
    have hstage := Pool.turnedAway_of_refuse turn
    exact absurd hstage ((h hopen).1 _ (List.mem_of_getElem? found) _)
  | @finish place slip result pool found completed =>
    obtain ⟨-, rfl⟩ := Pool.complete_eq_some completed
    cases result <;> exact h
  | take rests found taken =>
    obtain ⟨idle, b, queue, -, -, rfl⟩ := Pool.take_eq_some taken
    exact h
  | retire expired retired =>
    obtain ⟨-, -, rfl⟩ := Pool.retire_eq_some retired
    exact h
  | shutdown free hiring => exact fun hopen => Bool.noConfusion hopen
  | _ => exact h

/-- Once a batch was refused, nothing is taken in. -/
theorem Welcoming.taken_eq (h : crew.Welcoming) (sound : crew.Sound settings)
    (hstep : Step d crew duty after) (refused : crew.desk.refused ≠ []) :
    after.taken = crew.taken := by
  refine hstep.taken_of_closed sound.staffed ?_
  by_contra hopen
  exact refused (h (by simpa using hopen)).2

/-! ## What is known of one sender -/

/-- What every step keeps of a pool with one regular sender, as long as no batch has found the queue
full. -/
structure Lone (d : Downstream π ρ) (settings : Settings) (s : π) (r : ρ) (crew : Crew π ρ) :
    Prop where
  /-- The threads are sound. -/
  sound : crew.Sound settings
  /-- There is one line. -/
  single : crew.Single
  /-- The publisher was called as the desk says. -/
  called : crew.desk.Called d s r
  /-- An open pool turns no batch away. -/
  welcoming : crew.Welcoming

theorem lone_begin {pool : Pool} (made : Pool.make settings = .ok pool) (s : π) (r : ρ) :
    (begin pool s r).Lone d settings s r :=
  ⟨sound_begin made s r, single_begin made s r, Desk.called_start d pool s r,
    welcoming_begin pool s r⟩

variable {s : π} {r : ρ}

theorem Lone.step (h : crew.Lone d settings s r) (single : settings.workers = 1)
    (places : 1 ≤ settings.sendQueue) (roomy : crew.Roomy) (hstep : Step d crew duty after) :
    after.Lone d settings s r where
  sound := h.sound.step places hstep
  single := h.single.step h.sound single roomy hstep
  called := hstep.keepsOnDesk h.sound.headcount (fun _ _ _ hdesk hmove => hdesk.step hmove) h.called
  welcoming := h.welcoming.step roomy hstep

/-- What the publisher was called for is the first of what was taken in. -/
theorem Lone.called_prefix (h : crew.Lone d settings s r) :
    crew.desk.called.map (·.1) <+: crew.taken := by
  rw [← h.single.taken_eq, List.append_assoc]
  exact List.prefix_append ..

/-- The publisher was called with the texts of the batches, one after another. -/
theorem Lone.publisher_eq (h : crew.Lone d settings s r) :
    crew.desk.publisher = (crew.desk.called.map (·.1.batch)).foldl
      (fun s b => (d.publisher (Json.printList b.items) b.category .internal s).2) s := by
  rw [← Publisher.askAll_state, h.called.publisher_eq]

/-- When nobody has a handle any more, the publisher was called for everything that was accepted. -/
theorem Lone.ended (h : crew.Lone d settings s r) (single : settings.workers = 1)
    (nobody : crew.handles = 0) :
    crew.desk.called.map (·.1) = crew.taken ∧ crew.taken = crew.accepted := by
  obtain ⟨-, hlive, hqueue, hhiring, -⟩ := h.sound.ended (Nat.le_of_eq single.symm) nobody
  have hheld : crew.desk.held = [] := by
    rw [← List.length_eq_zero_iff, h.sound.tallied.held_eq]
    exact (Nat.add_eq_zero_iff.1 hlive).1
  have hwaiting : crew.desk.waiting = [] := by
    rw [← List.length_eq_zero_iff, h.sound.tallied.waiting_eq, hqueue]
  have htaken := h.single.taken_eq
  rw [hheld, hwaiting] at htaken
  exact ⟨by simpa [unpublished] using htaken, by simp [taken, hhiring]⟩

/-- The one sender stays as long as the pool is open or a batch waits. -/
theorem Lone.stays (h : crew.Lone d settings s r) (single : settings.workers = 1)
    (hstep : Step d crew duty after) (fewer : after.desk.pool.live < crew.desk.pool.live) :
    duty = .depart ∧ crew.desk.pool.accepting = false ∧ crew.desk.pool.queue.size = 0 := by
  obtain ⟨-, hregular⟩ | hdepart := h.sound.fewer hstep fewer
  · -- a sender that retires would leave another one behind, and there is none
    have hone := h.single.live_le
    omega
  · exact hdepart

/-! ## The order of publishing -/

/-- One sender publishes in the order in which the pool took in. -/
structure PublishesInOrder (d : Downstream π ρ) (s : π) (crew : Crew π ρ) : Prop
    extends Single crew where
  /-- Batches are published one at a time. -/
  held_le : crew.desk.held.length ≤ 1
  /-- Of every batch the publisher gets the text of its items and its category. -/
  publisher_eq : crew.desk.publisher = (crew.desk.called.map (·.1.batch)).foldl
    (fun s b => (d.publisher (Json.printList b.items) b.category .internal s).2) s
  /-- An open pool refuses nothing. -/
  refused_nil : crew.desk.pool.accepting = true → crew.desk.refused = []
  /-- The sender leaves when the pool is closed and nothing waits, and not before. -/
  stays : ∀ duty after, crew.step d duty = some after →
    after.desk.pool.live < crew.desk.pool.live →
      duty = .depart ∧ crew.desk.pool.accepting = false ∧ crew.desk.pool.queue.size = 0
  /-- At the end everything that was accepted was published. -/
  ended : crew.handles = 0 →
    crew.desk.called.map (·.1) = crew.taken ∧ crew.taken = crew.accepted

theorem Lone.publishesInOrder (h : crew.Lone d settings s r) (single : settings.workers = 1) :
    crew.PublishesInOrder d s where
  toSingle := h.single
  held_le := h.single.held_le h.sound.tallied
  publisher_eq := h.publisher_eq
  refused_nil := fun hopen => (h.welcoming hopen).2
  stays := fun _ _ hstep fewer => h.stays single (step_cases hstep) fewer
  ended := h.ended single

/-- A run through states in which no batch has found the queue full keeps to one sender, and takes
its batches in turn if one call ends before the next begins. -/
theorem lone_run {pool : Pool} (made : Pool.make settings = .ok pool)
    (single : settings.workers = 1) (places : 1 ≤ settings.sendQueue) (s : π) (r : ρ)
    {duties : List Duty} {kind : Crew π ρ → Prop} (roomy : ∀ mid, kind mid → mid.Roomy)
    (along : Throughout (step d) kind duties (begin pool s r))
    (reached : run d duties (begin pool s r) = some crew) :
    crew.Lone d settings s r ∧ ((∀ mid, kind mid → mid.underWay ≤ 1) → crew.InTurn) := by
  have hkept : ∀ (mid : Crew π ρ) duty next, kind mid → True →
      mid.Lone d settings s r ∧ ((∀ mid, kind mid → mid.underWay ≤ 1) → mid.InTurn) →
      Step d mid duty next →
      next.Lone d settings s r ∧ ((∀ mid, kind mid → mid.underWay ≤ 1) → next.InTurn) := by
    intro mid duty next hkind _ ⟨hlone, hturns⟩ hstep
    refine ⟨hlone.step single places (roomy mid hkind) hstep, fun alone => ?_⟩
    exact (hturns alone).step hlone.sound.keyed (alone mid hkind)
      (hlone.welcoming.taken_eq hlone.sound hstep) hstep
  exact run_invariant_along hkept along (fun _ _ => trivial)
    ⟨lone_begin made s r, fun _ => inTurn_begin pool s r⟩ reached

end Crew

end EventBatching
