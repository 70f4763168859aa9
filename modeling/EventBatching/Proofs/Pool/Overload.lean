import EventBatching.Proofs.Pool.Order

/-!
# When a pool is full

A batch is refused by a call that looks three times, at how many senders there are, at the queue and
at the senders again, while the senders go on with their work. Still there is one number that
settles it: the batches that wait or that a sender holds. A pool that is open holds twice its
regular number of senders and what its queue holds, and not one more. It refuses a batch exactly
when it holds that many, provided that no sender is idle while a batch waits.

While no publication ends, the pool fills up in one order: the first batches have the regular
senders, the next ones wait, and the last ones have the further senders.

* `Pool.outstanding` is that number, and `Pool.offer_eq_queueFull_iff` the rule.
* `Crew.Reaches` follows a call that nobody interrupts from stage to stage; `Crew.run_full` and
  `Crew.run_notFull` say how it ends.
* `Crew.Filled` is where the batches of a pool are that fills up, and `Crew.Filled.step` says that
  every step keeps it so, unless a publication ends or the pool is shut down.
* `Crew.run_overload` puts this together.
-/

namespace EventBatching

/-! ## Lists that grow behind -/

section Lists

variable {α : Type} {w c : Nat} {l : List α}

/-- One more of the first things. -/
theorem filling_first (few : l.length < w) (a : α) :
    (l ++ [a]).take w ++ (l ++ [a]).drop (w + c) = l.take w ++ l.drop (w + c) ++ [a] ∧
      ((l ++ [a]).drop w).take c = (l.drop w).take c := by
  have hlong : (l ++ [a]).length ≤ w := by
    rw [List.length_append, List.length_singleton]
    omega
  have hshort : l.length ≤ w := Nat.le_of_lt few
  rw [List.take_of_length_le hlong, List.drop_eq_nil_of_le (Nat.le_add_right_of_le hlong),
    List.drop_eq_nil_of_le hlong, List.take_of_length_le hshort,
    List.drop_eq_nil_of_le (Nat.le_add_right_of_le hshort), List.drop_eq_nil_of_le hshort]
  simp

/-- One more of the things between. -/
theorem filling_between (first : w ≤ l.length) (few : l.length < w + c) (a : α) :
    (l ++ [a]).take w ++ (l ++ [a]).drop (w + c) = l.take w ++ l.drop (w + c) ∧
      ((l ++ [a]).drop w).take c = (l.drop w).take c ++ [a] := by
  have hlong : (l ++ [a]).length ≤ w + c := by
    rw [List.length_append, List.length_singleton]
    omega
  have hnext : (l.drop w ++ [a]).length ≤ c := by
    rw [List.length_append, List.length_drop, List.length_singleton]
    omega
  have hshort : (l.drop w).length ≤ c := by
    rw [List.length_drop]
    omega
  rw [List.take_append_of_le_length first, List.drop_eq_nil_of_le hlong,
    List.drop_eq_nil_of_le (Nat.le_of_lt few), List.drop_append_of_le_length first,
    List.take_of_length_le hnext, List.take_of_length_le hshort]
  exact ⟨rfl, rfl⟩

/-- One more of the last things. -/
theorem filling_last (many : w + c ≤ l.length) (a : α) :
    (l ++ [a]).take w ++ (l ++ [a]).drop (w + c) = l.take w ++ l.drop (w + c) ++ [a] ∧
      ((l ++ [a]).drop w).take c = (l.drop w).take c := by
  have hfirst : w ≤ l.length := by omega
  have hnext : c ≤ (l.drop w).length := by
    rw [List.length_drop]
    omega
  rw [List.take_append_of_le_length hfirst, List.drop_append_of_le_length many,
    List.drop_append_of_le_length hfirst, List.take_append_of_le_length hnext, List.append_assoc]
  exact ⟨rfl, rfl⟩

end Lists

/-! ## How much a pool holds -/

namespace Pool

/-- The number of batches that wait or that a sender holds. -/
def outstanding (p : Pool) : Nat := p.busy.length + p.queue.size

/-- No sender is idle while a batch waits. -/
def Diligent (p : Pool) : Prop := p.idle = 0 ∨ p.queue.size = 0

instance (p : Pool) : Decidable p.Diligent := inferInstanceAs (Decidable (_ ∨ _))

section Full

variable {p : Pool} {settings : Settings}

theorem Within.outstanding_le (h : p.Within settings) :
    p.outstanding ≤ 2 * settings.workers + settings.sendQueue := by
  have hlive := h.live_le
  have hsize := h.size_le
  rw [live] at hlive
  rw [outstanding]
  omega

/-- A pool in which no sender is idle while a batch waits is as full as it can be when it can have
no sender more and its queue is full. -/
theorem Within.outstanding_eq_iff (h : p.Within settings) (places : 1 ≤ settings.sendQueue)
    (diligent : p.Diligent) :
    p.outstanding = 2 * settings.workers + settings.sendQueue ↔
      settings.sendQueue ≤ p.queue.size ∧ 2 * settings.workers ≤ p.live := by
  have hlive := h.live_le
  have hsize := h.size_le
  rw [live] at hlive
  rw [outstanding, live]
  rcases diligent with hidle | hnone <;> omega

/-- An open pool refuses a batch exactly when it is as full as it can be. -/
theorem offer_eq_queueFull_iff (h : p.Within settings) (workers : 1 ≤ settings.workers)
    (places : 1 ≤ settings.sendQueue) (opened : p.accepting = true) (diligent : p.Diligent)
    (b : Batch) :
    p.offer b = .error (.queueFull settings.sendQueue) ↔
      p.outstanding = 2 * settings.workers + settings.sendQueue := by
  have hroom := hasRoom_iff (p := p) (h.capacity_eq ▸ places)
  rw [h.capacity_eq] at hroom
  rw [h.outstanding_eq_iff places diligent, offer, h.workers_eq, h.ceiling_eq, h.capacity_eq,
    if_neg (by simp [opened])]
  split
  · next hfew =>
    simp only [reduceCtorEq, false_iff]
    omega
  · next hregular =>
    split
    · next hplace =>
      simp only [reduceCtorEq, false_iff]
      rw [hroom] at hplace
      omega
    · next hfull =>
      rw [hroom] at hfull
      split
      · simp only [reduceCtorEq, false_iff]
        omega
      · simp only [true_iff]
        omega

end Full

end Pool

namespace Crew

variable {π ρ : Type} {d : Downstream π ρ}

/-! ## A call that nobody interrupts -/

/-- The crew with a call that has come to a stage. -/
def asking (crew : Crew π ρ) (slip : Slip) (stage : Stage) : Crew π ρ :=
  { crew with desk := ({ crew.desk with given := crew.desk.given ++ [slip] }).hosting slip stage }

/-- The crew with a sender more, for a batch that was given. -/
def hired (crew : Crew π ρ) (slip : Slip) : Crew π ρ :=
  { crew with
    desk := { crew.desk with
      pool := crew.desk.pool.spawn slip.batch
      held := crew.desk.held ++ [(slip, none)]
      given := crew.desk.given ++ [slip] }
    threads := crew.threads + 1
    accepted := crew.accepted ++ [slip] }

/-- The crew with a batch more that waits. -/
def lined (crew : Crew π ρ) (slip : Slip) : Crew π ρ :=
  { crew with
    desk := { crew.desk with
      pool := crew.desk.pool.enqueue slip.batch
      waiting := crew.desk.waiting ++ [slip]
      given := crew.desk.given ++ [slip] }
    accepted := crew.accepted ++ [slip] }

/-- The crew with a batch more that the policy was given. -/
def turnedDown (d : Downstream π ρ) (crew : Crew π ρ) (slip : Slip) (why : Rejection) :
    Crew π ρ :=
  let disposal := d.policy slip.batch why crew.desk.policy
  { crew with
    desk := { crew.desk with
      policy := disposal.state
      leaving := if disposal.outcome = .returned then crew.desk.leaving + 1 else crew.desk.leaving
      refused := crew.desk.refused ++ [(slip, why)]
      given := crew.desk.given ++ [slip] } }

section Alone

variable {crew : Crew π ρ} {slip : Slip} {stage : Stage}

/-- The newest call does its next step if nobody has the lock. -/
theorem step_asking (free : crew.desk.locked = false) (unhired : crew.hiring = none) {turn : Turn}
    (hturn : crew.desk.pool.turn stage = turn) :
    (crew.asking slip stage).step d (.advance crew.desk.calls.length) =
      some ((crew.asking slip stage).follow
        ((crew.asking slip stage).desk.follow d crew.desk.calls.length slip turn) slip turn) := by
  have hfound : (crew.asking slip stage).desk.calls[crew.desk.calls.length]? = some (slip, stage) :=
    List.getElem?_concat_length
  have hdesk := Desk.advance_hosting { crew.desk with given := crew.desk.given ++ [slip] } slip
    stage d free hturn
  have hwaits : ¬(stage = .arrived ∧ (crew.asking slip stage).hiring.isSome) := by
    simp [asking, unhired]
  rw [step, advance, hfound]
  simp only [if_neg hwaits]
  rw [show (crew.asking slip stage).desk.pool = crew.desk.pool from rfl, hturn]
  exact congrArg (Option.map _) hdesk

/-- The steps of a call that has come to a stage and was alone. -/
def Reaches (d : Downstream π ρ) (crew : Crew π ρ) (b : Batch) (steps : Nat) (stage : Stage) :
    Prop :=
  run d (.give b :: List.replicate steps (.advance crew.desk.calls.length)) crew =
    some (crew.asking ⟨crew.desk.given.length, b⟩ stage)

theorem reaches_arrived (d : Downstream π ρ) (crew : Crew π ρ) (b : Batch) :
    Reaches d crew b 0 .arrived := rfl

/-- The call does its last step. -/
theorem Reaches.run {b : Batch} {steps : Nat} (reaches : Reaches d crew b steps stage)
    (free : crew.desk.locked = false) (unhired : crew.hiring = none) {turn : Turn}
    (hturn : crew.desk.pool.turn stage = turn) :
    Crew.run d (.give b :: List.replicate (steps + 1) (.advance crew.desk.calls.length)) crew =
      some ((crew.asking ⟨crew.desk.given.length, b⟩ stage).follow
        ((crew.asking ⟨crew.desk.given.length, b⟩ stage).desk.follow d crew.desk.calls.length
          ⟨crew.desk.given.length, b⟩ turn) ⟨crew.desk.given.length, b⟩ turn) := by
  rw [List.replicate_succ', ← List.cons_append, run_append, reaches, Option.bind_some, Crew.run,
    step_asking free unhired hturn]
  rfl

/-- The call goes on to another stage. -/
theorem Reaches.go {b : Batch} {steps : Nat} (reaches : Reaches d crew b steps stage)
    (free : crew.desk.locked = false) (unhired : crew.hiring = none) {next : Stage}
    (hturn : crew.desk.pool.turn stage = .go next) : Reaches d crew b (steps + 1) next := by
  rw [Reaches, reaches.run free unhired hturn, follow]
  exact congrArg (fun desk => some { crew with desk := desk })
    (Desk.hosting_proceed _ ⟨crew.desk.given.length, b⟩ stage next)

section Stages

variable (free : crew.desk.locked = false) (unhired : crew.hiring = none)
  (opened : crew.desk.pool.accepting = true)
include free unhired opened

/-- An open pool lets a batch in. -/
theorem reaches_admitted (d : Downstream π ρ) (b : Batch) : Reaches d crew b 1 .admitted :=
  (reaches_arrived d crew b).go free unhired (by simp [Pool.turn, opened])

theorem reaches_unplaced (regular : ¬crew.desk.pool.live < crew.desk.pool.workers)
    (d : Downstream π ρ) (b : Batch) : Reaches d crew b 2 .unplaced :=
  (reaches_admitted free unhired opened d b).go free unhired (by rw [Pool.turn, if_neg regular])

theorem reaches_crowded (regular : ¬crew.desk.pool.live < crew.desk.pool.workers)
    (full : ¬crew.desk.pool.hasRoom = true) (d : Downstream π ρ) (b : Batch) :
    Reaches d crew b 3 .crowded :=
  (reaches_unplaced free unhired opened regular d b).go free unhired
    (by rw [Pool.turn, if_neg full])

end Stages

/-- A call that starts a sender leaves it behind. -/
theorem Reaches.run_hired {b : Batch} {steps : Nat} (reaches : Reaches d crew b steps stage)
    (free : crew.desk.locked = false) (unhired : crew.hiring = none)
    (hturn : crew.desk.pool.turn stage = .spawn) :
    Crew.run d (.give b :: (List.replicate (steps + 1) (.advance crew.desk.calls.length) ++
      [.start])) crew = some (crew.hired ⟨crew.desk.given.length, b⟩) := by
  rw [← List.cons_append, run_append, reaches.run free unhired hturn]
  simp only [follow, Desk.follow, asking, Desk.hosting, Desk.spawn, Desk.eraseIdx_newest,
    Option.bind_some, Crew.run, step, Option.map_some, Crew.start, hired, unhired]

/-- A call that finds a place in the queue leaves its batch there. -/
theorem Reaches.run_lined {b : Batch} {steps : Nat} (reaches : Reaches d crew b steps stage)
    (free : crew.desk.locked = false) (unhired : crew.hiring = none)
    (hturn : crew.desk.pool.turn stage = .enqueue) :
    Crew.run d (.give b :: List.replicate (steps + 1) (.advance crew.desk.calls.length)) crew =
      some (crew.lined ⟨crew.desk.given.length, b⟩) := by
  rw [reaches.run free unhired hturn]
  simp only [follow, Desk.follow, asking, Desk.hosting, Desk.enqueue, Desk.eraseIdx_newest, lined]

/-- A call that finds no place gives its batch to the policy, and to nobody else. -/
theorem Reaches.run_turnedDown {b : Batch} {steps : Nat} {why : Rejection}
    (reaches : Reaches d crew b steps (.turnedAway why)) (free : crew.desk.locked = false)
    (unhired : crew.hiring = none) :
    Crew.run d (.give b :: List.replicate (steps + 1) (.advance crew.desk.calls.length)) crew =
      some (crew.turnedDown d ⟨crew.desk.given.length, b⟩ why) := by
  rw [reaches.run free unhired (rfl : crew.desk.pool.turn _ = .refuse why)]
  simp only [follow, Desk.follow, asking, Desk.hosting, Desk.refuse, Desk.eraseIdx_newest,
    turnedDown]
  rfl

end Alone

/-- A call that nobody interrupts, at an open pool that is as full as it can be, gives its batch to
the policy and changes nothing else. -/
theorem run_full {settings : Settings} {crew : Crew π ρ} (sound : crew.Sound settings)
    (workers : 1 ≤ settings.workers) (places : 1 ≤ settings.sendQueue)
    (free : crew.desk.locked = false) (unhired : crew.hiring = none)
    (opened : crew.desk.pool.accepting = true) (diligent : crew.desk.pool.Diligent)
    (full : crew.desk.pool.outstanding = 2 * settings.workers + settings.sendQueue) (b : Batch) :
    run d (.give b :: List.replicate 5 (.advance crew.desk.calls.length)) crew =
      some (crew.turnedDown d ⟨crew.desk.given.length, b⟩ (.queueFull settings.sendQueue)) := by
  have hwithin := sound.within
  obtain ⟨hsize, hlive⟩ := (hwithin.outstanding_eq_iff places diligent).1 full
  have hroom := Pool.hasRoom_iff (p := crew.desk.pool) (hwithin.capacity_eq ▸ places)
  rw [hwithin.capacity_eq] at hroom
  have hregular : ¬crew.desk.pool.live < crew.desk.pool.workers := by
    rw [hwithin.workers_eq]
    omega
  have hplace : ¬crew.desk.pool.hasRoom = true := by
    rw [hroom]
    omega
  have hturn : crew.desk.pool.turn .crowded =
      .go (.turnedAway (.queueFull settings.sendQueue)) := by
    rw [Pool.turn, if_neg (by rw [hwithin.ceiling_eq]; omega), hwithin.capacity_eq]
  have hcrowded := reaches_crowded free unhired opened hregular hplace d b
  exact (hcrowded.go free unhired hturn).run_turnedDown free unhired

/-- A call that nobody interrupts, at an open pool that is not as full as it can be, starts a sender
or finds a place in the queue. -/
theorem run_notFull {settings : Settings} {crew : Crew π ρ} (sound : crew.Sound settings)
    (places : 1 ≤ settings.sendQueue) (free : crew.desk.locked = false)
    (unhired : crew.hiring = none) (opened : crew.desk.pool.accepting = true)
    (diligent : crew.desk.pool.Diligent)
    (room : crew.desk.pool.outstanding ≠ 2 * settings.workers + settings.sendQueue) (b : Batch) :
    ∃ steps, (∀ duty ∈ steps, duty = .advance crew.desk.calls.length ∨ duty = .start) ∧
      (run d (.give b :: steps) crew = some (crew.hired ⟨crew.desk.given.length, b⟩) ∨
        run d (.give b :: steps) crew = some (crew.lined ⟨crew.desk.given.length, b⟩)) := by
  have hwithin := sound.within
  have hsettled := (hwithin.outstanding_eq_iff places diligent).not.1 room
  have hroom := Pool.hasRoom_iff (p := crew.desk.pool) (hwithin.capacity_eq ▸ places)
  rw [hwithin.capacity_eq] at hroom
  have hcalls : ∀ n, ∀ duty ∈ List.replicate n (Duty.advance crew.desk.calls.length),
      duty = .advance crew.desk.calls.length ∨ duty = .start :=
    fun n duty hduty => .inl (List.eq_of_mem_replicate hduty)
  have hstart : ∀ n, ∀ duty ∈ List.replicate n (Duty.advance crew.desk.calls.length) ++ [.start],
      duty = .advance crew.desk.calls.length ∨ duty = .start := by
    intro n duty hduty
    rcases List.mem_append.1 hduty with hduty | hduty
    · exact hcalls n duty hduty
    · exact .inr (List.mem_singleton.1 hduty)
  by_cases hregular : crew.desk.pool.live < crew.desk.pool.workers
  · have hadmitted := reaches_admitted free unhired opened d b
    exact ⟨_, hstart 2, .inl
      (hadmitted.run_hired free unhired (by rw [Pool.turn, if_pos hregular]))⟩
  by_cases hplace : crew.desk.pool.hasRoom = true
  · have hunplaced := reaches_unplaced free unhired opened hregular d b
    exact ⟨_, hcalls 3, .inr
      (hunplaced.run_lined free unhired (by rw [Pool.turn, if_pos hplace]))⟩
  have hcrowded := reaches_crowded free unhired opened hregular hplace d b
  rw [hroom] at hplace
  have hburst : crew.desk.pool.live < crew.desk.pool.ceiling := by
    rw [hwithin.ceiling_eq]
    omega
  exact ⟨_, hstart 4, .inl (hcrowded.run_hired free unhired (by rw [Pool.turn, if_pos hburst]))⟩

/-! ## A pool that fills up -/

/-- What is taken in goes to the regular senders first, then into the queue, and then to the further
senders. -/
structure Filled (settings : Settings) (crew : Crew π ρ) : Prop where
  /-- The pool is open. -/
  accepting : crew.desk.pool.accepting = true
  /-- No sender has ended its work. -/
  idle_eq : crew.desk.pool.idle = 0
  /-- Senders hold the first batches and the last ones. -/
  held_eq : crew.desk.held.map (·.1) = crew.taken.take settings.workers ++
    crew.taken.drop (settings.workers + settings.sendQueue)
  /-- Those between them wait. -/
  waiting_eq : crew.desk.waiting = (crew.taken.drop settings.workers).take settings.sendQueue
  /-- A call that found the queue full still finds it so. -/
  crowded : ∀ call ∈ crew.desk.calls, call.2 = .crowded →
    settings.sendQueue ≤ crew.desk.pool.queue.size
  /-- A batch is turned away when as many were taken in as there may be. -/
  turnedAway : ∀ call ∈ crew.desk.calls, ∀ why, call.2 = .turnedAway why →
    why = .queueFull settings.sendQueue ∧
      2 * settings.workers + settings.sendQueue ≤ crew.taken.length
  /-- A batch is refused for the same reason. -/
  refused : ∀ told ∈ crew.desk.refused, told.2 = .queueFull settings.sendQueue ∧
    2 * settings.workers + settings.sendQueue ≤ crew.taken.length

section Filling

variable {settings : Settings} {crew after : Crew π ρ} {duty : Duty}

theorem filled_begin {pool : Pool} (made : Pool.make settings = .ok pool) (s : π) (r : ρ) :
    (begin pool s r).Filled settings := by
  obtain rfl := Pool.make_eq_ok made
  exact ⟨rfl, rfl, by simp [taken, begin, Desk.start], by simp [taken, begin, Desk.start],
    fun _ h => absurd h List.not_mem_nil, fun _ h => absurd h List.not_mem_nil,
    fun _ h => absurd h List.not_mem_nil⟩

/-- How many senders there are, and how many batches wait, when so many were taken in. -/
theorem Filled.counts (h : crew.Filled settings) (sound : crew.Sound settings) :
    crew.desk.pool.live = min settings.workers crew.taken.length +
        (crew.taken.length - (settings.workers + settings.sendQueue)) ∧
      crew.desk.pool.queue.size =
        min settings.sendQueue (crew.taken.length - settings.workers) := by
  have hheld := congrArg List.length h.held_eq
  have hwaiting := congrArg List.length h.waiting_eq
  rw [List.length_map, sound.tallied.held_eq, List.length_append, List.length_take,
    List.length_drop] at hheld
  rw [sound.tallied.waiting_eq, List.length_take, List.length_drop] at hwaiting
  rw [Pool.live, h.idle_eq, hheld]
  exact ⟨rfl, hwaiting⟩

theorem Filled.length_le (h : crew.Filled settings) (sound : crew.Sound settings)
    (places : 1 ≤ settings.sendQueue) :
    crew.taken.length ≤ 2 * settings.workers + settings.sendQueue := by
  obtain ⟨hlive, -⟩ := h.counts sound
  have hmost := sound.within.live_le
  omega

/-- A call that ends takes nothing from the others. -/
theorem Filled.ended (h : crew.Filled settings) (call : Nat) (slip : Slip)
    (calls : after.desk.calls = crew.desk.calls.eraseIdx call)
    (taken : after.taken = crew.taken ++ [slip]) (refused : after.desk.refused = crew.desk.refused)
    (longer : crew.desk.pool.queue.size ≤ after.desk.pool.queue.size)
    (accepting : after.desk.pool.accepting = true) (idle_eq : after.desk.pool.idle = 0)
    (held_eq : after.desk.held.map (·.1) = after.taken.take settings.workers ++
      after.taken.drop (settings.workers + settings.sendQueue))
    (waiting_eq : after.desk.waiting =
      (after.taken.drop settings.workers).take settings.sendQueue) :
    after.Filled settings := by
  have hcalls : ∀ other ∈ after.desk.calls, other ∈ crew.desk.calls := by
    intro other hother
    rw [calls] at hother
    exact List.mem_of_mem_eraseIdx hother
  have hlength : crew.taken.length ≤ after.taken.length := by
    rw [taken, List.length_append]
    exact Nat.le_add_right ..
  refine ⟨accepting, idle_eq, held_eq, waiting_eq, ?_, ?_, ?_⟩
  · intro other hother hstage
    exact (h.crowded other (hcalls other hother) hstage).trans longer
  · intro other hother why hstage
    obtain ⟨hwhy, hmany⟩ := h.turnedAway other (hcalls other hother) why hstage
    exact ⟨hwhy, hmany.trans hlength⟩
  · intro told htold
    rw [refused] at htold
    obtain ⟨hwhy, hmany⟩ := h.refused told htold
    exact ⟨hwhy, hmany.trans hlength⟩

/-- A sender is started for one of the first batches or for one of the last. -/
theorem Filled.spawn (h : crew.Filled settings) (sound : crew.Sound settings)
    (places : 1 ≤ settings.sendQueue) {call : Nat} {slip : Slip} {stage : Stage}
    (found : crew.desk.calls[call]? = some (slip, stage))
    (turn : crew.desk.pool.turn stage = .spawn) :
    Filled settings { crew with desk := crew.desk.spawn call slip, hiring := some slip } := by
  have htaken := sound.keyed.taken_hiring found (Pool.turn_eq_spawn turn).1
    (crew.desk.spawn call slip)
  obtain ⟨hlive, hsize⟩ := h.counts sound
  obtain ⟨hheld, hwaiting⟩ :
      (crew.taken ++ [slip]).take settings.workers ++
          (crew.taken ++ [slip]).drop (settings.workers + settings.sendQueue) =
        crew.taken.take settings.workers ++
          crew.taken.drop (settings.workers + settings.sendQueue) ++ [slip] ∧
      ((crew.taken ++ [slip]).drop settings.workers).take settings.sendQueue =
        (crew.taken.drop settings.workers).take settings.sendQueue := by
    obtain ⟨-, hfew⟩ | ⟨hstage, -⟩ := Pool.spawn_cases turn
    · rw [sound.within.workers_eq] at hfew
      exact filling_first (by omega) slip
    · have hfull := h.crowded _ (List.mem_of_getElem? found) hstage
      exact filling_last (by omega) slip
  refine h.ended call slip rfl htaken rfl (Nat.le_refl _) h.accepting h.idle_eq ?_ ?_
  · rw [htaken, hheld, ← h.held_eq]
    simp [Desk.spawn]
  · rw [htaken, hwaiting]
    exact h.waiting_eq

/-- A batch waits when the regular senders have theirs. -/
theorem Filled.enqueue (h : crew.Filled settings) (sound : crew.Sound settings)
    (places : 1 ≤ settings.sendQueue) {call : Nat} {slip : Slip} {stage : Stage}
    (found : crew.desk.calls[call]? = some (slip, stage))
    (turn : crew.desk.pool.turn stage = .enqueue) :
    Filled settings { crew with
      desk := crew.desk.enqueue call slip
      accepted := crew.accepted ++ [slip] } := by
  obtain ⟨hseeks, hroom⟩ := Pool.turn_eq_enqueue turn
  have htaken := sound.keyed.taken_accepted found (Stage.locks_of_seeks hseeks)
    (crew.desk.enqueue call slip)
  obtain ⟨hlive, hsize⟩ := h.counts sound
  have hregular := sound.staffed.seeking _ (List.mem_of_getElem? found) hseeks
  rw [Pool.hasRoom_iff (sound.within.capacity_eq ▸ places), sound.within.capacity_eq] at hroom
  rw [sound.within.workers_eq] at hregular
  obtain ⟨hheld, hwaiting⟩ := filling_between (w := settings.workers) (c := settings.sendQueue)
    (l := crew.taken) (by omega) (by omega) slip
  refine h.ended call slip rfl htaken rfl (Nat.le_succ _) h.accepting h.idle_eq ?_ ?_
  · rw [htaken, hheld]
    exact h.held_eq
  · rw [htaken, hwaiting, ← h.waiting_eq]
    rfl

/-- A call finds the queue full, or turns away, only when that is so. -/
theorem Filled.proceed (h : crew.Filled settings) (sound : crew.Sound settings)
    (places : 1 ≤ settings.sendQueue) {call : Nat} {slip : Slip} {stage next : Stage}
    (found : crew.desk.calls[call]? = some (slip, stage))
    (turn : crew.desk.pool.turn stage = .go next) :
    Filled settings { crew with desk := crew.desk.proceed call slip next } := by
  obtain ⟨hlive, hsize⟩ := h.counts sound
  refine { h with crowded := fun other hother hstage => ?_, turnedAway := ?_ }
  · rcases List.mem_or_eq_of_mem_set hother with hother | rfl
    · exact h.crowded other hother hstage
    · obtain rfl : next = .crowded := hstage
      obtain ⟨-, hfull⟩ := Pool.crowded_of_go turn
      have hroom := (Pool.hasRoom_iff (p := crew.desk.pool) (sound.within.capacity_eq ▸ places)).not
      rw [hfull, sound.within.capacity_eq] at hroom
      exact Nat.le_of_not_lt (hroom.1 Bool.false_ne_true)
  · intro other hother why hstage
    rcases List.mem_or_eq_of_mem_set hother with hother | rfl
    · exact h.turnedAway other hother why hstage
    · obtain rfl : next = .turnedAway why := hstage
      obtain ⟨-, hclosed, -⟩ | ⟨hcrowded, hmost, hwhy⟩ := Pool.turnedAway_of_go turn
      · exact Bool.noConfusion (h.accepting.symm.trans hclosed)
      · have hfull := h.crowded _ (List.mem_of_getElem? found) hcrowded
        rw [sound.within.ceiling_eq] at hmost
        rw [sound.within.capacity_eq] at hwhy
        refine ⟨hwhy, ?_⟩
        show 2 * settings.workers + settings.sendQueue ≤ crew.taken.length
        omega

/-- A step keeps a pool filled in its order, unless a publication ends or the pool is shut down. -/
theorem Filled.step (h : crew.Filled settings) (sound : crew.Sound settings)
    (places : 1 ≤ settings.sendQueue) (unfinished : ∀ place, duty ≠ .finish place)
    (opened : duty ≠ .shutdown) (hstep : Step d crew duty after) : after.Filled settings := by
  have hrests : ¬0 < crew.resting := by
    rw [resting, h.idle_eq]
    omega
  cases hstep with
  | give b =>
    refine { h with crowded := fun call hcall hstage => ?_, turnedAway := ?_ }
    · rcases List.mem_append.1 hcall with hcall | hcall
      · exact h.crowded call hcall hstage
      · obtain rfl := List.mem_singleton.1 hcall
        exact Stage.noConfusion hstage
    · intro call hcall why hstage
      rcases List.mem_append.1 hcall with hcall | hcall
      · exact h.turnedAway call hcall why hstage
      · obtain rfl := List.mem_singleton.1 hcall
        exact Stage.noConfusion hstage
  | proceed found free turn => exact h.proceed sound places found turn
  | spawn found turn => exact h.spawn sound places found turn
  | enqueue found turn => exact h.enqueue sound places found turn
  | @refuse call slip stage why found turn =>
    refine { h with crowded := ?_, turnedAway := ?_, refused := ?_ }
    · exact fun other hother => h.crowded other (List.mem_of_mem_eraseIdx hother)
    · exact fun other hother => h.turnedAway other (List.mem_of_mem_eraseIdx hother)
    · intro told htold
      rcases List.mem_append.1 htold with htold | htold
      · exact h.refused told htold
      · obtain rfl := List.mem_singleton.1 htold
        exact h.turnedAway _ (List.mem_of_getElem? found) why (Pool.turnedAway_of_refuse turn)
  | start hiring =>
    have htaken := taken_start hiring
    refine { h with held_eq := ?_, waiting_eq := ?_, turnedAway := ?_, refused := ?_ }
    · rw [htaken]
      exact h.held_eq
    · rw [htaken]
      exact h.waiting_eq
    · rw [htaken]
      exact h.turnedAway
    · rw [htaken]
      exact h.refused
  | count leaving => exact { h with }
  | @publish place slip found started =>
    have hheld : (crew.desk.publish d place slip).held.map (·.1) = crew.desk.held.map (·.1) :=
      map_set_eq found (·.1) rfl
    exact { h with held_eq := hheld.trans h.held_eq }
  | @finish place => exact absurd rfl (unfinished place)
  | take rests found taken => exact absurd rests hrests
  | expire rests => exact absurd rests hrests
  | retire expired retired =>
    obtain ⟨hidle, -, -⟩ := Pool.retire_eq_some retired
    exact absurd h.idle_eq (Nat.ne_of_gt hidle)
  | stay expired stays => exact { h with }
  | cut rests closed empty => exact absurd rests hrests
  | depart cutOff =>
    refine { h with idle_eq := ?_ }
    show crew.desk.pool.idle - 1 = 0
    rw [h.idle_eq]
  | part parting => exact { h with }
  | shutdown free hiring => exact absurd rfl opened
  | release closed owns => exact { h with }

/-- Only a call that starts a sender, or finds a place in the queue, takes anything in, and it does
not when as much was taken in as there may be. -/
theorem Filled.taken_eq (h : crew.Filled settings) (sound : crew.Sound settings)
    (sound' : after.Sound settings) (h' : after.Filled settings) (places : 1 ≤ settings.sendQueue)
    (hstep : Step d crew duty after) (refused : crew.desk.refused ≠ []) :
    after.taken = crew.taken := by
  obtain ⟨told, htold⟩ := List.exists_mem_of_ne_nil _ refused
  obtain ⟨-, hmany⟩ := h.refused told htold
  have hmost := h'.length_le sound' places
  exact ((hstep.taken_prefix sound.keyed).eq_of_length_le (hmost.trans hmany)).symm

/-- A pool that fills up takes in the first batches, one call after another, and refuses the
others. -/
theorem Filled.given_eq (h : crew.Filled settings) (sound : crew.Sound settings)
    (places : 1 ≤ settings.sendQueue) (turns : crew.InTurn) (ended : crew.underWay = 0) :
    let limit := 2 * settings.workers + settings.sendQueue
    crew.taken = crew.desk.given.take limit ∧
      crew.desk.refused =
        (crew.desk.given.drop limit).map fun slip => (slip, .queueFull settings.sendQueue) := by
  intro limit
  obtain ⟨hcalls, -⟩ := Nat.add_eq_zero_iff.1 ended
  have hlength : crew.taken.length ≤ limit := h.length_le sound places
  rw [InTurn, List.length_eq_zero_iff.1 hcalls, List.map_nil, List.append_nil] at turns
  have hrefused : (crew.desk.refused.map (·.1)).map
      (fun slip => (slip, Rejection.queueFull settings.sendQueue)) = crew.desk.refused := by
    rw [List.map_map]
    refine (List.map_congr_left fun told htold => ?_).trans (List.map_id _)
    exact Prod.ext rfl (h.refused told htold).1.symm
  cases hnone : crew.desk.refused with
  | nil =>
    rw [hnone, List.map_nil, List.append_nil] at turns
    rw [turns, List.take_of_length_le hlength, List.drop_eq_nil_of_le hlength]
    exact ⟨rfl, rfl⟩
  | cons told rest =>
    have hmany : limit = crew.taken.length :=
      ((h.refused told (by simp [hnone])).2.antisymm hlength)
    rw [turns, hmany, List.take_left, List.drop_left, hrefused, hnone]
    exact ⟨rfl, rfl⟩

end Filling

section Runs

variable {settings : Settings} {crew : Crew π ρ}

theorem accepting_run {pool : Pool} (made : Pool.make settings = .ok pool) (s : π) (r : ρ)
    {duties : List Duty} (opened : ∀ duty ∈ duties, duty ≠ .shutdown)
    (reached : run d duties (begin pool s r) = some crew) :
    crew.desk.pool.accepting = true := by
  have hbegin : (begin pool s r).desk.pool.accepting = true := by
    obtain rfl := Pool.make_eq_ok made
    rfl
  have hkept : ∀ (mid : Crew π ρ) duty next, True → duty ≠ .shutdown →
      mid.desk.pool.accepting = true → Step d mid duty next →
      next.desk.pool.accepting = true :=
    fun mid duty next _ hduty hmid hstep => (hstep.accepting_eq hduty).trans hmid
  exact run_invariant_along hkept (throughout_of_forall (fun _ => trivial) duties _) opened hbegin
    reached

/-- A pool that fills up is filled in its order, and takes its batches in turn if one call ends
before the next begins. -/
theorem filled_run {pool : Pool} (made : Pool.make settings = .ok pool)
    (places : 1 ≤ settings.sendQueue) (s : π) (r : ρ) {duties : List Duty}
    (opened : ∀ duty ∈ duties, duty ≠ .shutdown)
    (unfinished : ∀ duty ∈ duties, ∀ place, duty ≠ .finish place) {kind : Crew π ρ → Prop}
    (along : Throughout (step d) kind duties (begin pool s r))
    (reached : run d duties (begin pool s r) = some crew) :
    crew.Filled settings ∧ ((∀ mid, kind mid → mid.underWay ≤ 1) → crew.InTurn) := by
  have hkept : ∀ (mid : Crew π ρ) duty next, kind mid →
      (duty ≠ .shutdown ∧ ∀ place, duty ≠ .finish place) →
      mid.Sound settings ∧ mid.Filled settings ∧
        ((∀ mid, kind mid → mid.underWay ≤ 1) → mid.InTurn) → Step d mid duty next →
      next.Sound settings ∧ next.Filled settings ∧
        ((∀ mid, kind mid → mid.underWay ≤ 1) → next.InTurn) := by
    intro mid duty next hkind ⟨hopened, hunfinished⟩ ⟨hsound, hfilled, hturns⟩ hstep
    have hsound' := hsound.step places hstep
    have hfilled' := hfilled.step hsound places hunfinished hopened hstep
    refine ⟨hsound', hfilled', fun alone => ?_⟩
    refine (hturns alone).step hsound.keyed (alone mid hkind) (fun hrefused => ?_) hstep
    exact hfilled.taken_eq hsound hsound' hfilled' places hstep hrefused
  exact (run_invariant_along hkept along
    (fun duty hduty => ⟨opened duty hduty, unfinished duty hduty⟩)
    ⟨sound_begin made s r, filled_begin made s r, fun _ => inTurn_begin pool s r⟩ reached).2

/-- **A pool is full at one number of batches.** Whatever steps the threads of an open pool do, in
any order, it holds at most twice the regular number of senders and as many batches as may wait.
Whenever no sender is idle while a batch waits and nobody has the lock, it refuses a batch if and
only if it holds that many: a call that nobody interrupts then gives the batch to the policy, once,
with the size of the queue, and changes nothing else, and at any other time it starts a sender for
the batch or puts it into the queue. While no publication ends, senders hold the first batches that
were taken in, as many as the regular number, the next ones wait, as many as may, and further
senders hold the rest; a batch is refused only when the pool holds as many as it can. So if one call
ends before the next begins, the pool takes in the first batches, exactly as many as it can hold,
and refuses all others. -/
theorem run_overload {pool : Pool} (made : Pool.make settings = .ok pool)
    (workers : 1 ≤ settings.workers) (places : 1 ≤ settings.sendQueue) (s : π) (r : ρ)
    {duties : List Duty} (opened : ∀ duty ∈ duties, duty ≠ .shutdown)
    (reached : run d duties (begin pool s r) = some crew) :
    let limit := 2 * settings.workers + settings.sendQueue
    let full := Rejection.queueFull settings.sendQueue
    crew.desk.pool.outstanding ≤ limit ∧
      (crew.desk.pool.Diligent → crew.desk.locked = false → crew.hiring = none → ∀ b,
        let slip : Slip := ⟨crew.desk.given.length, b⟩
        let call := Duty.advance crew.desk.calls.length
        (crew.desk.pool.offer b = .error full ↔ crew.desk.pool.outstanding = limit) ∧
          (crew.desk.pool.outstanding = limit →
            run d (.give b :: List.replicate 5 call) crew = some (crew.turnedDown d slip full)) ∧
          (crew.desk.pool.outstanding ≠ limit →
            ∃ steps, (∀ duty ∈ steps, duty = call ∨ duty = .start) ∧
              (run d (.give b :: steps) crew = some (crew.hired slip) ∨
                run d (.give b :: steps) crew = some (crew.lined slip)))) ∧
      ((∀ duty ∈ duties, ∀ place, duty ≠ .finish place) →
        crew.desk.held.map (·.1) = crew.taken.take settings.workers ++
            crew.taken.drop (settings.workers + settings.sendQueue) ∧
          crew.desk.waiting = (crew.taken.drop settings.workers).take settings.sendQueue ∧
          crew.taken.length ≤ limit ∧
          (∀ told ∈ crew.desk.refused, told.2 = full ∧ crew.taken.length = limit) ∧
          (Throughout (step d) (fun crew => crew.underWay ≤ 1) duties (begin pool s r) →
            crew.underWay = 0 →
              crew.taken = crew.desk.given.take limit ∧
                crew.desk.refused = (crew.desk.given.drop limit).map (·, full))) := by
  intro limit full
  have hsound : crew.Sound settings := sound_run made places s r reached
  have haccepting : crew.desk.pool.accepting = true := accepting_run made s r opened reached
  refine ⟨hsound.within.outstanding_le, fun diligent free unhired b => ⟨?_, ?_, ?_⟩,
    fun unfinished => ?_⟩
  · exact Pool.offer_eq_queueFull_iff hsound.within workers places haccepting diligent b
  · exact fun hfull => run_full hsound workers places free unhired haccepting diligent hfull b
  · exact fun hroom => run_notFull hsound places free unhired haccepting diligent hroom b
  · have hany : Throughout (step d) (fun _ => True) duties (begin pool s r) :=
      throughout_of_forall (fun _ => trivial) duties _
    obtain ⟨hfilled, -⟩ := filled_run made places s r opened unfinished hany reached
    have hlength := hfilled.length_le hsound places
    refine ⟨hfilled.held_eq, hfilled.waiting_eq, hlength, fun told htold => ?_,
      fun alone ended => ?_⟩
    · obtain ⟨hwhy, hmany⟩ := hfilled.refused told htold
      exact ⟨hwhy, hlength.antisymm hmany⟩
    · obtain ⟨-, hturns⟩ := filled_run made places s r opened unfinished alone reached
      exact hfilled.given_eq hsound places (hturns fun _ h => h) ended

end Runs

/-- Four calls, one after another: the first batch has the regular sender, the second one waits, the
third one has a further sender, and the fourth one is refused. -/
def fourGiven : List Duty :=
  [.give ⟨"first", []⟩, .advance 0, .advance 0, .start,
    .give ⟨"second", []⟩, .advance 0, .advance 0, .advance 0, .publish 0,
    .give ⟨"third", []⟩, .advance 0, .advance 0, .advance 0, .advance 0, .start,
    .give ⟨"fourth", []⟩, .advance 0, .advance 0, .advance 0, .advance 0, .advance 0, .count]

theorem run_overload_fourGiven :
    let settings : Settings := { workers := 1, sendQueue := 1 }
    (1 ≤ settings.workers ∧ 1 ≤ settings.sendQueue ∧ (∀ duty ∈ fourGiven, duty ≠ .shutdown) ∧
      ∀ duty ∈ fourGiven, ∀ place, duty ≠ .finish place) ∧
      ∃ pool crew, Pool.make settings = .ok pool ∧
        run Desk.mixedDownstream fourGiven (begin pool 0 0) = some crew ∧
        Throughout (step Desk.mixedDownstream) (fun crew => crew.underWay ≤ 1) fourGiven
          (begin pool 0 0) ∧
        crew.desk.pool.Diligent ∧ crew.desk.locked = false ∧ crew.hiring = none ∧
        crew.desk.held.map (·.1.batch.category) = ["first", "third"] ∧
        crew.desk.waiting.map (·.batch.category) = ["second"] ∧
        crew.taken = crew.desk.given.take 3 ∧
        crew.desk.refused = (crew.desk.given.drop 3).map (·, .queueFull 1) ∧
        crew.desk.pool.offer ⟨"fifth", []⟩ = .error (.queueFull 1) := by
  intro settings
  let pool : Pool := { workers := 1, ceiling := 2, capacity := 1 }
  have made : Pool.make settings = .ok pool := rfl
  have opened : ∀ duty ∈ fourGiven, duty ≠ .shutdown := by simp [fourGiven]
  have unfinished : ∀ duty ∈ fourGiven, ∀ place, duty ≠ .finish place := by simp [fourGiven]
  have alone : Throughout (step Desk.mixedDownstream) (fun crew => crew.underWay ≤ 1) fourGiven
      (begin pool 0 0) := by decide
  have hend : (run Desk.mixedDownstream fourGiven (begin pool 0 0)).map (fun crew =>
      (decide crew.desk.pool.Diligent && !crew.desk.locked && crew.hiring.isNone,
        crew.underWay, crew.desk.pool.outstanding, crew.desk.held.map (·.1.batch.category),
        crew.desk.waiting.map (·.batch.category))) =
      some (true, 0, 3, ["first", "third"], ["second"]) := by
    decide
  obtain ⟨crew, reached, hcrew⟩ := Option.map_eq_some_iff.1 hend
  simp only [Prod.mk.injEq, Bool.and_eq_true, decide_eq_true_eq, Bool.not_eq_true',
    Option.isNone_iff_eq_none] at hcrew
  obtain ⟨⟨⟨diligent, free⟩, unhired⟩, ended, full, hheld, hwaiting⟩ := hcrew
  obtain ⟨-, hrule, hfilling⟩ :=
    run_overload made (Nat.le_refl 1) (Nat.le_refl 1) 0 0 opened reached
  obtain ⟨-, -, -, -, hgiven⟩ := hfilling unfinished
  obtain ⟨htaken, hrefused⟩ := hgiven alone ended
  exact ⟨⟨Nat.le_refl 1, Nat.le_refl 1, opened, unfinished⟩, pool, crew, made, reached, alone,
    diligent, free, unhired, hheld, hwaiting, htaken, hrefused,
    (hrule diligent free unhired _).1.2 full⟩

end Crew

end EventBatching
