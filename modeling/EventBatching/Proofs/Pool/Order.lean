import EventBatching.Proofs.Pool.Crew

/-!
# The order in which a pool takes batches in

One call at a time has the lock from the look at whether the pool is open until its batch has found
a place. So the batches that a pool takes in have an order, that of their calls with the lock, and a
batch that is taken in comes after all that were taken in before, whoever gives it. Where one call
ends before the next one begins, and nothing is taken in behind a batch that was refused, that order
is the order in which the batches were given.

* `Throughout` says of every state that a sequence of steps comes through what it says of one.
* `Crew.taken` is what the pool took in, and `Crew.taken_prefix_run` says that a run only adds to it
  at its end.
* `Crew.InTurn` is the order of what was given, one call after another; `Crew.InTurn.step` says when
  a step keeps it.
-/

namespace EventBatching

/-- What is found in a list of one thing at most is all there is. -/
theorem eq_singleton_of_getElem? {α : Type} {l : List α} {i : Nat} {a : α} (short : l.length ≤ 1)
    (found : l[i]? = some a) : l = [a] ∧ i = 0 := by
  obtain ⟨hi, hget⟩ := List.getElem?_eq_some_iff.1 found
  obtain ⟨only, rfl⟩ : ∃ only, l = [only] := List.length_eq_one_iff.1 (by omega)
  obtain rfl : i = 0 := by
    rw [List.length_singleton] at hi
    omega
  exact ⟨congrArg ([·]) hget, rfl⟩

/-! ## States along the way -/

section Along

variable {σ α : Type}

/-- Every state that a sequence of steps comes through is of a kind, the first and the last
included. -/
def Throughout (step : σ → α → Option σ) (kind : σ → Prop) : List α → σ → Prop
  | [], s => kind s
  | a :: rest, s => kind s ∧ ∀ next, step s a = some next → Throughout step kind rest next

variable {step : σ → α → Option σ} {kind : σ → Prop}

theorem Throughout.and {kind' : σ → Prop} {acts : List α} {s : σ}
    (h : Throughout step kind acts s) (h' : Throughout step kind' acts s) :
    Throughout step (fun s => kind s ∧ kind' s) acts s := by
  induction acts generalizing s with
  | nil => exact ⟨h, h'⟩
  | cons a rest ih =>
    exact ⟨⟨h.1, h'.1⟩, fun next hnext => ih (h.2 next hnext) (h'.2 next hnext)⟩

theorem throughout_of_forall (h : ∀ s, kind s) (acts : List α) (s : σ) :
    Throughout step kind acts s := by
  induction acts generalizing s with
  | nil => exact h s
  | cons a rest ih => exact ⟨h s, fun next _ => ih next⟩

instance Throughout.decidable [DecidablePred kind] (acts : List α) (s : σ) :
    Decidable (Throughout step kind acts s) :=
  match acts with
  | [] => inferInstanceAs (Decidable (kind s))
  | a :: rest =>
    match hnext : step s a with
    | none =>
      decidable_of_iff (kind s)
        ⟨fun h => ⟨h, fun _ hsome => absurd (hnext.symm.trans hsome) nofun⟩, fun h => h.1⟩
    | some next =>
      have : Decidable (Throughout step kind rest next) := Throughout.decidable rest next
      decidable_of_iff (kind s ∧ Throughout step kind rest next)
        ⟨fun h => ⟨h.1, fun _ hsome => Option.some.inj (hnext.symm.trans hsome) ▸ h.2⟩,
          fun h => ⟨h.1, h.2 next hnext⟩⟩

end Along

/-! ## What a turn tells -/

namespace Pool

section Turns

variable {p : Pool} {stage : Stage} {why : Rejection}

/-- A sender is started for a batch that has just been let in, or for one that found the queue
full. -/
theorem spawn_cases (h : p.turn stage = .spawn) :
    stage = .admitted ∧ p.live < p.workers ∨ stage = .crowded ∧ p.live < p.ceiling := by
  cases stage with
  | arrived => exact absurd h (by simp [turn])
  | admitted => exact .inl ⟨rfl, by simpa [turn] using h⟩
  | unplaced => exact absurd h (by rw [turn]; split <;> simp)
  | crowded => exact .inr ⟨rfl, by simpa [turn] using h⟩
  | turnedAway why => exact absurd h (by simp [turn])

/-- A batch finds the queue full after it has found no regular sender to start. -/
theorem crowded_of_go (h : p.turn stage = .go .crowded) :
    stage = .unplaced ∧ p.hasRoom = false := by
  cases stage with
  | arrived => exact absurd h (by rw [turn]; split <;> simp)
  | admitted => exact absurd h (by rw [turn]; split <;> simp)
  | unplaced => exact ⟨rfl, by simpa [turn] using h⟩
  | crowded => exact absurd h (by rw [turn]; split <;> simp)
  | turnedAway why => exact absurd h (by simp [turn])

/-- A batch is turned away because the pool is closed, or because the queue was full and no further
sender may be started. -/
theorem turnedAway_of_go (h : p.turn stage = .go (.turnedAway why)) :
    stage = .arrived ∧ p.accepting = false ∧ why = .shutDown ∨
      stage = .crowded ∧ p.ceiling ≤ p.live ∧ why = .queueFull p.capacity := by
  cases stage with
  | arrived =>
    by_cases hopen : p.accepting = true
    · exact absurd h (by simp [turn, hopen])
    · rw [turn, if_neg hopen] at h
      exact .inl ⟨rfl, by simpa using hopen, (Stage.turnedAway.inj (Turn.go.inj h)).symm⟩
  | admitted => exact absurd h (by rw [turn]; split <;> simp)
  | unplaced => exact absurd h (by rw [turn]; split <;> simp)
  | crowded =>
    by_cases hmore : p.live < p.ceiling
    · exact absurd h (by simp [turn, hmore])
    · rw [turn, if_neg hmore] at h
      exact .inr ⟨rfl, Nat.le_of_not_lt hmore, (Stage.turnedAway.inj (Turn.go.inj h)).symm⟩
  | turnedAway why => exact absurd h (by simp [turn])

/-- A batch is given to the policy after it was turned away. -/
theorem turnedAway_of_refuse (h : p.turn stage = .refuse why) : stage = .turnedAway why := by
  cases stage with
  | arrived => exact absurd h (by simp [turn])
  | admitted => exact absurd h (by rw [turn]; split <;> simp)
  | unplaced => exact absurd h (by rw [turn]; split <;> simp)
  | crowded => exact absurd h (by rw [turn]; split <;> simp)
  | turnedAway why' => exact congrArg _ (Turn.refuse.inj h)

theorem hasRoom_iff (positive : 1 ≤ p.capacity) :
    p.hasRoom = true ↔ p.queue.size < p.capacity := by
  rw [hasRoom, if_neg (Nat.ne_of_gt positive)]
  exact decide_eq_true_iff

end Turns

end Pool

namespace Crew

variable {π ρ : Type} {d : Downstream π ρ} {crew after : Crew π ρ} {duty : Duty}

theorem run_append (duties later : List Duty) (crew : Crew π ρ) :
    run d (duties ++ later) crew = (run d duties crew).bind (run d later) := by
  induction duties generalizing crew with
  | nil => rfl
  | cons duty rest ih =>
    rw [List.cons_append, run, run, Option.bind_assoc]
    exact congrArg _ (funext ih)

/-- What steps of a kind keep, from states of a kind, holds after every run of such steps through
such states. -/
theorem run_invariant_along {holds kind : Crew π ρ → Prop} {may : Duty → Prop}
    (kept : ∀ crew duty after, kind crew → may duty → holds crew → Step d crew duty after →
      holds after)
    {duties : List Duty} (along : Throughout (step d) kind duties crew)
    (all : ∀ duty ∈ duties, may duty) (hcrew : holds crew)
    (hrun : run d duties crew = some after) : holds after := by
  induction duties generalizing crew with
  | nil =>
    obtain rfl := Option.some.inj hrun
    exact hcrew
  | cons duty rest ih =>
    obtain ⟨next, hnext, hrest⟩ := Option.bind_eq_some_iff.1 hrun
    obtain ⟨hduty, hothers⟩ := List.forall_mem_cons.1 all
    refine ih (along.2 next hnext) hothers ?_ hrest
    exact kept crew duty next along.1 hduty hcrew (step_cases hnext)

/-! ## What was taken in -/

/-- What the pool took in, in the order in which the calls had the lock: what was accepted, and the
batch whose sender is about to be started. -/
def taken (crew : Crew π ρ) : List Slip := crew.accepted ++ crew.hiring.toList

theorem Keyed.taken_hiring (keyed : crew.Keyed) {call : Nat} {slip : Slip} {stage : Stage}
    (found : crew.desk.calls[call]? = some (slip, stage)) (locks : stage.locks = true)
    (desk : Desk π ρ) :
    taken { crew with desk := desk, hiring := some slip } = crew.taken ++ [slip] := by
  simp [taken, keyed.hiring_eq_none found locks]

theorem Keyed.taken_accepted (keyed : crew.Keyed) {call : Nat} {slip : Slip} {stage : Stage}
    (found : crew.desk.calls[call]? = some (slip, stage)) (locks : stage.locks = true)
    (desk : Desk π ρ) :
    taken { crew with desk := desk, accepted := crew.accepted ++ [slip] } =
      crew.taken ++ [slip] := by
  simp [taken, keyed.hiring_eq_none found locks]

theorem taken_start {slip : Slip} (hiring : crew.hiring = some slip) :
    (crew.start slip).taken = crew.taken := by
  simp [taken, Crew.start, hiring]

/-- What is taken in comes behind what was taken in before. -/
theorem Step.taken_prefix (hstep : Step d crew duty after) (keyed : crew.Keyed) :
    crew.taken <+: after.taken := by
  cases hstep with
  | spawn found turn =>
    rw [keyed.taken_hiring found (Pool.turn_eq_spawn turn).1]
    exact List.prefix_append ..
  | enqueue found turn =>
    rw [keyed.taken_accepted found (Stage.locks_of_seeks (Pool.turn_eq_enqueue turn).1)]
    exact List.prefix_append ..
  | start hiring => exact (taken_start hiring).symm ▸ List.prefix_refl _
  | _ => exact List.prefix_refl _

/-- A run takes in what it does behind what was taken in before. -/
theorem taken_prefix_run {settings : Settings} (sound : crew.Sound settings)
    (positive : 1 ≤ settings.sendQueue) {duties : List Duty}
    (hrun : run d duties crew = some after) : crew.taken <+: after.taken := by
  have hkept : ∀ mid duty next, mid.Sound settings ∧ crew.taken <+: mid.taken →
      Step d mid duty next → next.Sound settings ∧ crew.taken <+: next.taken :=
    fun mid duty next h hstep =>
      ⟨h.1.step positive hstep, h.2.trans (hstep.taken_prefix h.1.keyed)⟩
  exact (run_invariant hkept ⟨sound, List.prefix_refl _⟩ hrun).2

/-- A pool that is not shut down stays open. -/
theorem Step.accepting_eq (hstep : Step d crew duty after) (opened : duty ≠ .shutdown) :
    after.desk.pool.accepting = crew.desk.pool.accepting := by
  cases hstep with
  | @finish place slip result pool found completed =>
    obtain ⟨-, rfl⟩ := Pool.complete_eq_some completed
    cases result <;> rfl
  | take rests found taken =>
    obtain ⟨idle, b, queue, -, -, rfl⟩ := Pool.take_eq_some taken
    rfl
  | retire expired retired =>
    obtain ⟨-, -, rfl⟩ := Pool.retire_eq_some retired
    rfl
  | shutdown free hiring => exact absurd rfl opened
  | _ => rfl

/-- A closed pool takes nothing in. -/
theorem Step.taken_of_closed (hstep : Step d crew duty after) (staffed : crew.desk.Staffed)
    (closed : crew.desk.pool.accepting = false) : after.taken = crew.taken := by
  have hfree := Desk.locked_eq_false_iff.1 (staffed.free_of_closed closed)
  cases hstep with
  | spawn found turn =>
    have hlocks := (Pool.turn_eq_spawn turn).1
    exact Bool.noConfusion (hlocks.symm.trans (hfree _ (List.mem_of_getElem? found)))
  | enqueue found turn =>
    have hlocks := Stage.locks_of_seeks (Pool.turn_eq_enqueue turn).1
    exact Bool.noConfusion (hlocks.symm.trans (hfree _ (List.mem_of_getElem? found)))
  | start hiring => exact taken_start hiring
  | _ => rfl

/-! ## One call after another -/

/-- The number of calls that have not ended. -/
def underWay (crew : Crew π ρ) : Nat := crew.desk.calls.length + crew.hiring.toList.length

/-- What was given was taken in first, and then refused, and the last of it is still in hand. -/
def InTurn (crew : Crew π ρ) : Prop :=
  crew.desk.given = crew.taken ++ crew.desk.refused.map (·.1) ++ crew.desk.calls.map (·.1)

theorem inTurn_begin (pool : Pool) (s : π) (r : ρ) : (begin pool s r).InTurn := rfl

/-- Where there is one call at most, the call that is found is all there is. -/
theorem calls_of_underWay (one : crew.underWay ≤ 1) {call : Nat} {slip : Slip} {stage : Stage}
    (found : crew.desk.calls[call]? = some (slip, stage)) :
    crew.desk.calls = [(slip, stage)] ∧ crew.desk.calls.eraseIdx call = [] := by
  obtain ⟨honly, rfl⟩ := eq_singleton_of_getElem? ((Nat.le_add_right ..).trans one) found
  exact ⟨honly, by rw [honly]; rfl⟩

/-- A batch that is taken in while nothing is refused keeps its turn. -/
theorem InTurn.took (h : crew.InTurn) (one : crew.underWay ≤ 1) {call : Nat} {slip : Slip}
    {stage : Stage} (found : crew.desk.calls[call]? = some (slip, stage))
    (open_eq : crew.desk.refused = []) (given : after.desk.given = crew.desk.given)
    (refused : after.desk.refused = crew.desk.refused)
    (calls : after.desk.calls = crew.desk.calls.eraseIdx call)
    (taken : after.taken = crew.taken ++ [slip]) : after.InTurn := by
  obtain ⟨honly, hnone⟩ := calls_of_underWay one found
  rw [InTurn, honly, open_eq] at h
  rw [InTurn, given, refused, calls, hnone, taken, h, open_eq]
  simp

/-- Only a call that begins makes more calls than there were. -/
theorem Step.underWay_le (hstep : Step d crew duty after) (keyed : crew.Keyed)
    (nothing : ∀ b, duty ≠ .give b) : after.underWay ≤ crew.underWay := by
  have hfewer : ∀ {call : Nat} {slip : Slip} {stage : Stage},
      crew.desk.calls[call]? = some (slip, stage) →
      (crew.desk.calls.eraseIdx call).length + 1 = crew.desk.calls.length := by
    intro call slip stage found
    obtain ⟨hcall, -⟩ := List.getElem?_eq_some_iff.1 found
    rw [List.length_eraseIdx_of_lt hcall]
    omega
  cases hstep with
  | give b => exact absurd rfl (nothing b)
  | @proceed call slip stage next found free turn =>
    simp only [underWay, Desk.proceed, List.length_set]
    exact Nat.le_refl _
  | spawn found turn =>
    have hnone := keyed.hiring_eq_none found (Pool.turn_eq_spawn turn).1
    simp only [underWay, Desk.spawn, hnone, Option.toList_some, Option.toList_none,
      List.length_singleton, List.length_nil, hfewer found, Nat.add_zero, Nat.le_refl]
  | enqueue found turn =>
    have hcalls := hfewer found
    simp only [underWay, Desk.enqueue]
    omega
  | refuse found turn =>
    have hcalls := hfewer found
    simp only [underWay, Desk.refuse]
    omega
  | start hiring =>
    simp only [underWay, Crew.start, hiring, Option.toList_some, Option.toList_none,
      List.length_singleton, List.length_nil]
    omega
  | _ => exact Nat.le_refl _

/-- A call that is alone takes its turn and keeps it, if nothing is taken in once a batch was
refused. -/
theorem InTurn.step (h : crew.InTurn) (keyed : crew.Keyed) (one : crew.underWay ≤ 1)
    (before : crew.desk.refused ≠ [] → after.taken = crew.taken)
    (hstep : Step d crew duty after) : after.InTurn := by
  have hopen : ∀ slip, after.taken = crew.taken ++ [slip] → crew.desk.refused = [] := by
    intro slip hmore
    by_contra hrefused
    exact absurd (hmore.symm.trans (before hrefused)) (by simp)
  have hgiven : crew.desk.given = _ := h
  cases hstep with
  | give b => simp [InTurn, taken, Desk.give, hgiven]
  | @proceed call slip stage next found free turn =>
    rw [InTurn, show (crew.desk.proceed call slip next).calls.map (·.1) =
      crew.desk.calls.map (·.1) from map_set_eq found (·.1) rfl]
    exact hgiven
  | spawn found turn =>
    have hmore := keyed.taken_hiring found (Pool.turn_eq_spawn turn).1
    exact h.took one found (hopen _ (hmore _)) rfl rfl rfl (hmore _)
  | enqueue found turn =>
    have hmore := keyed.taken_accepted found (Stage.locks_of_seeks (Pool.turn_eq_enqueue turn).1)
    exact h.took one found (hopen _ (hmore _)) rfl rfl rfl (hmore _)
  | refuse found turn =>
    obtain ⟨honly, hnone⟩ := calls_of_underWay one found
    rw [honly] at hgiven
    simpa [InTurn, taken, Desk.refuse, hnone] using hgiven
  | start hiring =>
    rw [InTurn, taken_start hiring]
    exact hgiven
  | _ => exact hgiven

end Crew

end EventBatching
