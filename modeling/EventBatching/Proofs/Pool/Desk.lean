import EventBatching.Pipeline

/-!
# The pool among threads

`Pool.offer` gives a batch to the pool in one step. Threads do it in several, with a lock that is
held from the look at whether the pool is open until the batch has found its place or has found
none; the senders go on meanwhile. A desk is a pool with the calls that are under way and the
senders in the middle of their work. Every batch is given a slip when its call begins, so that two
equal batches are told apart, and the desk keeps account of where the slips are. This is herald's
`SendExecutor` among threads: `try_send` and the worker loop, cut into the steps that other threads
can come between.

* `Pool.turn` is what a call does next, from what it sees of the pool at that moment.
* `Desk.step` is one step of one thread and `Desk.run` a sequence of them; `Desk.Step` lists what a
  step can do, and `Desk.step_cases` says that it does nothing else.
* `Desk.run_offer` says that a call which nobody interrupts does what `Pool.offer` does.
-/

namespace EventBatching

/-! ## Calls -/

/-- How far a call that gives a batch has come. -/
inductive Stage where
  /-- It waits for the lock. -/
  | arrived
  /-- It has the lock, and the pool is open. -/
  | admitted
  /-- It has the lock, and no regular sender could be started. -/
  | unplaced
  /-- It has the lock, and the queue was full. -/
  | crowded
  /-- It has let go of the lock, and the policy will be told why. -/
  | turnedAway (why : Rejection)
  deriving Repr, DecidableEq

/-- Whether a call at a stage holds the lock. -/
def Stage.locks : Stage → Bool
  | .admitted | .unplaced | .crowded => true
  | .arrived | .turnedAway _ => false

/-- What a call does next. -/
inductive Turn where
  /-- It goes on to another stage. -/
  | go (next : Stage)
  /-- It starts a sender for the batch. -/
  | spawn
  /-- It puts the batch into the queue. -/
  | enqueue
  /-- It gives the batch to the policy. -/
  | refuse (why : Rejection)
  deriving Repr, DecidableEq

/-- What a call does next, from what it sees of the pool. -/
def Pool.turn (p : Pool) : Stage → Turn
  | .arrived => .go (if p.accepting then .admitted else .turnedAway .shutDown)
  | .admitted => if p.live < p.workers then .spawn else .go .unplaced
  | .unplaced => if p.hasRoom then .enqueue else .go .crowded
  | .crowded =>
    if p.live < p.ceiling then .spawn else .go (.turnedAway (.queueFull p.capacity))
  | .turnedAway why => .refuse why

/-! ## The steps of a sender -/

namespace Pool

theorem complete_eq_some {p after : Pool} {place : Nat} {result : Publication}
    (h : p.complete place result = some after) :
    place < p.busy.length ∧
      after = { p with busy := p.busy.eraseIdx place, idle := p.idle + 1 }.count result := by
  obtain ⟨hplace, hafter⟩ := Option.ite_none_right_eq_some.1 h
  exact ⟨hplace, (Option.some.inj hafter).symm⟩

theorem take_eq_some {p after : Pool} (h : p.take = some after) :
    ∃ idle b rest, p.idle = idle + 1 ∧ p.queue.toList = b :: rest.toList ∧
      after = { p with idle := idle, busy := p.busy ++ [b], queue := rest } := by
  rw [take] at h
  split at h
  · next idle b rest hidle hqueue =>
    exact ⟨idle, b, rest, hidle, Arrivals.toList_of_takeFirst? hqueue, (Option.some.inj h).symm⟩
  · exact absurd h (by simp)

theorem retire_eq_some {p after : Pool} (h : p.retire = some after) :
    0 < p.idle ∧ p.workers < p.live ∧ after = { p with idle := p.idle - 1 } := by
  obtain ⟨⟨hidle, hlive⟩, hafter⟩ := Option.ite_none_right_eq_some.1 h
  exact ⟨hidle, hlive, (Option.some.inj hafter).symm⟩

theorem leave_eq_some {p after : Pool} (h : p.leave = some after) :
    p.accepting = false ∧ p.queue.isEmpty ∧ 0 < p.idle ∧
      after = { p with idle := p.idle - 1 } := by
  obtain ⟨⟨hclosed, hempty, hidle⟩, hafter⟩ := Option.ite_none_right_eq_some.1 h
  exact ⟨by simpa using hclosed, hempty, hidle, (Option.some.inj hafter).symm⟩

end Pool

/-! ## The desk -/

/-- A batch with the number of the call that gave it. -/
structure Slip where
  /-- The number of calls before. -/
  ticket : Nat
  /-- The batch. -/
  batch : Batch

/-- A pool among threads. -/
structure Desk (π ρ : Type) where
  /-- The pool. -/
  pool : Pool
  /-- The state of the publisher. -/
  publisher : π
  /-- The state of the policy. -/
  policy : ρ
  /-- The calls that have a batch in hand. -/
  calls : List (Slip × Stage) := []
  /-- The number of calls whose batch the policy took and which are not counted yet. -/
  leaving : Nat := 0
  /-- What senders hold, as in the pool, and how the publication ended if it did. -/
  held : List (Slip × Option Publication) := []
  /-- What waits for a sender, as in the pool. -/
  waiting : List Slip := []
  /-- What was published and counted. -/
  published : List Slip := []
  /-- What the publisher failed on, and how, counted. -/
  failed : List (Slip × Publication) := []
  /-- What the policy was given, and what it was told. -/
  refused : List (Slip × Rejection) := []
  /-- What the publisher was called for, and how that ended, in the order of the calls. -/
  called : List (Slip × Publication) := []
  /-- What was given to the pool, in the order of the calls. -/
  given : List Slip := []

/-- One step of one thread. -/
inductive Move where
  /-- A call begins. -/
  | give (b : Batch)
  /-- The call at a place does its next step. -/
  | advance (call : Nat)
  /-- A call whose batch the policy took is counted and ends. -/
  | count
  /-- The sender at a place calls the publisher. -/
  | publish (place : Nat)
  /-- The sender at a place counts how the publication ended, and is idle. -/
  | finish (place : Nat)
  /-- An idle sender takes a batch. -/
  | take
  /-- An idle sender has waited for long enough, and leaves if it is beyond the regular number. -/
  | expire
  /-- An idle sender finds the queue closed and empty, and leaves. -/
  | leave
  /-- The pool is shut down. -/
  | shutdown
  deriving Inhabited

/-- The batch that a step gives to the pool. -/
def Move.batch? : Move → Option Batch
  | .give b => some b
  | _ => none

namespace Desk

variable {π ρ : Type}

/-- A pool before the first call. -/
def start (pool : Pool) (s : π) (r : ρ) : Desk π ρ :=
  { pool := pool, publisher := s, policy := r }

/-- Whether a call holds the lock. -/
def locked (desk : Desk π ρ) : Bool := desk.calls.any fun call => call.2.locks

/-! ## What steps do -/

/-- A call begins. -/
def give (desk : Desk π ρ) (b : Batch) : Desk π ρ :=
  let slip : Slip := ⟨desk.given.length, b⟩
  { desk with calls := desk.calls ++ [(slip, .arrived)], given := desk.given ++ [slip] }

/-- A call goes on to another stage. -/
def proceed (desk : Desk π ρ) (call : Nat) (slip : Slip) (next : Stage) : Desk π ρ :=
  { desk with calls := desk.calls.set call (slip, next) }

/-- A call starts a sender and ends. -/
def spawn (desk : Desk π ρ) (call : Nat) (slip : Slip) : Desk π ρ :=
  { desk with
    pool := desk.pool.spawn slip.batch
    calls := desk.calls.eraseIdx call
    held := desk.held ++ [(slip, none)] }

/-- A call puts its batch into the queue and ends. -/
def enqueue (desk : Desk π ρ) (call : Nat) (slip : Slip) : Desk π ρ :=
  { desk with
    pool := desk.pool.enqueue slip.batch
    calls := desk.calls.eraseIdx call
    waiting := desk.waiting ++ [slip] }

/-- A call gives its batch to the policy. If the policy panics, the call ends without being
counted. -/
def refuse (d : Downstream π ρ) (desk : Desk π ρ) (call : Nat) (slip : Slip) (why : Rejection) :
    Desk π ρ :=
  let disposal := d.policy slip.batch why desk.policy
  { desk with
    policy := disposal.state
    calls := desk.calls.eraseIdx call
    leaving := if disposal.outcome = .returned then desk.leaving + 1 else desk.leaving
    refused := desk.refused ++ [(slip, why)] }

/-- A call is counted and ends. -/
def count (desk : Desk π ρ) : Desk π ρ :=
  { desk with
    pool := { desk.pool with rejected := desk.pool.rejected + 1 }
    leaving := desk.leaving - 1 }

/-- A sender calls the publisher. -/
def publish (d : Downstream π ρ) (desk : Desk π ρ) (place : Nat) (slip : Slip) : Desk π ρ :=
  let (result, publisher) := Pool.publish d.publisher slip.batch desk.publisher
  { desk with
    publisher := publisher
    held := desk.held.set place (slip, some result)
    called := desk.called ++ [(slip, result)] }

/-- A sender is done. -/
def finish (desk : Desk π ρ) (place : Nat) (slip : Slip) (result : Publication) (pool : Pool) :
    Desk π ρ :=
  { desk with
    pool := pool
    held := desk.held.eraseIdx place
    published := if result = .published then desk.published ++ [slip] else desk.published
    failed := if result = .published then desk.failed else desk.failed ++ [(slip, result)] }

/-- A sender takes what has waited longest. -/
def take (desk : Desk π ρ) (slip : Slip) (rest : List Slip) (pool : Pool) : Desk π ρ :=
  { desk with pool := pool, held := desk.held ++ [(slip, none)], waiting := rest }

/-- A call does what comes next for it. -/
def follow (d : Downstream π ρ) (desk : Desk π ρ) (call : Nat) (slip : Slip) : Turn → Desk π ρ
  | .go next => desk.proceed call slip next
  | .spawn => desk.spawn call slip
  | .enqueue => desk.enqueue call slip
  | .refuse why => desk.refuse d call slip why

/-- The call at a place does its next step, unless it waits for the lock and another has it. -/
def advance (d : Downstream π ρ) (desk : Desk π ρ) (call : Nat) : Option (Desk π ρ) :=
  match desk.calls[call]? with
  | none => none
  | some (slip, stage) =>
    if stage = .arrived ∧ desk.locked then none
    else some (desk.follow d call slip (desk.pool.turn stage))

/-- Performs a step, if it can be performed. -/
def step (d : Downstream π ρ) (desk : Desk π ρ) : Move → Option (Desk π ρ)
  | .give b => some (desk.give b)
  | .advance call => desk.advance d call
  | .count => if 0 < desk.leaving then some desk.count else none
  | .publish place =>
    match desk.held[place]? with
    | some (slip, none) => some (desk.publish d place slip)
    | _ => none
  | .finish place =>
    match desk.held[place]? with
    | some (slip, some result) =>
      (desk.pool.complete place result).map (desk.finish place slip result)
    | _ => none
  | .take =>
    match desk.waiting with
    | slip :: rest => desk.pool.take.map (desk.take slip rest)
    | [] => none
  | .expire =>
    if 0 < desk.pool.idle then some { desk with pool := desk.pool.retire.getD desk.pool } else none
  | .leave => desk.pool.leave.map fun pool => { desk with pool := pool }
  | .shutdown => if desk.locked then none else some { desk with pool := desk.pool.shutdown }

/-- Performs steps one after another. -/
def run (d : Downstream π ρ) : List Move → Desk π ρ → Option (Desk π ρ)
  | [], desk => some desk
  | move :: rest, desk => (desk.step d move).bind (run d rest)

/-! ## What a step can do -/

/-- What a step can do to a desk. -/
inductive Step (d : Downstream π ρ) (desk : Desk π ρ) : Move → Desk π ρ → Prop
  | give (b : Batch) : Step d desk (.give b) (desk.give b)
  | proceed {call : Nat} {slip : Slip} {stage next : Stage}
      (found : desk.calls[call]? = some (slip, stage))
      (free : stage = .arrived → desk.locked = false) (turn : desk.pool.turn stage = .go next) :
      Step d desk (.advance call) (desk.proceed call slip next)
  | spawn {call : Nat} {slip : Slip} {stage : Stage}
      (found : desk.calls[call]? = some (slip, stage)) (turn : desk.pool.turn stage = .spawn) :
      Step d desk (.advance call) (desk.spawn call slip)
  | enqueue {call : Nat} {slip : Slip} {stage : Stage}
      (found : desk.calls[call]? = some (slip, stage)) (turn : desk.pool.turn stage = .enqueue) :
      Step d desk (.advance call) (desk.enqueue call slip)
  | refuse {call : Nat} {slip : Slip} {stage : Stage} {why : Rejection}
      (found : desk.calls[call]? = some (slip, stage))
      (turn : desk.pool.turn stage = .refuse why) :
      Step d desk (.advance call) (desk.refuse d call slip why)
  | count (leaving : 0 < desk.leaving) : Step d desk .count desk.count
  | publish {place : Nat} {slip : Slip} (found : desk.held[place]? = some (slip, none)) :
      Step d desk (.publish place) (desk.publish d place slip)
  | finish {place : Nat} {slip : Slip} {result : Publication} {pool : Pool}
      (found : desk.held[place]? = some (slip, some result))
      (completed : desk.pool.complete place result = some pool) :
      Step d desk (.finish place) (desk.finish place slip result pool)
  | take {slip : Slip} {rest : List Slip} {pool : Pool} (found : desk.waiting = slip :: rest)
      (taken : desk.pool.take = some pool) : Step d desk .take (desk.take slip rest pool)
  | retire {pool : Pool} (retired : desk.pool.retire = some pool) :
      Step d desk .expire { desk with pool := pool }
  | stay (stays : desk.pool.retire = none) : Step d desk .expire desk
  | leave {pool : Pool} (left : desk.pool.leave = some pool) :
      Step d desk .leave { desk with pool := pool }
  | shutdown (free : desk.locked = false) :
      Step d desk .shutdown { desk with pool := desk.pool.shutdown }

theorem advance_cases {d : Downstream π ρ} {desk after : Desk π ρ} {call : Nat}
    (h : desk.advance d call = some after) : Step d desk (.advance call) after := by
  rw [advance] at h
  split at h
  · exact absurd h (by simp)
  · next slip stage found =>
    split at h
    · exact absurd h (by simp)
    · next hwaits =>
      have free : stage = .arrived → desk.locked = false := by
        intro harrived
        simpa [harrived] using hwaits
      obtain rfl := Option.some.inj h
      cases turn : desk.pool.turn stage with
      | go next => exact .proceed found free turn
      | spawn => exact .spawn found turn
      | enqueue => exact .enqueue found turn
      | refuse why => exact .refuse found turn

theorem step_cases {d : Downstream π ρ} {desk after : Desk π ρ} {move : Move}
    (h : desk.step d move = some after) : Step d desk move after := by
  cases move with
  | give b =>
    obtain rfl := Option.some.inj h
    exact .give b
  | advance call => exact advance_cases h
  | count =>
    obtain ⟨hleaving, hafter⟩ := Option.ite_none_right_eq_some.1 h
    obtain rfl := Option.some.inj hafter
    exact .count hleaving
  | publish place =>
    rw [step] at h
    split at h
    · next slip found =>
      obtain rfl := Option.some.inj h
      exact .publish found
    · exact absurd h (by simp)
  | finish place =>
    rw [step] at h
    split at h
    · next slip result found =>
      obtain ⟨pool, completed, rfl⟩ := Option.map_eq_some_iff.1 h
      exact .finish found completed
    · exact absurd h (by simp)
  | take =>
    rw [step] at h
    split at h
    · next slip rest found =>
      obtain ⟨pool, taken, rfl⟩ := Option.map_eq_some_iff.1 h
      exact .take found taken
    · exact absurd h (by simp)
  | expire =>
    obtain ⟨-, hafter⟩ := Option.ite_none_right_eq_some.1 h
    obtain rfl := Option.some.inj hafter
    cases hretire : desk.pool.retire with
    | none => exact .stay hretire
    | some pool => exact .retire hretire
  | leave =>
    obtain ⟨pool, left, rfl⟩ := Option.map_eq_some_iff.1 h
    exact .leave left
  | shutdown =>
    obtain ⟨hlocked, hafter⟩ := Option.ite_none_left_eq_some.1 h
    obtain rfl := Option.some.inj hafter
    exact .shutdown (by simpa using hlocked)

/-- What every step keeps holds after every run. -/
theorem run_invariant {d : Downstream π ρ} {holds : Desk π ρ → Prop}
    (kept : ∀ desk move after, holds desk → Step d desk move after → holds after)
    {moves : List Move} {desk after : Desk π ρ} (hdesk : holds desk)
    (hrun : run d moves desk = some after) : holds after := by
  induction moves generalizing desk with
  | nil =>
    obtain rfl := Option.some.inj hrun
    exact hdesk
  | cons move rest ih =>
    obtain ⟨next, hnext, hrest⟩ := Option.bind_eq_some_iff.1 hrun
    exact ih (kept desk move next hdesk (step_cases hnext)) hrest

/-- The desk knows every batch that was given. -/
theorem run_given {d : Downstream π ρ} {moves : List Move} {desk after : Desk π ρ}
    (hrun : run d moves desk = some after) :
    after.given.map (·.batch) = desk.given.map (·.batch) ++ moves.filterMap Move.batch? := by
  induction moves generalizing desk with
  | nil =>
    obtain rfl := Option.some.inj hrun
    exact (List.append_nil _).symm
  | cons move rest ih =>
    obtain ⟨next, hnext, hrest⟩ := Option.bind_eq_some_iff.1 hrun
    rw [ih hrest]
    cases step_cases hnext with
    | give b => simp [give, Move.batch?]
    | _ => rfl

/-! ## A call that nobody interrupts -/

/-- The desk with one more call under way. -/
def hosting (desk : Desk π ρ) (slip : Slip) (stage : Stage) : Desk π ρ :=
  { desk with calls := desk.calls ++ [(slip, stage)] }

section Hosting

variable (desk : Desk π ρ) (slip : Slip) (stage : Stage)

theorem eraseIdx_newest :
    (desk.calls ++ [(slip, stage)]).eraseIdx desk.calls.length = desk.calls := by
  rw [List.eraseIdx_append_of_length_le (Nat.le_refl _), Nat.sub_self, List.eraseIdx_cons_zero,
    List.append_nil]

theorem hosting_proceed (next : Stage) :
    (desk.hosting slip stage).proceed desk.calls.length slip next = desk.hosting slip next := by
  simp only [hosting, proceed]
  rw [List.set_append_right _ _ (Nat.le_refl _), Nat.sub_self, List.set_cons_zero]

theorem hosting_spawn_calls :
    ((desk.hosting slip stage).spawn desk.calls.length slip).calls = desk.calls :=
  desk.eraseIdx_newest slip stage

theorem hosting_enqueue_calls :
    ((desk.hosting slip stage).enqueue desk.calls.length slip).calls = desk.calls :=
  desk.eraseIdx_newest slip stage

/-- The newest call does its next step if nobody has the lock. -/
theorem advance_hosting (d : Downstream π ρ) (free : desk.locked = false) {turn : Turn}
    (hturn : desk.pool.turn stage = turn) :
    (desk.hosting slip stage).advance d desk.calls.length =
      some ((desk.hosting slip stage).follow d desk.calls.length slip turn) := by
  have hfound : (desk.hosting slip stage).calls[desk.calls.length]? = some (slip, stage) :=
    List.getElem?_concat_length
  have hwaits : ¬(stage = .arrived ∧ (desk.hosting slip stage).locked) := by
    rintro ⟨rfl, hlocked⟩
    rw [locked, hosting, List.any_append, ← locked, free] at hlocked
    exact Bool.noConfusion hlocked
  rw [advance, hfound, ← hturn]
  exact if_neg hwaits

theorem advance_hosting_go (d : Downstream π ρ) (free : desk.locked = false) {next : Stage}
    (hturn : desk.pool.turn stage = .go next) :
    (desk.hosting slip stage).advance d desk.calls.length = some (desk.hosting slip next) := by
  rw [desk.advance_hosting slip stage d free hturn, follow, hosting_proceed]

end Hosting

/-- A call that nobody interrupts does what `Pool.offer` does: its batch is in the pool, or the
policy will be told why not. -/
theorem run_offer (d : Downstream π ρ) {desk : Desk π ρ} (free : desk.locked = false)
    (b : Batch) :
    ∃ steps after, run d (.give b :: List.replicate steps (.advance desk.calls.length)) desk =
        some after ∧
      match desk.pool.offer b with
      | .ok pool => after.pool = pool ∧ after.calls = desk.calls
      | .error why => after.pool = desk.pool ∧
          after.calls = desk.calls ++ [(⟨desk.given.length, b⟩, .turnedAway why)] := by
  let slip : Slip := ⟨desk.given.length, b⟩
  let asked : Desk π ρ := { desk with given := desk.given ++ [slip] }
  have hgo : ∀ stage next, desk.pool.turn stage = .go next →
      (asked.hosting slip stage).step d (.advance desk.calls.length) =
        some (asked.hosting slip next) :=
    fun stage next h => asked.advance_hosting_go slip stage d free h
  have hplace : ∀ stage turn, desk.pool.turn stage = turn →
      (asked.hosting slip stage).step d (.advance desk.calls.length) =
        some ((asked.hosting slip stage).follow d desk.calls.length slip turn) :=
    fun stage turn h => asked.advance_hosting slip stage d free h
  have hgive : desk.step d (.give b) = some (asked.hosting slip .arrived) := rfl
  rw [Pool.offer]
  by_cases hopen : desk.pool.accepting
  · have harrived := hgo .arrived .admitted (by simp [Pool.turn, hopen])
    rw [if_neg (by simpa using hopen)]
    by_cases hregular : desk.pool.live < desk.pool.workers
    · have hspawn := hplace .admitted .spawn (by rw [Pool.turn, if_pos hregular])
      rw [if_pos hregular]
      refine ⟨2, _, ?_, rfl, asked.hosting_spawn_calls slip .admitted⟩
      simp only [run, List.replicate, hgive, harrived, hspawn, Option.bind_some]
      rfl
    · have hadmitted := hgo .admitted .unplaced (by rw [Pool.turn, if_neg hregular])
      rw [if_neg hregular]
      by_cases hroom : desk.pool.hasRoom
      · have henqueue := hplace .unplaced .enqueue (by rw [Pool.turn, if_pos hroom])
        rw [if_pos hroom]
        refine ⟨3, _, ?_, rfl, asked.hosting_enqueue_calls slip .unplaced⟩
        simp only [run, List.replicate, hgive, harrived, hadmitted, henqueue, Option.bind_some]
        rfl
      · have hunplaced := hgo .unplaced .crowded (by rw [Pool.turn, if_neg hroom])
        rw [if_neg hroom]
        by_cases hburst : desk.pool.live < desk.pool.ceiling
        · have hspawn := hplace .crowded .spawn (by rw [Pool.turn, if_pos hburst])
          rw [if_pos hburst]
          refine ⟨4, _, ?_, rfl, asked.hosting_spawn_calls slip .crowded⟩
          simp only [run, List.replicate, hgive, harrived, hadmitted, hunplaced, hspawn,
            Option.bind_some]
          rfl
        · have hcrowded := hgo .crowded (.turnedAway (.queueFull desk.pool.capacity))
            (by rw [Pool.turn, if_neg hburst])
          rw [if_neg hburst]
          refine ⟨4, asked.hosting slip (.turnedAway (.queueFull desk.pool.capacity)), ?_, rfl, rfl⟩
          simp only [run, List.replicate, hgive, harrived, hadmitted, hunplaced, hcrowded,
            Option.bind_some]
  · have harrived := hgo .arrived (.turnedAway .shutDown) (by simp [Pool.turn, hopen])
    rw [if_pos (by simpa using hopen)]
    refine ⟨1, asked.hosting slip (.turnedAway .shutDown), ?_, rfl, rfl⟩
    simp only [run, List.replicate, hgive, harrived, Option.bind_some]

end Desk

end EventBatching
