import EventBatching.Proofs.Pipeline.EndToEnd
import EventBatching.Proofs.Pool.SingleSender

/-!
# The order of a key, from a producer to the publisher

The collector hands the payloads of a key over in the order in which the inbox took them in, and
gives the pool one batch after another, in the order in which it closed them. A pool with one
regular sender publishes in the order of the calls as long as no batch finds the queue full. So the
records of a key reach the publisher in the order in which they were accepted.

* `Works.Orderly` is what every step of such a pipeline keeps; `Works.Orderly.step` is the step and
  `Works.Orderly.run` the run.
* `Works.Orderly.items_prefix` follows a key through the stages.
* `Works.run_inOrder` puts together what holds of the pool, whoever calls it, and what holds of the
  whole pipeline.
-/

namespace EventBatching

/-! ## Prefixes -/

theorem Batch.itemsUnder_prefix {bs bs' : List Batch} (h : bs <+: bs') (key : String) :
    Batch.itemsUnder key bs <+: Batch.itemsUnder key bs' := by
  obtain ⟨rest, rfl⟩ := h
  rw [Batch.itemsUnder_append]
  exact List.prefix_append ..

/-- What was handed over of a key is the first part of what was accepted. -/
theorem Shift.Lawful.items_prefix {σ : Type} {sink : Sink σ} {s : σ} {x : Shift σ}
    (law : Lawful sink s x) (key : String) :
    Batch.itemsUnder key x.flushed <+: Record.payloadsUnder key x.accepted := by
  rw [law.accepted_eq, Record.payloadsUnder_append, ← law.items key, List.append_assoc]
  exact List.prefix_append ..

/-- While the pool is open, or no call is under way, nothing more is refused. -/
theorem Crew.Welcoming.refused_step {π ρ : Type} {d : Downstream π ρ} {crew after : Crew π ρ}
    {duty : Duty} (h : crew.Welcoming) (hstep : Crew.Step d crew duty after)
    (closed : crew.desk.pool.accepting = false → crew.desk.calls = []) :
    after.desk.refused = crew.desk.refused := by
  cases hstep with
  | refuse found turn =>
    have hcall := List.mem_of_getElem? found
    cases hopen : crew.desk.pool.accepting with
    | false =>
      -- a closed pool has no call that could be refused
      exact absurd hcall (by simp [closed hopen])
    | true => exact absurd (Pool.turnedAway_of_refuse turn) ((h hopen).1 _ hcall _)
  | _ => rfl

namespace Works

variable {π ρ : Type}

section Steps

variable {d : Downstream π ρ} {settings : Settings} {s : π} {r : ρ} {w after : Works π ρ}
  {act : Act}

/-! ## What every step keeps -/

/-- What every step keeps of a pipeline whose pool has one regular sender, as long as no batch has
found the queue full. -/
structure Orderly (d : Downstream π ρ) (settings : Settings) (s : π) (r : ρ) (w : Works π ρ) :
    Prop where
  /-- The records are where they should be. -/
  shift : Shift.Lawful Sink.keep [] w.shift
  /-- There is one sender. -/
  crew : w.crew.Lone d settings s r
  /-- The pool takes its batches in turn. -/
  turns : w.crew.InTurn
  /-- One call ends before the next one begins. -/
  alone : w.crew.underWay ≤ 1
  /-- Nothing was refused. -/
  refused : w.crew.desk.refused = []
  /-- The pool was given what was handed over, or the first part of it. -/
  given_prefix : w.crew.desk.given.map (·.batch) <+: w.shift.flushed
  /-- The pool is closed when the collector has ended and everything was given. -/
  closed : w.crew.desk.pool.accepting = false → w.Closed

theorem orderly_begin {pool : Pool} (made : Pool.make settings = .ok pool) (s : π) (r : ρ) :
    (begin settings pool s r).Orderly d settings s r where
  shift := Shift.lawful_begin Sink.keep settings []
  crew := Crew.lone_begin made s r
  turns := Crew.inTurn_begin pool s r
  alone := Nat.zero_le 1
  refused := rfl
  given_prefix := List.nil_prefix
  closed := by
    obtain rfl := Pool.make_eq_ok made
    exact fun hclosed => Bool.noConfusion hclosed

/-- A pool that is closed has no call under way. -/
theorem Orderly.calls_eq_nil (h : w.Orderly d settings s r)
    (closed : w.crew.desk.pool.accepting = false) : w.crew.desk.calls = [] := by
  obtain ⟨hquiet, -⟩ := free_iff.1 (h.closed closed).free
  exact (Crew.quiet_iff.1 hquiet).1

/-- Only a shutdown closes the pool, and it comes when everything was given. -/
theorem Orderly.closed_step (h : w.Orderly d settings s r) (hstep : Step d settings w act after)
    (closed : after.crew.desk.pool.accepting = false) : after.Closed := by
  have hbefore : w.crew.desk.pool.accepting = false → after.Closed :=
    fun hclosed => ((h.closed hclosed).step hstep).1
  cases hstep with
  | shift allowed moved => exact hbefore closed
  | interrupt looping => exact hbefore closed
  | flush quiet next => exact hbefore closed
  | crew own moved =>
    refine hbefore ((moved.accepting_eq ?_).symm.trans closed)
    rintro rfl
    exact Bool.noConfusion own
  | shutdown gone free moved =>
    have hended : w.Closed := ⟨gone, h.shift.closed gone, free⟩
    exact hended.perform moved nofun

/-- A step of the crew that begins no call. -/
theorem Orderly.perform (h : w.Orderly d settings s r) (single : settings.workers = 1)
    (places : 1 ≤ settings.sendQueue) (roomy : w.crew.Roomy) {duty : Duty} {crew : Crew π ρ}
    (moved : Crew.Step d w.crew duty crew) (nothing : ∀ b, duty ≠ .give b)
    (closed : crew.desk.pool.accepting = false → Closed { w with crew := crew }) :
    Orderly d settings s r { w with crew := crew } where
  shift := h.shift
  crew := h.crew.step single places roomy moved
  turns := h.turns.step h.crew.sound.keyed h.alone (fun hsome => absurd h.refused hsome) moved
  alone := (moved.underWay_le h.crew.sound.keyed nothing).trans h.alone
  refused := (h.crew.welcoming.refused_step moved h.calls_eq_nil).trans h.refused
  given_prefix := by
    rw [moved.given_eq nothing]
    exact h.given_prefix
  closed := closed

/-- The collector gives the next batch when the call before has ended. -/
theorem Orderly.give (h : w.Orderly d settings s r) (single : settings.workers = 1)
    (places : 1 ≤ settings.sendQueue) (roomy : w.crew.Roomy) {b : Batch}
    (quiet : w.crew.quiet = true) (next : w.next? = some b)
    (closed : (w.give b).crew.desk.pool.accepting = false → (w.give b).Closed) :
    (w.give b).Orderly d settings s r := by
  have hmoved : Crew.Step d w.crew (.give b) (w.give b).crew := .give b
  refine ⟨h.shift, h.crew.step single places roomy hmoved, ?_, ?_, h.refused, ?_, closed⟩
  · exact h.turns.step h.crew.sound.keyed h.alone (fun hsome => absurd h.refused hsome) hmoved
  · obtain ⟨hcalls, -, hhiring⟩ := Crew.quiet_iff.1 quiet
    simp [Crew.underWay, Works.give, Desk.give, hcalls, hhiring]
  · have hgiven : (w.give b).crew.desk.given.map (·.batch) =
        w.crew.desk.given.map (·.batch) ++ [b] := List.map_append
    rw [hgiven]
    refine concat_prefix h.given_prefix ?_
    rw [List.length_map]
    exact next

/-- Every step keeps the order, if no batch has found the queue full. -/
theorem Orderly.step (h : w.Orderly d settings s r) (single : settings.workers = 1)
    (places : 1 ≤ settings.sendQueue) (roomy : w.crew.Roomy)
    (hstep : Step d settings w act after) : after.Orderly d settings s r := by
  have hclosed := h.closed_step hstep
  cases hstep with
  | shift allowed moved =>
    exact { h with
      shift := h.shift.step Sink.keep_returns moved
      given_prefix := h.given_prefix.trans (Shift.flushed_step moved)
      closed := hclosed }
  | interrupt looping => exact { h with closed := hclosed }
  | flush quiet next => exact h.give single places roomy quiet next hclosed
  | crew own moved =>
    refine h.perform single places roomy moved ?_ hclosed
    rintro b rfl
    exact Bool.noConfusion own
  | shutdown gone free moved => exact h.perform single places roomy moved nofun hclosed

theorem Orderly.run (h : w.Orderly d settings s r) (single : settings.workers = 1)
    (places : 1 ≤ settings.sendQueue) {acts : List Act}
    (along : Throughout (Works.step d settings) (fun w => w.crew.Roomy) acts w)
    (reached : w.run d settings acts = some after) : after.Orderly d settings s r := by
  induction acts generalizing w with
  | nil =>
    obtain rfl := Option.some.inj reached
    exact h
  | cons act rest ih =>
    obtain ⟨next, hnext, hrest⟩ := Option.bind_eq_some_iff.1 reached
    exact ih (h.step single places along.1 (step_cases hnext)) (along.2 next hnext) hrest

/-! ## The order of a key -/

/-- What the publisher was called for is the first part of what was handed over. -/
theorem Orderly.called_prefix (h : w.Orderly d settings s r) :
    w.crew.desk.called.map (·.1.batch) <+: w.shift.flushed := by
  have hturns := h.turns
  rw [Crew.InTurn, h.refused, List.map_nil, List.append_nil] at hturns
  have hgiven : w.crew.taken <+: w.crew.desk.given := by
    rw [hturns]
    exact List.prefix_append ..
  have hbatches := (h.crew.called_prefix.trans hgiven).map (·.batch)
  rw [List.map_map] at hbatches
  exact hbatches.trans h.given_prefix

/-- The payloads of a key that reached the publisher are the first that were accepted. -/
theorem Orderly.items_prefix (h : w.Orderly d settings s r) (key : String) :
    Batch.itemsUnder key (w.crew.desk.called.map (·.1.batch)) <+:
      Record.payloadsUnder key w.shift.accepted :=
  (Batch.itemsUnder_prefix h.called_prefix key).trans (h.shift.items_prefix key)

/-- When nobody has a handle of the pool any more, the publisher was called for everything that was
handed over. -/
theorem Orderly.called_eq (h : w.Orderly d settings s r) (single : settings.workers = 1)
    (nobody : w.crew.handles = 0) :
    w.crew.desk.called.map (·.1.batch) = w.shift.flushed ∧ w.Closed := by
  obtain ⟨haccepting, -⟩ := h.crew.sound.ended (Nat.le_of_eq single.symm) nobody
  have hclosed := h.closed haccepting
  obtain ⟨-, hall⟩ := free_iff.1 hclosed.free
  -- what was published is the first part of what was handed over, so that it is enough to count
  refine ⟨h.called_prefix.eq_of_length ?_, hclosed⟩
  have hturns := h.turns
  rw [Crew.InTurn, h.refused, h.calls_eq_nil haccepting, List.map_nil, List.map_nil,
    List.append_nil, List.append_nil, ← (h.crew.ended single nobody).1] at hturns
  rw [← hall, hturns, List.length_map, List.length_map]

theorem Orderly.complete (h : w.Orderly d settings s r) (single : settings.workers = 1)
    (nobody : w.crew.handles = 0) (missed : w.shift.missed = []) (key : String) :
    Batch.itemsUnder key (w.crew.desk.called.map (·.1.batch)) =
      Record.payloadsUnder key w.shift.accepted := by
  obtain ⟨hcalled, hclosed⟩ := h.called_eq single nobody
  rw [hcalled]
  exact h.shift.complete hclosed.gone missed key

end Steps

/-- **One sender keeps the order.** Let the regular number of senders be one. Whatever steps the
threads do, in any order, with publishers that fail or panic, idle times and a shutdown: as long as
no batch finds the queue full, there is never a second sender, and the one there is leaves when the
pool is closed and nothing waits. The publisher is called for one batch at a time, with the text of
its items and its category, in the order in which the pool took the batches in, and once all threads
have ended it was called for every batch that was accepted. Whoever gives it, a batch that is taken
in comes behind all that were taken in before; if one call ends before the next begins, they come in
the order in which they were given, and those that are refused come last. So with a collector that
gives its batches to such a pool, nothing is refused and the records of a key reach the publisher in
the order in which they were accepted: what has reached it is the first part of what was accepted,
and all of it at the end, if no producer submits anything during a stop. -/
theorem run_inOrder {d : Downstream π ρ} {settings : Settings} {pool : Pool}
    (made : Pool.make settings = .ok pool) (single : settings.workers = 1)
    (places : 1 ≤ settings.sendQueue) (s : π) (r : ρ) :
    (∀ duties crew, Crew.run d duties (.begin pool s r) = some crew →
      Throughout (Crew.step d) Crew.Roomy duties (.begin pool s r) →
        crew.PublishesInOrder d s ∧
        (∀ before rest mid, duties = before ++ rest →
          Crew.run d before (.begin pool s r) = some mid → mid.taken <+: crew.taken) ∧
        (Throughout (Crew.step d) (fun crew => crew.underWay ≤ 1) duties (.begin pool s r) →
          crew.desk.given =
            crew.taken ++ crew.desk.refused.map (·.1) ++ crew.desk.calls.map (·.1))) ∧
      ∀ acts w, (begin settings pool s r).run d settings acts = some w →
        Throughout (step d settings) (fun w => w.crew.Roomy) acts (begin settings pool s r) →
          w.crew.PublishesInOrder d s ∧ w.crew.desk.refused = [] ∧
          (∀ key, Batch.itemsUnder key (w.crew.desk.called.map (·.1.batch)) <+:
            Record.payloadsUnder key w.shift.accepted) ∧
          (w.crew.handles = 0 → w.shift.missed = [] → ∀ key,
            Batch.itemsUnder key (w.crew.desk.called.map (·.1.batch)) =
              Record.payloadsUnder key w.shift.accepted) := by
  refine ⟨fun duties crew reached roomy => ⟨?_, ?_, fun alone => ?_⟩,
    fun acts w reached roomy => ?_⟩
  · obtain ⟨hlone, -⟩ := Crew.lone_run made single places s r (fun _ h => h) roomy reached
    exact hlone.publishesInOrder single
  · rintro before rest mid rfl hmid
    rw [Crew.run_append, hmid] at reached
    exact Crew.taken_prefix_run (Crew.sound_run made places s r hmid) places reached
  · obtain ⟨-, hturns⟩ :=
      Crew.lone_run made single places s r (fun _ h => h.1) (roomy.and alone) reached
    exact hturns fun _ h => h.2
  · have horderly := (orderly_begin made s r).run single places roomy reached
    exact ⟨horderly.crew.publishesInOrder single, horderly.refused, horderly.items_prefix,
      fun nobody missed => horderly.complete single nobody missed⟩

/-- Three batches have one sender, which publishes the first one, waits in vain, panics on the
second one and fails on the third one. Meanwhile the pool is shut down, and a fourth batch is
refused. -/
def oneSender : List Duty :=
  [.give ⟨"taken", [.null]⟩, .advance 0, .advance 0, .start,
    .give ⟨"panicking", []⟩, .advance 0, .advance 0, .advance 0, .publish 0, .finish 0,
    .expire, .retire, .take, .publish 0, .finish 0, .expire,
    .give ⟨"failing", []⟩, .advance 0, .advance 0, .advance 0, .retire, .take, .shutdown,
    .give ⟨"late", []⟩, .advance 0, .advance 0, .count, .publish 0, .finish 0, .release, .cut,
    .depart, .part]

/-- Four records under two keys make three batches, the last of them during a stop, and all three
are published. -/
def threeBatches : List Act :=
  [.shift (.start 0), .shift (.submit ⟨"taken", .null⟩ false),
    .shift (.submit ⟨"failing", .null⟩ false), .shift (.submit ⟨"taken", .bool true⟩ false),
    .shift (.read 1), .shift (.read 2), .shift (.read 3), .flush, .crew (.advance 0),
    .crew (.advance 0), .shift (.submit ⟨"taken", .bool false⟩ false), .crew .start,
    .crew (.publish 0), .interrupt, .shift (.stop 4), .shift .look, .shift .look, .shift .hand,
    .flush, .crew (.finish 0), .crew (.advance 0), .crew (.advance 0), .crew (.advance 0),
    .crew .take, .shift .hand, .flush, .crew (.advance 0), .crew (.advance 0), .crew (.advance 0),
    .shift .close, .shutdown, .crew (.publish 0), .crew (.finish 0), .crew .take, .crew .release,
    .crew (.publish 0), .crew (.finish 0), .crew .cut, .crew .depart, .crew .part]

theorem run_inOrder_oneSender :
    let settings : Settings := { workers := 1, sendQueue := 2, maxBatchSize := 2 }
    (settings.workers = 1 ∧ 1 ≤ settings.sendQueue) ∧
      ∃ pool crew w, Pool.make settings = .ok pool ∧
        Crew.run Desk.mixedDownstream oneSender (.begin pool 0 0) = some crew ∧
        crew.desk.called.map (·.1) = crew.accepted ∧
        crew.accepted.map (·.batch.category) = ["taken", "panicking", "failing"] ∧
        crew.desk.given = crew.accepted ++ crew.desk.refused.map (·.1) ∧
        (begin settings pool 0 0).run Desk.mixedDownstream settings threeBatches = some w ∧
        w.crew.desk.called.map (·.1.batch.category) = ["taken", "failing", "taken"] ∧
        Batch.itemsUnder "taken" (w.crew.desk.called.map (·.1.batch)) =
          Record.payloadsUnder "taken" w.shift.accepted := by
  intro settings
  let pool : Pool := { workers := 1, ceiling := 2, capacity := 2 }
  have made : Pool.make settings = .ok pool := rfl
  obtain ⟨hcrew, hworks⟩ :=
    run_inOrder (d := Desk.mixedDownstream) made rfl (Nat.le_succ 1) 0 0
  -- the pool alone
  have hend : (Crew.run Desk.mixedDownstream oneSender (.begin pool 0 0)).map (fun crew =>
      (crew.handles, crew.underWay, crew.accepted.map (·.batch.category))) =
      some (0, 0, ["taken", "panicking", "failing"]) := by
    decide
  obtain ⟨crew, reached, hdata⟩ := Option.map_eq_some_iff.1 hend
  obtain ⟨nobody, hunderWay, haccepted⟩ : crew.handles = 0 ∧ crew.underWay = 0 ∧ _ := by
    simpa only [Prod.mk.injEq] using hdata
  have hcalls := List.length_eq_zero_iff.1 (Nat.add_eq_zero_iff.1 hunderWay).1
  obtain ⟨hinOrder, -, hturns⟩ := hcrew oneSender crew reached (by decide)
  obtain ⟨hcalled, htaken⟩ := hinOrder.ended nobody
  have hgiven := hturns (by decide)
  rw [hcalls, List.map_nil, List.append_nil, htaken] at hgiven
  -- the pool with a collector
  have hstop : ((begin settings pool 0 0).run Desk.mixedDownstream settings threeBatches).map
      (fun w => (w.crew.handles, w.shift.missed.isEmpty,
        w.crew.desk.called.map (·.1.batch.category))) =
      some (0, true, ["taken", "failing", "taken"]) := by
    decide
  obtain ⟨w, stopped, hdata⟩ := Option.map_eq_some_iff.1 hstop
  obtain ⟨hnobody, hmissed, hcategories⟩ :
      w.crew.handles = 0 ∧ w.shift.missed.isEmpty = true ∧ _ := by
    simpa only [Prod.mk.injEq] using hdata
  obtain ⟨-, -, -, hcomplete⟩ := hworks threeBatches w stopped (by decide)
  exact ⟨⟨rfl, Nat.le_succ 1⟩, pool, crew, w, made, reached, hcalled.trans htaken, haccepted,
    hgiven, stopped, hcategories, hcomplete hnobody (List.isEmpty_iff.1 hmissed) _⟩

end Works

end EventBatching
