import EventBatching.Proofs.Pipeline.Works
import Mathlib.Algebra.Ring.Nat

/-!
# From the inbox to the publisher

Each stage has its own way to lose something and its own counter for it: the inbox drops records,
the pool refuses batches, the publisher fails. Between the stages nothing is lost, whatever order
their steps come in, if no producer submits anything during a stop.

* `Works.Lawful` is what every step keeps: what the collector has handed over reaches the pool in
  the same order, each batch once.
* `Works.Closed` is what a stop leaves, and what stays so: a producer can only have records dropped,
  and the pool is given nothing any more.
* `Works.run_complete` puts them together: what was accepted is handed over, and the counters of the
  three stages add up.
-/

namespace EventBatching

/-! ## The records in batches -/

/-- The records that were put together into a batch. -/
def Batch.records (b : Batch) : List Record := b.items.map fun payload => ⟨b.category, payload⟩

theorem Batch.length_records (b : Batch) : b.records.length = b.size := List.length_map ..

theorem Batch.payloadsUnder_records (key : String) (b : Batch) :
    Record.payloadsUnder key b.records = Batch.itemsUnder key [b] := by
  by_cases hkey : b.category = key
  · simp [Record.payloadsUnder, records, itemsUnder, hkey, List.filter_map, Function.comp_def]
  · simp [Record.payloadsUnder, records, itemsUnder, hkey, List.filter_map, Function.comp_def]

/-- The payloads of a key in batches are those of their records. -/
theorem Batch.payloadsUnder_flatMap_records (key : String) (bs : List Batch) :
    Record.payloadsUnder key (bs.flatMap Batch.records) = Batch.itemsUnder key bs := by
  induction bs with
  | nil => rfl
  | cons b rest ih =>
    rw [List.flatMap_cons, Record.payloadsUnder_append, ih, Batch.payloadsUnder_records]
    exact (Batch.itemsUnder_append key [b] rest).symm

theorem Record.count_payloadsUnder [DecidableEq Record] [DecidableEq Payload] (r : Record)
    (rs : List Record) : (Record.payloadsUnder r.key rs).count r.payload = rs.count r := by
  induction rs with
  | nil => rfl
  | cons r' rest ih =>
    rw [Record.payloadsUnder_cons, List.count_append, List.count_cons, ih, Nat.add_comm]
    obtain ⟨key, payload⟩ := r
    obtain ⟨key', payload'⟩ := r'
    by_cases hkey : key' = key
    · subst hkey
      simp [List.count_cons]
    · simp [hkey]

/-- Records that have the same payloads under every key are the same, but for their order. -/
theorem Record.perm_of_payloadsUnder {rs rs' : List Record}
    (h : ∀ key, Record.payloadsUnder key rs = Record.payloadsUnder key rs') : rs.Perm rs' := by
  classical
  rw [List.perm_iff_count]
  intro r
  rw [← Record.count_payloadsUnder, ← Record.count_payloadsUnder, h]

/-- When the collector has ended and has missed nothing, what was accepted is handed over, each
record in one batch, and each key in its order. -/
theorem Shift.Lawful.complete {σ : Type} {sink : Sink σ} {s : σ} {x : Shift σ}
    (law : x.Lawful sink s) (gone : x.phase = .gone) (missed : x.missed = []) (key : String) :
    Batch.itemsUnder key x.flushed = Record.payloadsUnder key x.accepted := by
  have hitems := law.items key
  have haccepted := law.accepted_eq
  rw [gone] at hitems
  rw [unread, gone, missed, List.append_nil] at haccepted
  rw [haccepted, ← hitems]
  exact (List.append_nil _).symm

namespace Works

variable {π ρ : Type}

section Steps

variable {d : Downstream π ρ} {settings : Settings} {w after : Works π ρ} {act : Act}

/-! ## What every step keeps -/

/-- One more thing of a list follows those that make up its beginning. -/
theorem concat_prefix {α : Type} {l m : List α} {a : α} (h : l <+: m)
    (next : m[l.length]? = some a) : l ++ [a] <+: m := by
  obtain ⟨rest, rfl⟩ := h
  cases rest with
  | nil => exact absurd next (by simp)
  | cons b rest =>
    obtain rfl : b = a := by simpa using next
    exact ⟨rest, by simp⟩

/-- What the collector has handed over reaches the pool in the same order, each batch once. -/
structure Lawful (settings : Settings) (w : Works π ρ) : Prop where
  /-- The records are where they should be. -/
  shift : Shift.Lawful Sink.keep [] w.shift
  /-- The threads of the pool are sound. -/
  crew : w.crew.Sound settings
  /-- The desk has the batches of the pool. -/
  mirrors : w.crew.desk.Mirrors
  /-- The pool was given what was handed over, or the first part of it. -/
  given_prefix : w.crew.desk.given.map (·.batch) <+: w.shift.flushed
  /-- What the pool was given is counted. -/
  flushed_eq : w.flushed = w.crew.desk.given.length

theorem lawful_begin {pool : Pool} (made : Pool.make settings = .ok pool) (s : π) (r : ρ) :
    (begin settings pool s r).Lawful settings :=
  ⟨Shift.lawful_begin Sink.keep settings [], Crew.sound_begin made s r,
    Desk.mirrors_start made s r, List.nil_prefix, rfl⟩

theorem Lawful.perform (law : w.Lawful settings) (returns : d.policy.Returns)
    (places : 1 ≤ settings.sendQueue) {duty : Duty} {crew : Crew π ρ}
    (moved : Crew.Step d w.crew duty crew) (nothing : ∀ b, duty ≠ .give b) :
    Lawful settings { w with crew := crew } := by
  have hgiven := moved.given_eq nothing
  refine ⟨law.shift, law.crew.step places moved,
    Crew.mirrors_step returns law.crew.headcount moved law.mirrors, ?_, ?_⟩
  · show crew.desk.given.map (·.batch) <+: w.shift.flushed
    rw [hgiven]
    exact law.given_prefix
  · show w.flushed = crew.desk.given.length
    rw [hgiven]
    exact law.flushed_eq

theorem Lawful.give (law : w.Lawful settings) (returns : d.policy.Returns)
    (places : 1 ≤ settings.sendQueue) {b : Batch} (next : w.next? = some b) :
    (w.give b).Lawful settings := by
  have hmoved : Crew.Step d w.crew (.give b) (w.give b).crew := .give b
  refine ⟨law.shift, law.crew.step places hmoved,
    Crew.mirrors_step returns law.crew.headcount hmoved law.mirrors, ?_, ?_⟩
  · have hgiven : (w.give b).crew.desk.given.map (·.batch) =
        w.crew.desk.given.map (·.batch) ++ [b] := List.map_append
    rw [hgiven]
    refine concat_prefix law.given_prefix ?_
    rw [List.length_map]
    exact next
  · show w.flushed + 1 = (w.crew.desk.given ++ [_]).length
    rw [law.flushed_eq, List.length_append, List.length_singleton]

/-- Every step keeps the law. -/
theorem Lawful.step (law : w.Lawful settings) (returns : d.policy.Returns)
    (places : 1 ≤ settings.sendQueue) (hstep : Step d settings w act after) :
    after.Lawful settings := by
  cases hstep with
  | shift allowed moved =>
    exact { law with
      shift := law.shift.step Sink.keep_returns moved
      given_prefix := law.given_prefix.trans (Shift.flushed_step moved) }
  | interrupt looping => exact { law with }
  | flush quiet next => exact law.give returns places next
  | crew own moved =>
    refine law.perform returns places moved ?_
    rintro b rfl
    exact Bool.noConfusion own
  | shutdown gone free moved => exact law.perform returns places moved nofun

theorem Lawful.run (law : w.Lawful settings) (returns : d.policy.Returns)
    (places : 1 ≤ settings.sendQueue) {acts : List Act}
    (reached : w.run d settings acts = some after) : after.Lawful settings := by
  induction acts generalizing w with
  | nil =>
    obtain rfl := Option.some.inj reached
    exact law
  | cons act rest ih =>
    obtain ⟨next, hnext, hrest⟩ := Option.bind_eq_some_iff.1 reached
    exact ih (law.step returns places (step_cases hnext)) hrest

theorem countP_isSubmit_cons (act : Act) (rest : List Act) :
    (act :: rest).countP Act.isSubmit = act.isSubmit.toNat + rest.countP Act.isSubmit := by
  rw [List.countP_cons, Nat.add_comm]
  cases act.isSubmit <;> rfl

/-- Every submit is counted, as accepted or as dropped. -/
theorem total_run {acts : List Act} (reached : w.run d settings acts = some after) :
    after.shift.total = w.shift.total + acts.countP Act.isSubmit := by
  induction acts generalizing w with
  | nil =>
    obtain rfl := Option.some.inj reached
    rfl
  | cons act rest ih =>
    obtain ⟨next, hnext, hrest⟩ := Option.bind_eq_some_iff.1 reached
    have hone : next.shift.total = w.shift.total + act.isSubmit.toNat := by
      cases step_cases hnext with
      | shift allowed moved => exact Shift.total_step moved
      | _ => rfl
    rw [ih hrest, hone, countP_isSubmit_cons, Nat.add_assoc]

/-- Nothing is missed while no producer submits anything. -/
theorem missed_run {acts : List Act} (alone : ∀ act ∈ acts, act.isSubmit = false)
    (reached : w.run d settings acts = some after) (missed : w.shift.missed = []) :
    after.shift.missed = [] := by
  induction acts generalizing w with
  | nil =>
    obtain rfl := Option.some.inj reached
    exact missed
  | cons act rest ih =>
    obtain ⟨next, hnext, hrest⟩ := Option.bind_eq_some_iff.1 reached
    obtain ⟨hact, halone⟩ := List.forall_mem_cons.1 alone
    refine ih halone hrest ?_
    cases step_cases hnext with
    | shift allowed moved => exact Shift.missed_step moved hact missed
    | _ => exact missed

/-! ## After a stop -/

/-- The collector has ended, and the pool was given everything that was handed over. -/
structure Closed (w : Works π ρ) : Prop where
  /-- The collector has ended. -/
  gone : w.shift.phase = .gone
  /-- The inbox is closed. -/
  closed : w.shift.inbox.receiving = false
  /-- The pool was given everything, and no call is under way. -/
  free : w.free = true

theorem free_iff :
    w.free = true ↔ w.crew.quiet = true ∧ w.crew.desk.given.length = w.shift.flushed.length := by
  simp [free]

/-- The crew goes on without a call, and the pool is still given nothing. -/
theorem Closed.perform (h : w.Closed) {duty : Duty} {crew : Crew π ρ}
    (moved : Crew.Step d w.crew duty crew) (nothing : ∀ b, duty ≠ .give b) :
    Closed { w with crew := crew } := by
  obtain ⟨hquiet, hall⟩ := free_iff.1 h.free
  refine ⟨h.gone, h.closed, free_iff.2 ⟨moved.keepsQuiet hquiet nothing, ?_⟩⟩
  show crew.desk.given.length = w.shift.flushed.length
  rw [moved.given_eq nothing, hall]

theorem Closed.dropping (h : w.Closed) (n : Nat) :
    Closed { w with shift := w.shift.dropping n } := ⟨h.gone, h.closed, h.free⟩

/-- After a stop, producers can only have records dropped. -/
theorem Closed.step (h : w.Closed) (hstep : Step d settings w act after) :
    after.Closed ∧ after.shift = w.shift.dropping act.isSubmit.toNat := by
  cases hstep with
  | shift allowed moved =>
    obtain ⟨hsubmit, rfl⟩ := Shift.step_of_gone moved h.gone h.closed
    refine ⟨h.dropping 1, ?_⟩
    rw [Act.isSubmit, hsubmit]
    rfl
  | interrupt looping => exact ⟨{ h with }, rfl⟩
  | flush quiet next =>
    -- everything was given, so nothing is next
    obtain ⟨-, hall⟩ := free_iff.1 h.free
    exact absurd next (by simp [next?, hall])
  | crew own moved =>
    refine ⟨h.perform moved ?_, rfl⟩
    rintro b rfl
    exact Bool.noConfusion own
  | shutdown gone free moved => exact ⟨h.perform moved nofun, rfl⟩

theorem Closed.run (h : w.Closed) {acts : List Act}
    (reached : w.run d settings acts = some after) :
    after.Closed ∧ after.shift = w.shift.dropping (acts.countP Act.isSubmit) := by
  induction acts generalizing w with
  | nil =>
    obtain rfl := Option.some.inj reached
    exact ⟨h, rfl⟩
  | cons act rest ih =>
    obtain ⟨next, hnext, hrest⟩ := Option.bind_eq_some_iff.1 reached
    obtain ⟨hclosed, hshift⟩ := h.step (step_cases hnext)
    obtain ⟨hend, hafter⟩ := ih hclosed hrest
    refine ⟨hend, ?_⟩
    rw [hafter, hshift, countP_isSubmit_cons]
    simp only [Shift.dropping, Nat.add_assoc]

/-- A stop that ends leaves the works closed. -/
theorem closed_of_shutdown (law : w.Lawful settings)
    (hstep : Step d settings w .shutdown after) : after.Closed := by
  cases hstep with
  | shutdown gone free moved =>
    have hclosed : w.Closed := ⟨gone, law.shift.closed gone, free⟩
    exact hclosed.perform moved nofun

/-! ## The account of a run -/

theorem Lawful.flushed_perm (law : w.Lawful settings) (gone : w.shift.phase = .gone)
    (missed : w.shift.missed = []) :
    (w.shift.flushed.flatMap Batch.records).Perm w.shift.accepted := by
  refine Record.perm_of_payloadsUnder fun key => ?_
  rw [Batch.payloadsUnder_flatMap_records]
  exact law.shift.complete gone missed key

/-- The sizes of the batches add up to what was accepted. -/
theorem Lawful.sum_size (law : w.Lawful settings) (gone : w.shift.phase = .gone)
    (missed : w.shift.missed = []) :
    (w.shift.flushed.map Batch.size).sum = w.counters.accepted := by
  have hlength := (law.flushed_perm gone missed).length_eq
  rw [List.length_flatMap, ← law.shift.count_eq] at hlength
  simp only [Batch.length_records] at hlength
  exact hlength

/-- When nobody has a handle of the pool any more, every batch that it was given was published, has
failed or was refused. -/
theorem Lawful.batches_eq (law : w.Lawful settings) (closed : w.Closed)
    (workers : 1 ≤ settings.workers) (nobody : w.crew.handles = 0) :
    w.counters.batchesFlushed =
      w.counters.batchesSent + w.counters.sendFailed + w.counters.sendRejected := by
  obtain ⟨hquiet, -⟩ := free_iff.1 closed.free
  obtain ⟨hcalls, hleaving, hhiring⟩ := Crew.quiet_iff.1 hquiet
  obtain ⟨-, -, -, -, haccepted⟩ := law.crew.ended workers nobody
  have hgiven := (law.crew.kept.given_perm law.crew.placed).length_eq
  have hdone := haccepted.length_eq
  have hsent := law.mirrors.sent_eq
  have hfailed := law.mirrors.failed_eq
  have hrejected := law.mirrors.rejected_eq
  rw [hhiring] at hgiven
  simp only [Desk.slipsAt, hcalls, List.map_nil, List.nil_append, Option.toList_none,
    List.append_nil, List.length_append, List.length_map] at hgiven hdone
  show w.flushed = w.crew.desk.pool.sent + w.crew.desk.pool.failed + w.crew.desk.pool.rejected
  rw [law.flushed_eq]
  omega

end Steps

section Runs

variable {d : Downstream π ρ} {settings : Settings}

/-- A stop during which no producer submits anything closes the works, and nothing is missed. -/
theorem Lawful.stop {w stopped : Works π ρ} (law : w.Lawful settings) (returns : d.policy.Returns)
    (places : 1 ≤ settings.sendQueue) {closing : List Act}
    (alone : ∀ act ∈ closing, act.isSubmit = false)
    (reached : w.run d settings (.interrupt :: (closing ++ [.shutdown])) = some stopped) :
    stopped.Lawful settings ∧ stopped.Closed ∧ stopped.shift.missed = [] := by
  obtain ⟨interrupted, hinterrupt, hrest⟩ := Option.bind_eq_some_iff.1 reached
  have hinterrupted := law.step returns places (step_cases hinterrupt)
  -- the loop was running, so nothing was missed until then
  have hmissed : interrupted.shift.missed = [] := by
    cases step_cases hinterrupt with
    | interrupt looping => exact law.shift.missed_nil (by rw [looping]; rfl)
  have halone : ∀ act ∈ closing ++ [.shutdown], act.isSubmit = false := by
    intro act hact
    rcases List.mem_append.1 hact with hact | hact
    · exact alone act hact
    · obtain rfl := List.mem_singleton.1 hact
      rfl
  refine ⟨hinterrupted.run returns places hrest, ?_, missed_run halone hrest hmissed⟩
  rw [run_append] at hrest
  obtain ⟨ended, hended, hlast⟩ := Option.bind_eq_some_iff.1 hrest
  obtain ⟨after, hshutdown, hafter⟩ := Option.bind_eq_some_iff.1 hlast
  obtain rfl := Option.some.inj hafter
  exact closed_of_shutdown (hinterrupted.run returns places hended) (step_cases hshutdown)

/-- **Nothing is lost on the way.** Producers submit, the collector is started, reads and hands
over, and the pool publishes, in any order; then the collector is interrupted, no producer submits
anything until the pool is shut down, and after that anything happens. The submits until the stop
are those accepted and those dropped. What was accepted is handed over: each record in one batch,
under its own key, in the order of the key, so that the sizes of the batches add up to the accepted
records. The pool was given every batch, in that order. Once its threads have ended, the batches are
those that were published, those that failed and those that were refused. A later submit changes
nothing but the number of dropped records. -/
theorem run_complete (returns : d.policy.Returns) {pool : Pool}
    (made : Pool.make settings = .ok pool) (workers : 1 ≤ settings.workers)
    (places : 1 ≤ settings.sendQueue) (s : π) (r : ρ) {opening closing later : List Act}
    {stopped w : Works π ρ}
    (reached : (begin settings pool s r).run d settings
      (opening ++ .interrupt :: (closing ++ [.shutdown])) = some stopped)
    (alone : ∀ act ∈ closing, act.isSubmit = false)
    (continued : stopped.run d settings later = some w) :
    stopped.counters.accepted + stopped.counters.dropped = opening.countP Act.isSubmit ∧
      w.shift = stopped.shift.dropping (later.countP Act.isSubmit) ∧
      (∀ r awaited, w.step d settings (.shift (.submit r awaited)) =
        some { w with shift := w.shift.dropping 1 }) ∧
      w.counters.accepted = w.shift.accepted.length ∧
      (∀ key, Batch.itemsUnder key w.shift.flushed =
        Record.payloadsUnder key w.shift.accepted) ∧
      (w.shift.flushed.flatMap Batch.records).Perm w.shift.accepted ∧
      (w.shift.flushed.map Batch.size).sum = w.counters.accepted ∧
      w.crew.desk.given.map (·.batch) = w.shift.flushed ∧
      w.counters.batchesFlushed = w.shift.flushed.length ∧
      (w.crew.handles = 0 → w.counters.batchesFlushed =
        w.counters.batchesSent + w.counters.sendFailed + w.counters.sendRejected) := by
  have hsubmits := total_run reached
  rw [run_append] at reached
  obtain ⟨opened, hopened, hrest⟩ := Option.bind_eq_some_iff.1 reached
  have hbegin := (lawful_begin made s r).run returns places hopened
  obtain ⟨hlaw, hclosed, hmissed⟩ := hbegin.stop returns places alone hrest
  obtain ⟨hend, hshift⟩ := hclosed.run continued
  have law : w.Lawful settings := hlaw.run returns places continued
  have hnone : w.shift.missed = [] := by
    rw [hshift]
    exact hmissed
  have hgiven : w.crew.desk.given.map (·.batch) = w.shift.flushed := by
    refine law.given_prefix.eq_of_length ?_
    rw [List.length_map]
    exact (free_iff.1 hend.free).2
  refine ⟨?_, hshift, fun r awaited => ?_, law.shift.count_eq, law.shift.complete hend.gone hnone,
    law.flushed_perm hend.gone hnone, law.sum_size hend.gone hnone, hgiven, ?_,
    law.batches_eq hend workers⟩
  · -- only the submits of the opening count, as there are no others
    have hclosing : closing.countP Act.isSubmit = 0 := by
      rw [List.countP_eq_zero]
      intro act hact
      simp [alone act hact]
    rw [List.countP_append, countP_isSubmit_cons, List.countP_append, hclosing] at hsubmits
    exact hsubmits.trans (Nat.zero_add _)
  · simp only [step, allows, if_true, Shift.step, Option.map_some,
      Shift.submit_of_closed hend.closed]
  · rw [← hgiven, List.length_map]
    exact law.flushed_eq

end Runs

/-- Five records are accepted, the first before the start, and one is dropped. Two of them make a
full batch; the others are still open or queued when the collector is interrupted. -/
def busyOpening : List Act :=
  [.shift (.submit ⟨"taken", .null⟩ false), .shift (.start 0),
    .shift (.submit ⟨"failing", .null⟩ false), .shift (.submit ⟨"taken", .bool true⟩ false),
    .shift (.read 1), .shift (.submit ⟨"taken", .bool true⟩ false), .shift (.read 2),
    .shift (.read 3), .flush, .crew (.advance 0), .shift (.submit ⟨"panicking", .null⟩ false),
    .crew (.advance 0), .shift (.submit ⟨"refused", .null⟩ false), .crew .start]

/-- The collector takes out what is queued and hands over what is open: one batch waits, one has a
further sender, and one is refused. -/
def busyClosing : List Act :=
  [.shift (.stop 4), .shift .look, .crew (.publish 0), .shift .look, .shift .look, .shift .hand,
    .flush, .crew (.advance 0), .crew (.advance 0), .crew (.advance 0), .shift .hand, .flush,
    .crew (.advance 0), .crew (.advance 0), .crew (.advance 0), .crew (.advance 0), .crew .start,
    .shift .hand, .flush, .crew (.advance 0), .crew (.advance 0), .crew (.advance 0),
    .crew (.advance 0), .crew (.advance 0), .crew .count, .shift .close]

/-- The senders publish what is left and end, and one more record is submitted meanwhile. -/
def busyLater : List Act :=
  [.crew (.finish 0), .shift (.submit ⟨"late", .null⟩ false), .crew .take, .crew (.publish 0),
    .crew .release, .crew (.publish 1), .crew (.finish 1), .crew .cut, .crew (.finish 0),
    .crew .cut, .crew .depart, .crew .part, .crew .depart, .crew .part]

theorem run_complete_busy :
    Desk.mixedDownstream.policy.Returns ∧ (∀ act ∈ busyClosing, act.isSubmit = false) ∧
      ∃ pool stopped w,
        Pool.make { workers := 1, sendQueue := 1, recordQueue := 2, maxBatchSize := 2 } =
          .ok pool ∧
        (begin { workers := 1, sendQueue := 1, recordQueue := 2, maxBatchSize := 2 } pool 0 0).run
          Desk.mixedDownstream { workers := 1, sendQueue := 1, recordQueue := 2, maxBatchSize := 2 }
          (busyOpening ++ .interrupt :: (busyClosing ++ [.shutdown])) = some stopped ∧
        stopped.run Desk.mixedDownstream
          { workers := 1, sendQueue := 1, recordQueue := 2, maxBatchSize := 2 } busyLater =
          some w ∧
        w.crew.handles = 0 ∧ w.counters = ⟨5, 2, 4, 1, 1, 2⟩ ∧
        (w.shift.flushed.map Batch.size).sum = 5 ∧
        w.counters.batchesFlushed =
          w.counters.batchesSent + w.counters.sendFailed + w.counters.sendRejected := by
  let settings : Settings := { workers := 1, sendQueue := 1, recordQueue := 2, maxBatchSize := 2 }
  let pool : Pool := { workers := 1, ceiling := 2, capacity := 1 }
  let acts := busyOpening ++ .interrupt :: (busyClosing ++ [.shutdown])
  have returns : Desk.mixedDownstream.policy.Returns := fun _ _ _ => rfl
  have made : Pool.make settings = .ok pool := rfl
  have alone : ∀ act ∈ busyClosing, act.isSubmit = false := by
    have hall : (busyClosing.all fun act => !act.isSubmit) = true := rfl
    intro act hact
    simpa using List.all_eq_true.1 hall act hact
  have hend : (((begin settings pool 0 0).run Desk.mixedDownstream settings acts).bind
      fun stopped => (stopped.run Desk.mixedDownstream settings busyLater).map fun w =>
        (w.crew.handles, w.counters)) = some (0, ⟨5, 2, 4, 1, 1, 2⟩) := by
    decide
  obtain ⟨stopped, reached, hlater⟩ := Option.bind_eq_some_iff.1 hend
  obtain ⟨w, continued, hw⟩ := Option.map_eq_some_iff.1 hlater
  obtain ⟨nobody, hcounters⟩ := Prod.mk.inj hw
  obtain ⟨-, -, -, -, -, -, hsizes, -, -, hbatches⟩ := run_complete returns made (Nat.le_refl 1)
    (Nat.le_refl 1) 0 0 reached alone continued
  refine ⟨returns, alone, pool, stopped, w, made, reached, continued, nobody, hcounters, ?_,
    hbatches nobody⟩
  rw [hsizes, hcounters]

end Works

end EventBatching
