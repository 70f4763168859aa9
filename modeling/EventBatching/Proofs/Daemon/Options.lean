import EventBatching.Daemon.Process

/-!
# What accepted options allow for

The daemon accepts every number but zero. That is not quite enough for its pipeline: the greatest
number of senders is twice the regular number, and a word may be too small for it. Half of the
numbers that a word can hold are so large. With one of them there is no pipeline at all; with any
other the greatest number of senders is exactly twice the regular one.

* `Settings.burstLimit?_eq_some_iff` says when twice the senders are not too many, and
  `Pipeline.make_cases` what becomes of settings.
* `Daemon.Options.exists_ofGiven_iff` says which options are accepted.
* `Daemon.ofGiven_ceiling` puts them together. `Daemon.manySenders_overflow` is about the smallest
  number of senders that is accepted although it is too large.
-/

namespace EventBatching

/-! ## Settings -/

namespace Settings

/-- The regular number of senders from which on a word cannot hold twice as many, 2^63. -/
def sendersEnd : Nat := 0x8000000000000000

/-- The queues are not too large for a piece of memory. -/
structure QueuesFit (s : Settings) : Prop where
  /-- The queue of records is not. -/
  records : s.recordQueue * recordSlot < 0x8000000000000000
  /-- The queue of batches is not. -/
  batches : s.sendQueue * batchSlot < 0x8000000000000000

theorem burstLimit?_eq_some_iff {s : Settings} {limit : Nat} :
    s.burstLimit? = some limit ↔ limit = 2 * s.workers ∧ s.workers < sendersEnd := by
  rw [burstLimit?, wordEnd, sendersEnd]
  split
  · next hfits =>
    rw [Option.some_inj]
    omega
  · next hlarge =>
    refine ⟨fun h => absurd h (by simp), fun h => absurd h.2 ?_⟩
    omega

theorem burstLimit?_eq_none_iff {s : Settings} :
    s.burstLimit? = none ↔ sendersEnd ≤ s.workers := by
  rw [Option.eq_none_iff_forall_ne_some, ← Nat.not_lt]
  refine ⟨fun h hfew => h _ (burstLimit?_eq_some_iff.2 ⟨rfl, hfew⟩), fun h limit hlimit => ?_⟩
  exact h (burstLimit?_eq_some_iff.1 hlimit).2

/-- A queue whose slots take two bytes or more is too large before it is too long. -/
theorem queueExcess?_eq_none_iff {length slot : Nat} (wide : 2 ≤ slot) :
    queueExcess? length slot = none ↔ length * slot < 0x8000000000000000 := by
  have hholds : Memory.holds (length * slot) = true ↔ length * slot < 0x8000000000000000 := by
    rw [Memory.holds, Memory.pieceLimit, decide_eq_true_iff]
    omega
  rw [← hholds, queueExcess?, queueEnd]
  split
  · next hlong =>
    have hlarge : 0x4000000000000000 * 2 ≤ length * slot := Nat.mul_le_mul hlong wide
    refine ⟨fun h => absurd h (by simp), fun h => ?_⟩
    have hsmall := hholds.1 h
    omega
  · split
    · next hfits => simp [hfits]
    · next hlarge => simp [hlarge]

/-- It is never for the senders that there is no queue. -/
theorem queueExcess?_ne_senders {length slot : Nat} {excess : Excess}
    (h : queueExcess? length slot = some excess) : excess ≠ .senders := by
  rw [queueExcess?] at h
  split at h
  · obtain rfl := Option.some.inj h
    exact Excess.noConfusion
  · split at h
    · cases h
    · obtain rfl := Option.some.inj h
      exact Excess.noConfusion

theorem queuesFit_iff {s : Settings} :
    s.QueuesFit ↔ s.inboxExcess? = none ∧ queueExcess? s.sendQueue batchSlot = none := by
  rw [inboxExcess?, queueExcess?_eq_none_iff (by decide), queueExcess?_eq_none_iff (by decide)]
  exact ⟨fun h => ⟨h.records, h.batches⟩, fun h => ⟨h.1, h.2⟩⟩

end Settings

/-! ## Pipelines -/

namespace Pipeline

variable {π ρ : Type}

/-- There is a pipeline, or a word cannot hold twice its senders, or a queue is too large; the last
comes up first. -/
theorem make_cases (s : Settings) (published : π) (refused : ρ) (gated : Bool) :
    (s.QueuesFit ∧ s.workers < Settings.sendersEnd ∧
      ∃ p, make s published refused gated = .ok p ∧ p.sending.pool.ceiling = 2 * s.workers) ∨
    (s.QueuesFit ∧ Settings.sendersEnd ≤ s.workers ∧
      make s published refused gated = .error .senders) ∨
    (¬ s.QueuesFit ∧ ∃ excess, make s published refused gated = .error excess ∧
      excess ≠ .senders) := by
  cases hinbox : s.inboxExcess? with
  | some excess =>
    refine .inr (.inr ⟨fun hfit => ?_, excess, ?_, Settings.queueExcess?_ne_senders hinbox⟩)
    · rw [(Settings.queuesFit_iff.1 hfit).1] at hinbox
      cases hinbox
    · rw [make, hinbox]
  | none =>
    cases hqueue : Settings.queueExcess? s.sendQueue Settings.batchSlot with
    | some excess =>
      refine .inr (.inr ⟨fun hfit => ?_, excess, ?_, Settings.queueExcess?_ne_senders hqueue⟩)
      · rw [(Settings.queuesFit_iff.1 hfit).2] at hqueue
        cases hqueue
      · rw [make, hinbox, Pool.make, Settings.poolCeiling, hqueue]
        rfl
    | none =>
      have hfit : s.QueuesFit := Settings.queuesFit_iff.2 ⟨hinbox, hqueue⟩
      cases hlimit : s.burstLimit? with
      | some limit =>
        obtain ⟨rfl, hfew⟩ := Settings.burstLimit?_eq_some_iff.1 hlimit
        refine .inl ⟨hfit, hfew, ?_⟩
        rw [make, hinbox, Pool.make, Settings.poolCeiling, hqueue, hlimit]
        exact ⟨_, rfl, rfl⟩
      | none =>
        refine .inr (.inl ⟨hfit, Settings.burstLimit?_eq_none_iff.1 hlimit, ?_⟩)
        rw [make, hinbox, Pool.make, Settings.poolCeiling, hqueue, hlimit]
        rfl

theorem exists_make_iff (s : Settings) (published : π) (refused : ρ) (gated : Bool) :
    (∃ p, make s published refused gated = .ok p) ↔
      s.workers < Settings.sendersEnd ∧ s.QueuesFit := by
  rcases make_cases s published refused gated with
    ⟨hfit, hfew, p, hp, -⟩ | ⟨hfit, hmany, hsenders⟩ | ⟨hlarge, excess, hexcess, -⟩
  · exact ⟨fun _ => ⟨hfew, hfit⟩, fun _ => ⟨p, hp⟩⟩
  · simp [hsenders, Nat.not_lt.2 hmany]
  · simp [hexcess, hlarge]

theorem make_eq_senders_iff (s : Settings) (published : π) (refused : ρ) (gated : Bool) :
    make s published refused gated = .error .senders ↔
      Settings.sendersEnd ≤ s.workers ∧ s.QueuesFit := by
  rcases make_cases s published refused gated with
    ⟨hfit, hfew, p, hp, -⟩ | ⟨hfit, hmany, hsenders⟩ | ⟨hlarge, excess, hexcess, hother⟩
  · simp [hp, Nat.not_le.2 hfew]
  · exact ⟨fun _ => ⟨hmany, hfit⟩, fun _ => hsenders⟩
  · simp [hexcess, hlarge, hother]

/-- A pipeline that was made may have twice its regular number of senders. -/
theorem ceiling_of_make {s : Settings} {published : π} {refused : ρ} {gated : Bool}
    {p : Pipeline π ρ} (made : make s published refused gated = .ok p) :
    p.sending.pool.ceiling = 2 * s.workers := by
  rcases make_cases s published refused gated with
    ⟨-, -, p', hp, hceiling⟩ | ⟨-, -, hsenders⟩ | ⟨-, excess, hexcess, -⟩
  · obtain rfl := Except.ok.inj (hp.symm.trans made)
    exact hceiling
  · rw [hsenders] at made
    cases made
  · rw [hexcess] at made
    cases made

end Pipeline

/-! ## Options -/

namespace Daemon

/-- Options are accepted exactly if no number is zero. -/
theorem Options.exists_ofGiven_iff (g : CommandLine.Given) (e : Environment) :
    (∃ o, Options.ofGiven g e = .ok o) ↔ ∀ option ∈ positiveOptions, 0 < numberOf g option := by
  rw [Options.ofGiven]
  cases hzero : positiveOptions.find? fun option => numberOf g option == 0 with
  | none =>
    refine ⟨fun _ option hoption => ?_, fun _ => ⟨_, rfl⟩⟩
    have hpositive := List.find?_eq_none.1 hzero option hoption
    exact Nat.pos_of_ne_zero fun h => hpositive (beq_iff_eq.2 h)
  | some option =>
    refine ⟨fun ⟨o, ho⟩ => (nomatch ho), fun hpositive => ?_⟩
    have hmem := List.mem_of_find?_eq_some hzero
    have hfound := List.find?_some hzero
    exact absurd (beq_iff_eq.1 hfound) (Nat.ne_of_gt (hpositive option hmem))

/-- What is accepted are the numbers that were given. -/
theorem Options.workers_of_ofGiven {g : CommandLine.Given} {e : Environment} {o : Options}
    (accepted : Options.ofGiven g e = .ok o) :
    o.settings.workers = numberOf g workersOption ∧ 0 < o.settings.workers := by
  have hpositive := (Options.exists_ofGiven_iff g e).1 ⟨o, accepted⟩ workersOption (by decide)
  rw [Options.ofGiven] at accepted
  split at accepted
  · cases accepted
  · obtain rfl := Except.ok.inj accepted
    exact ⟨rfl, hpositive⟩

/-- **Twice the senders, unless that is too many for a word.** The daemon accepts what it is given
exactly if none of its seven numbers is zero. Of what it accepts, the greatest number of senders is
exactly twice the regular one as long as the regular number is below 2^63; from there on it does not
exist. A pipeline is made exactly if besides the queues are not too large for a piece of memory, and
it has that greatest number of senders, which is more than the regular one. -/
theorem ofGiven_ceiling (g : CommandLine.Given) (e : Environment) :
    ((∃ o, Options.ofGiven g e = .ok o) ↔
      0 < numberOf g timeoutOption ∧ 0 < numberOf g sizeOption ∧ 0 < numberOf g workersOption ∧
        0 < numberOf g sendQueueOption ∧ 0 < numberOf g recordQueueOption ∧
        0 < numberOf g keepAliveOption ∧ 0 < numberOf g graceOption) ∧
    ∀ o, Options.ofGiven g e = .ok o →
      o.settings.workers = numberOf g workersOption ∧
      (o.settings.burstLimit? = some (2 * o.settings.workers) ↔
        o.settings.workers < Settings.sendersEnd) ∧
      (o.settings.burstLimit? = none ↔ Settings.sendersEnd ≤ o.settings.workers) ∧
      ∀ {π ρ : Type} (published : π) (refused : ρ) (gated : Bool),
        ((∃ p, Pipeline.make o.settings published refused gated = .ok p) ↔
          o.settings.workers < Settings.sendersEnd ∧ o.settings.QueuesFit) ∧
        (Pipeline.make o.settings published refused gated = .error .senders ↔
          Settings.sendersEnd ≤ o.settings.workers ∧ o.settings.QueuesFit) ∧
        ∀ p, Pipeline.make o.settings published refused gated = .ok p →
          p.sending.pool.ceiling = 2 * o.settings.workers ∧
            o.settings.workers + 1 ≤ p.sending.pool.ceiling := by
  refine ⟨?_, fun o accepted => ?_⟩
  · rw [Options.exists_ofGiven_iff]
    simp only [positiveOptions, List.forall_mem_cons, List.not_mem_nil, false_implies, implies_true,
      and_true]
  obtain ⟨hworkers, hpositive⟩ := Options.workers_of_ofGiven accepted
  rw [Settings.burstLimit?_eq_some_iff, Settings.burstLimit?_eq_none_iff]
  refine ⟨hworkers, ⟨And.right, fun hfew => ⟨rfl, hfew⟩⟩, Iff.rfl,
    fun published refused gated => ⟨Pipeline.exists_make_iff .., Pipeline.make_eq_senders_iff ..,
      fun p made => ?_⟩⟩
  rw [Pipeline.ceiling_of_make made]
  omega

/-- Three senders, and the standards for the rest. -/
def threeSenders : CommandLine.Given := { options := [("workers", .number 3)] }

theorem ofGiven_ceiling_threeSenders :
    ∃ o, Options.ofGiven threeSenders {} = .ok o ∧ o.settings.burstLimit? = some 6 ∧
      ∃ p, Pipeline.make o.settings () () false = .ok p ∧ p.sending.pool.ceiling = 6 := by
  obtain ⟨hiff, hall⟩ := ofGiven_ceiling threeSenders {}
  obtain ⟨o, accepted⟩ := hiff.2 (by decide)
  obtain ⟨hworkers, hlimit, -, hmake⟩ := hall o accepted
  have hthree : o.settings.workers = 3 := by rw [hworkers]; rfl
  obtain ⟨hmade, -, hceiling⟩ := hmake () () false
  have hfit : o.settings.QueuesFit := by
    obtain rfl := Except.ok.inj accepted
    exact ⟨by decide, by decide⟩
  have hfew : o.settings.workers < Settings.sendersEnd := by rw [hthree]; decide
  obtain ⟨p, made⟩ := hmade.2 ⟨hfew, hfit⟩
  refine ⟨o, accepted, ?_, p, made, ?_⟩
  · rw [hlimit.2 hfew, hthree]
  · rw [(hceiling p made).1, hthree]

/-- The smallest number of senders that is too large. -/
def manySenders : List String := ["--workers", "9223372036854775808"]

/-- Options are accepted, and yet there is no pipeline for them, since twice the senders are too
many for a word. -/
theorem manySenders_overflow :
    (readOptions manySenders {}).toOption.map (·.settings) =
        some { workers := Settings.sendersEnd } ∧
      ({ workers := Settings.sendersEnd } : Settings).burstLimit? = none ∧
      (Pipeline.make { workers := Settings.sendersEnd } () () false :
        Except _ (Pipeline Unit Unit)) = .error .senders :=
  ⟨by decide +kernel, by decide, rfl⟩

end Daemon

end EventBatching
