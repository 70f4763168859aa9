import EventBatching.Proofs.Pipeline.Lifetime
import EventBatching.Proofs.Pipeline.Submitting

/-!
# The operations of a pipeline

A pipeline does at once what its threads do in steps: it reads all that is queued, and to stop it is
to let the collector end. So whatever is done with a pipeline is a run of calls with the steps of
the collector between them, and what is known of all such runs is known of the pipeline.

* `Lifetime.Leads` says that steps which are not submits lead from one moment to another.
* `Pipeline.Seen` says that a pipeline is what is seen of a run at some moment.
* `Pipeline.leads_reads`, `Pipeline.leads_idle` and `Pipeline.leads_conclude` are the steps of a
  collector that reads what is queued, looks at the open batches and ends.
* `Pipeline.Seen.submit`, `Pipeline.Seen.start`, `Pipeline.Seen.stop` and `Pipeline.Seen.await` say
  it of each operation, and `Pipeline.Seen.callAll` of any number of them.
* `Pipeline.stop_final` is what this says of a pipeline after a stop.
-/

namespace EventBatching

/-! ## Steps that are not submits -/

namespace Lifetime

variable {π ρ : Type} {settings : Settings} {flush : Sink (Sending π ρ)} {life : Lifetime π ρ}

/-- The collector does steps that it may do. -/
theorem run_collector {events : List Shift.Event} {shift : Shift (Sending π ρ)}
    (allowed : ∀ event ∈ events, life.allows event = true)
    (moved : life.shift.run settings flush events = some shift) :
    life.run settings flush (events.map .collector) = some { life with shift := shift } := by
  induction events generalizing life with
  | nil =>
    obtain rfl := Option.some.inj moved
    rfl
  | cons event rest ih =>
    obtain ⟨next, hnext, hrest⟩ := Option.bind_eq_some_iff.1 moved
    obtain ⟨hevent, hothers⟩ := List.forall_mem_cons.1 allowed
    have hstep : life.step settings flush (.collector event) =
        some { life with shift := next } := by
      rw [step, if_pos hevent, hnext]
      rfl
    rw [List.map_cons, run, hstep]
    have hlater := @ih { life with shift := next } hothers hrest
    exact hlater

/-- Steps that are not submits lead from one moment of a pipeline to another. -/
def Leads (settings : Settings) (flush : Sink (Sending π ρ)) (life after : Lifetime π ρ) : Prop :=
  ∃ events, (∀ event ∈ events, Event.isSubmit event = false) ∧
    life.run settings flush events = some after

theorem Leads.refl (life : Lifetime π ρ) : Leads settings flush life life := ⟨[], nofun, rfl⟩

theorem Leads.trans {next after : Lifetime π ρ} (h : Leads settings flush life next)
    (h' : Leads settings flush next after) : Leads settings flush life after := by
  obtain ⟨events, hquiet, hrun⟩ := h
  obtain ⟨events', hquiet', hrun'⟩ := h'
  refine ⟨events ++ events', fun event hevent => ?_, ?_⟩
  · rcases List.mem_append.1 hevent with hevent | hevent
    · exact hquiet event hevent
    · exact hquiet' event hevent
  · rw [run_append, hrun]
    exact hrun'

/-- Such steps are a run that submits nothing. -/
theorem Leads.run {after : Lifetime π ρ} (h : Leads settings flush life after) :
    ∃ events, life.run settings flush events = some after ∧
      events.countP Event.isSubmit = 0 := by
  obtain ⟨events, hquiet, hrun⟩ := h
  refine ⟨events, hrun, List.countP_eq_zero.2 fun event hevent => ?_⟩
  rw [hquiet event hevent]
  exact Bool.false_ne_true

theorem leads_step {after : Lifetime π ρ} {event : Event π ρ} (quiet : event.isSubmit = false)
    (h : life.step settings flush event = some after) : Leads settings flush life after := by
  refine ⟨[event], fun e he => ?_, ?_⟩
  · obtain rfl := List.mem_singleton.1 he
    exact quiet
  · rw [run, h]
    rfl

theorem leads_work (life : Lifetime π ρ) (change : Sending π ρ → Sending π ρ) :
    Leads settings flush life (life.work change) := by
  have hstep : life.step settings flush (.pool change) = some (life.work change) := rfl
  exact leads_step rfl hstep

theorem leads_collector {events : List Shift.Event} {shift : Shift (Sending π ρ)}
    (allowed : ∀ event ∈ events, life.allows event = true)
    (moved : life.shift.run settings flush events = some shift) :
    Leads settings flush life { life with shift := shift } := by
  refine ⟨events.map .collector, fun event hevent => ?_, run_collector allowed moved⟩
  obtain ⟨e, -, rfl⟩ := List.mem_map.1 hevent
  rfl

end Lifetime

namespace Pipeline

open Lifetime (Leads)

variable {π ρ : Type} {settings : Settings} {flush : Sink (Sending π ρ)} {d : Downstream π ρ}

/-! ## What is seen of a run -/

/-- Where the collector of a pipeline is. -/
def phase (p : Pipeline π ρ) : Phase :=
  match p.collector with
  | some c => .looping c
  | none => if p.started then .gone else .waiting

/-- A pipeline is seen in a moment of a lifetime. -/
structure Seen (settings : Settings) (p : Pipeline π ρ) (life : Lifetime π ρ) : Prop where
  /-- The settings are those of the pipeline. -/
  settings_eq : p.settings = settings
  /-- A collector that runs was started. -/
  started : p.collector.isSome = true → p.started = true
  /-- The inbox is the same. -/
  inbox_eq : life.shift.inbox = p.inbox
  /-- The pool is the same. -/
  sink_eq : life.shift.sink = p.sending
  /-- The collector is where it is. -/
  phase_eq : life.shift.phase = p.phase
  /-- No stop is under way. -/
  free : life.stopping = false
  /-- A start has succeeded or has not. -/
  starts_eq : life.starts = p.started.toNat

/-! ## What a collector does -/

/-- A shutdown hands over what is queued and what is open, and closes the inbox. -/
theorem leads_conclude {p : Pipeline π ρ} {life : Lifetime π ρ} {c : Collector}
    (endLine : Log.Entry) {queue : List Record} (sink : life.shift.sink = p.sending)
    (inbox : life.shift.inbox.close = p.inbox.close)
    (queued : life.shift.inbox.queue.toList = queue)
    (draining : life.shift.phase = .draining c p.clock) :
    ∃ after, Leads settings (Sending.sink d) life after ∧
      after.shift.inbox = (p.conclude d c endLine queue).inbox ∧
      after.shift.sink = (p.conclude d c endLine queue).sending ∧
      after.shift.phase = .gone ∧ after.stopping = life.stopping ∧ after.starts = life.starts := by
  let logged := life.work (·.log [endLine])
  obtain ⟨looks, hands, hrun⟩ := Shift.run_shutdown settings (Sending.sink d)
    (x := logged.shift) draining
  have hlooks : ∀ event ∈ List.replicate looks Shift.Event.look ++
      (List.replicate hands .hand ++ [.close]), logged.allows event = true := by
    intro event hevent
    simp only [List.mem_append, List.mem_replicate, List.mem_singleton] at hevent
    rcases hevent with ⟨-, rfl⟩ | ⟨-, rfl⟩ | rfl <;> rfl
  let ended := c.shutdown (Sending.sink d) queue p.clock (p.sending.log [endLine])
  have hclosed := Lifetime.leads_collector hlooks hrun
  refine ⟨_, ((Lifetime.leads_work life _).trans hclosed).trans
    (Lifetime.leads_work _ (·.log ended.logs)), inbox, ?_, rfl, rfl, rfl⟩
  have hsink : logged.shift.sink = p.sending.log [endLine] := congrArg (·.log [endLine]) sink
  have hqueue : logged.shift.inbox.queue.toList = queue := queued
  simp only [Lifetime.work, Collector.shutdownInbox_eq, hsink, hqueue]
  rfl

/-- What a loop leaves: the rounds that did not take place are those whose records are still
queued, and a panic makes the collector shut down. -/
structure Looped (looped : Collector.Rounds (Sending π ρ)) (now : Nat) (life after : Lifetime π ρ) :
    Prop where
  /-- The pool has what was handed over. -/
  sink_eq : after.shift.sink = looped.sink
  /-- The collector goes on or shuts down. -/
  phase_eq : after.shift.phase =
    if looped.panicked.isSome then .draining looped.after now else .looping looped.after
  /-- Records are taken out and nothing else is done to the inbox. -/
  inbox_eq : { after.shift.inbox with queue := .empty } = { life.shift.inbox with queue := .empty }
  /-- What was not taken out is still queued. -/
  missed_eq : after.shift.inbox.queue.toList = looped.missed.filterMap (·.record)
  /-- No stop begins or ends. -/
  stopping_eq : after.stopping = life.stopping
  /-- Nothing is started. -/
  starts_eq : after.starts = life.starts

/-- The collector reads what is queued, until a round panics. -/
theorem leads_reads {life : Lifetime π ρ} {c : Collector} (looping : life.shift.phase = .looping c)
    (now : Nat) {queue : List Record} (queued : life.shift.inbox.queue.toList = queue) :
    ∃ after, Leads settings flush life after ∧
      Looped (c.loop flush (queue.map fun r => ⟨some r, now⟩) life.shift.sink) now life after := by
  induction queue generalizing life c with
  | nil => exact ⟨life, .refl life, rfl, looping, rfl, queued, rfl, rfl⟩
  | cons r rest ih =>
    cases hreceived : life.shift.inbox.receive with
    | none =>
      rw [Inbox.receive_eq_none_iff.1 hreceived] at queued
      exact absurd queued (by simp)
    | some found =>
      obtain ⟨r', inbox⟩ := found
      obtain ⟨htoList, hinbox⟩ := Inbox.receive_eq_some hreceived
      obtain ⟨rfl, hrest⟩ := List.cons.inj (htoList.symm.trans queued)
      let received := c.receive flush (some r') now life.shift.sink
      let next : Lifetime π ρ := { life with
        shift := life.shift.absorb received (.afterRound received now) inbox [r'] }
      have hstep : life.step settings flush (.collector (.read now)) = some next := by
        simp only [Lifetime.step, Lifetime.allows, if_true, Shift.step, looping, hreceived]
        rfl
      have hleads : Leads settings flush life next := Lifetime.leads_step rfl hstep
      have hqueue : { inbox with queue := .empty } = { life.shift.inbox with queue := .empty } := by
        rw [hinbox]
      rw [List.map_cons, Collector.loop]
      cases hresult : received.result with
      | error message =>
        have hphase : next.shift.phase = .draining received.after now :=
          Phase.afterRound_of_error hresult now
        refine ⟨next, hleads, rfl, hphase, hqueue, ?_, rfl, rfl⟩
        rw [List.filterMap_map]
        exact hrest.trans (List.filterMap_some).symm
      | ok full =>
        have hphase : next.shift.phase = .looping received.after :=
          Phase.afterRound_of_ok hresult now
        obtain ⟨after, hlater, hlooped⟩ := ih hphase hrest
        exact ⟨after, hleads.trans hlater, hlooped.sink_eq, hlooped.phase_eq,
          hlooped.inbox_eq.trans hqueue, hlooped.missed_eq, hlooped.stopping_eq, hlooped.starts_eq⟩

/-- The collector looks at the open batches while nothing is queued. -/
theorem leads_idle {life : Lifetime π ρ} {c : Collector} (looping : life.shift.phase = .looping c)
    (now : Nat) (queued : life.shift.inbox.queue.toList = []) :
    ∃ after, Leads settings flush life after ∧
      Looped (c.loop flush [⟨none, now⟩] life.shift.sink) now life after := by
  let received := c.receive flush none now life.shift.sink
  let next : Lifetime π ρ := { life with
    shift := life.shift.absorb received (.afterRound received now) life.shift.inbox [] }
  have hstep : life.step settings flush (.collector (.idle now)) = some next := by
    simp only [Lifetime.step, Lifetime.allows, if_true, Shift.step, looping]
    rfl
  refine ⟨next, Lifetime.leads_step rfl hstep, ?_⟩
  rw [Collector.loop]
  cases hresult : received.result with
  | error message =>
    have hphase : next.shift.phase = .draining received.after now :=
      Phase.afterRound_of_error hresult now
    exact ⟨rfl, hphase, rfl, queued, rfl, rfl⟩
  | ok full =>
    have hphase : next.shift.phase = .looping received.after :=
      Phase.afterRound_of_ok hresult now
    exact ⟨rfl, hphase, rfl, queued, rfl, rfl⟩

theorem missed_of_ok {σ : Type} {sink : Sink σ} {c : Collector} {rounds : List Collector.Round}
    {t : σ} (ok : (c.loop sink rounds t).panicked.isSome = false) :
    (c.loop sink rounds t).missed = [] := by
  induction rounds generalizing c t with
  | nil => rfl
  | cons round rest ih =>
    rw [Collector.loop] at ok ⊢
    split at ok
    · exact Bool.noConfusion ok
    · exact ih ok

/-- Rounds that a collector performs, with the shutdown that follows if one of them panics. -/
theorem Looped.perform {p : Pipeline π ρ} {life after : Lifetime π ρ} {c : Collector}
    {rounds : List Collector.Round} (settings_eq : p.settings = settings)
    (started : p.started = true) (free : life.stopping = false) (starts : life.starts = 1)
    (inbox : { life.shift.inbox with queue := .empty } = p.inbox)
    (looped : Looped (c.loop (Sending.sink d) rounds p.sending) p.clock life after) :
    ∃ later, Leads settings (Sending.sink d) after later ∧
      Seen settings (p.perform d c rounds) later := by
  have hinbox : { after.shift.inbox with queue := .empty } = p.inbox :=
    looped.inbox_eq.trans inbox
  have hphase := looped.phase_eq
  have hstarts : after.starts = p.started.toNat := by
    rw [looped.starts_eq, starts, started]
    rfl
  unfold Pipeline.perform
  simp only
  cases hpanic : (c.loop (Sending.sink d) rounds p.sending).panicked.isSome with
  | true =>
    rw [hpanic] at hphase
    let q : Pipeline π ρ := { p with
      collector := some (c.loop (Sending.sink d) rounds p.sending).after
      sending := (c.loop (Sending.sink d) rounds p.sending).sink }
    have hclose : after.shift.inbox.close = q.inbox.close := by
      show Inbox.close { after.shift.inbox with queue := .empty } = p.inbox.close
      rw [hinbox]
    obtain ⟨later, hlater, hinbox', hsink', hgone, hstopping, hstarts'⟩ :=
      leads_conclude (p := q) Collector.loopPanic looped.sink_eq hclose looped.missed_eq hphase
    rw [if_pos rfl]
    refine ⟨later, hlater, settings_eq, nofun, hinbox', hsink', ?_,
      hstopping.trans (looped.stopping_eq.trans free), hstarts'.trans hstarts⟩
    rw [hgone]
    simp [phase, conclude, started]
  | false =>
    rw [hpanic] at hphase
    have hqueue : after.shift.inbox.queue.toList = [] := by
      rw [looped.missed_eq, missed_of_ok hpanic]
      rfl
    rw [if_neg Bool.false_ne_true]
    refine ⟨after, .refl after, settings_eq, fun _ => started, ?_, looped.sink_eq, hphase,
      looped.stopping_eq.trans free, hstarts⟩
    rw [Inbox.eq_of_toList_eq_nil hqueue]
    exact hinbox

/-! ## What each operation does -/

section Operations

variable {p : Pipeline π ρ} {life : Lifetime π ρ}

/-- Adding lines to the log is something that is done to the pool. -/
theorem Seen.log (seen : Seen settings p life) (entries : List Log.Entry) :
    Seen settings (p.log entries) (life.work (·.log entries)) :=
  ⟨seen.settings_eq, seen.started, seen.inbox_eq, congrArg (·.log entries) seen.sink_eq,
    seen.phase_eq, seen.free, seen.starts_eq⟩

/-- Time passes by itself. -/
theorem Seen.atClock (seen : Seen settings p life) (now : Nat) :
    Seen settings { p with clock := now } life :=
  ⟨seen.settings_eq, seen.started, seen.inbox_eq, seen.sink_eq, seen.phase_eq, seen.free,
    seen.starts_eq⟩

theorem Seen.looping (seen : Seen settings p life) {c : Collector}
    (running : p.collector = some c) :
    life.shift.phase = .looping c ∧ p.started = true ∧ life.starts = 1 := by
  have hstarted : p.started = true := seen.started (by rw [running]; rfl)
  refine ⟨?_, hstarted, ?_⟩
  · rw [seen.phase_eq, phase, running]
  · rw [seen.starts_eq, hstarted]
    rfl

/-- A moment passes. -/
theorem Seen.settle (seen : Seen settings p life) (d : Downstream π ρ) :
    ∃ after, Leads settings (Sending.sink d) life after ∧ Seen settings (p.settle d) after := by
  rw [Pipeline.settle]
  split
  · exact ⟨life, .refl life, seen⟩
  · next c hcollector =>
    obtain ⟨hlooping, hstarted, hstarts⟩ := seen.looping hcollector
    have hqueued : life.shift.inbox.queue.toList = p.inbox.queue.toList := by rw [seen.inbox_eq]
    obtain ⟨mid, hmid, hlooped⟩ : ∃ mid, Leads settings (Sending.sink d) life mid ∧ Looped
        (c.loop (Sending.sink d) (p.inbox.queue.toList.map fun r => ⟨some r, p.clock⟩)
          life.shift.sink) p.clock life mid := leads_reads hlooping p.clock hqueued
    rw [seen.sink_eq] at hlooped
    let q : Pipeline π ρ :=
      { p with reading := true, inbox := { p.inbox with queue := .empty } }
    have hinbox : { life.shift.inbox with queue := .empty } = q.inbox := by rw [seen.inbox_eq]
    obtain ⟨after, hafter, hseen⟩ := Looped.perform (p := q) seen.settings_eq hstarted seen.free
      hstarts hinbox hlooped
    exact ⟨after, hmid.trans hafter, hseen⟩

/-- The collector wakes and looks at the open batches. -/
theorem Seen.wake (seen : Seen settings p life) (settled : p.Settled) (d : Downstream π ρ)
    {limit : Nat} {q : Pipeline π ρ} (woken : p.wake d limit = some q) :
    (∃ after, Leads settings (Sending.sink d) life after ∧ Seen settings q after) ∧
      q.Settled := by
  rw [Pipeline.wake] at woken
  split at woken
  · exact absurd woken (by simp)
  · next c hcollector =>
    obtain ⟨hreading, hempty⟩ := settled (by rw [hcollector]; rfl)
    obtain ⟨hlooping, hstarted, hstarts⟩ := seen.looping hcollector
    obtain ⟨-, hq⟩ := Option.ite_none_left_eq_some.1 woken
    obtain rfl := Option.some.inj hq
    let next := p.clock + c.waitFor p.clock + 1
    have hqueued : life.shift.inbox.queue.toList = [] := by
      rw [seen.inbox_eq, hempty]
      rfl
    obtain ⟨mid, hmid, hlooped⟩ : ∃ mid, Leads settings (Sending.sink d) life mid ∧
        Looped (c.loop (Sending.sink d) [⟨none, next⟩] life.shift.sink) next life mid :=
      leads_idle hlooping next hqueued
    rw [seen.sink_eq] at hlooped
    have hinbox : { life.shift.inbox with queue := .empty } = p.inbox := by
      rw [seen.inbox_eq, ← hempty]
    let q : Pipeline π ρ := { p with clock := next }
    have hsettled : (q.perform d c [⟨none, next⟩]).Settled :=
      Settled.perform (p := q) hreading hempty c _
    obtain ⟨after, hafter, hseen⟩ := Looped.perform (p := q) seen.settings_eq hstarted seen.free
      hstarts hinbox hlooped
    exact ⟨⟨after, hmid.trans hafter, hseen⟩, hsettled⟩

/-- Time passes until the pipeline is as it should be, or for long enough. -/
theorem Seen.awaitIn (seen : Seen settings p life) (settled : p.Settled) (d : Downstream π ρ)
    (reached : Pipeline π ρ → Bool) (limit steps : Nat) :
    ∃ after, Leads settings (Sending.sink d) life after ∧
      Seen settings (p.awaitIn d reached limit steps).2 after := by
  induction steps generalizing p life with
  | zero => exact ⟨life, .refl life, seen⟩
  | succ steps ih =>
    rw [Pipeline.awaitIn]
    split
    · exact ⟨life, .refl life, seen⟩
    · split
      · next q hwoken =>
        obtain ⟨⟨mid, hmid, hseen⟩, hsettled⟩ := seen.wake settled d hwoken
        obtain ⟨after, hafter, hseen'⟩ := ih hseen hsettled
        exact ⟨after, hmid.trans hafter, hseen'⟩
      · refine ⟨life, .refl life, ?_⟩
        exact seen.atClock (max p.clock limit)

theorem Seen.await (seen : Seen settings p life) (d : Downstream π ρ)
    (reached : Pipeline π ρ → Bool) (patience : Nat) :
    ∃ after, Leads settings (Sending.sink d) life after ∧
      Seen settings (p.await d reached patience).2 after := by
  rw [Pipeline.await]
  split
  · exact ⟨life, .refl life, seen⟩
  · obtain ⟨mid, hmid, hseen⟩ := seen.settle d
    obtain ⟨after, hafter, hseen'⟩ := hseen.awaitIn (settled_settle d p) d reached _ _
    exact ⟨after, hmid.trans hafter, hseen'⟩

/-- A record is submitted, and a collector that waits for it takes it. -/
theorem Seen.submit (seen : Seen settings p life) (d : Downstream π ρ) (r : Record) :
    ∃ mid after, life.step settings (Sending.sink d) (.submit r p.isAwaiting) = some mid ∧
      Leads settings (Sending.sink d) mid after ∧ Seen settings (p.submit d r) after := by
  let q : Pipeline π ρ := { p with inbox := (p.inbox.submit p.isAwaiting r).1 }
  let mid : Lifetime π ρ := { life with shift := life.shift.submit r p.isAwaiting }
  have hstep : life.step settings (Sending.sink d) (.submit r p.isAwaiting) = some mid := by
    rw [Lifetime.step, if_neg (by simp [seen.free])]
  have hinbox : mid.shift.inbox = q.inbox := by
    show (life.shift.inbox.submit p.isAwaiting r).1 = _
    rw [seen.inbox_eq]
  have hseen : Seen settings q mid :=
    ⟨seen.settings_eq, seen.started, hinbox, seen.sink_eq, seen.phase_eq, seen.free,
      seen.starts_eq⟩
  have hlogged := hseen.log (p.inbox.submit p.isAwaiting r).2
  have hleads : Leads settings (Sending.sink d) mid
      (mid.work (·.log (p.inbox.submit p.isAwaiting r).2)) := Lifetime.leads_work mid _
  unfold Pipeline.submit
  simp only
  split
  · obtain ⟨after, hafter, hseen'⟩ := hlogged.settle d
    exact ⟨mid, after, hstep, hleads.trans hafter, hseen'⟩
  · exact ⟨mid, _, hstep, hleads, hlogged⟩

/-- The first start succeeds. -/
theorem Seen.start (seen : Seen settings p life) (d : Downstream π ρ) {q : Pipeline π ρ}
    (begun : p.start = .ok q) :
    ∃ after, Leads settings (Sending.sink d) life after ∧ Seen settings q after := by
  rw [Pipeline.start] at begun
  split at begun
  · exact absurd begun (by simp)
  · next hstarted =>
    have hnone : p.collector = none := by
      rw [← Option.not_isSome_iff_eq_none]
      exact fun h => hstarted (seen.started h)
    have hnew : p.started = false := by simpa using hstarted
    have hwaiting : life.shift.phase = .waiting := by
      rw [seen.phase_eq, phase, hnone, hnew]
      rfl
    obtain rfl := Except.ok.inj begun
    let next : Lifetime π ρ := { life with
      shift := { life.shift with phase := .looping (.start settings p.clock), missed := [] }
      starts := life.starts + 1 }
    have hstep : life.step settings (Sending.sink d) (.start p.clock) = some next := by
      simp [Lifetime.step, Shift.step, seen.free, hwaiting, next]
    have hstarts : next.starts = true.toNat := by
      show life.starts + 1 = _
      rw [seen.starts_eq, hnew]
      rfl
    have hphase : next.shift.phase = .looping (.start p.settings p.clock) := by
      rw [seen.settings_eq]
    let running : Pipeline π ρ := { p with
      started := true
      running := true
      collector := some (.start p.settings p.clock) }
    have hseen : Seen settings running next :=
      ⟨seen.settings_eq, fun _ => rfl, seen.inbox_eq, seen.sink_eq, hphase, seen.free, hstarts⟩
    exact ⟨_, (Lifetime.leads_step rfl hstep).trans (Lifetime.leads_work next _), hseen.log _⟩

/-- The collector is interrupted and ends. -/
theorem Seen.interrupt (seen : Seen settings p life) (d : Downstream π ρ) {c : Collector}
    (running : p.collector = some c) :
    ∃ after, Leads settings (Sending.sink d) { life with stopping := true } after ∧
      after.stopping = true ∧ Seen settings
        (p.conclude d c (Collector.stopLine .interrupted) p.inbox.queue.toList)
        { after with stopping := false } := by
  obtain ⟨hlooping, hstarted, hstarts⟩ := seen.looping running
  let told : Lifetime π ρ :=
    { life with stopping := true, shift := { life.shift with phase := .draining c p.clock } }
  have hstep : Lifetime.step settings (Sending.sink d) { life with stopping := true }
      (.collector (.stop p.clock)) = some told := by
    simp [Lifetime.step, Lifetime.allows, Shift.step, hlooping, told]
  have hclose : told.shift.inbox.close = p.inbox.close := congrArg Inbox.close seen.inbox_eq
  have hqueue : told.shift.inbox.queue.toList = p.inbox.queue.toList :=
    congrArg (·.queue.toList) seen.inbox_eq
  have hsink : told.shift.sink = p.sending := seen.sink_eq
  have hdraining : told.shift.phase = .draining c p.clock := rfl
  obtain ⟨after, hafter, hinbox, hsink', hgone, hstopping, hstarts'⟩ :=
    leads_conclude (d := d) (p := p) (Collector.stopLine .interrupted) hsink hclose hqueue
      hdraining
  refine ⟨after, (Lifetime.leads_step rfl hstep).trans hafter, hstopping, seen.settings_eq,
    fun h => Bool.noConfusion h, hinbox, hsink', ?_, rfl, ?_⟩
  · show after.shift.phase = _
    rw [hgone]
    simp [phase, conclude, hstarted]
  · show after.starts = _
    rw [hstarts', hstarts]
    simp [conclude, hstarted]

/-- A stop ends when there is no collector. -/
theorem Seen.stopped {q : Pipeline π ρ} (seen : Seen settings q { life with stopping := false })
    (stopping : life.stopping = true) (ended : q.collector = none) (d : Downstream π ρ) :
    ∃ after, life.step settings (Sending.sink d) .stopped = some after ∧
      Seen settings { q with running := false, sending := q.sending.shutdown d }
        (after.work (Sending.settle d)) := by
  have hphase : life.shift.phase = q.phase := seen.phase_eq
  have hidle : life.shift.phase.idle = true := by
    rw [hphase, phase, ended]
    cases q.started <;> rfl
  refine ⟨{ life.work Sending.close with stopping := false }, ?_, seen.settings_eq, seen.started,
    seen.inbox_eq, ?_, hphase, rfl, seen.starts_eq⟩
  · rw [Lifetime.step, stopping, hidle]
    rfl
  · show Sending.settle d life.shift.sink.close = _
    have hsink : life.shift.sink = q.sending := seen.sink_eq
    rw [hsink]
    rfl

/-- A stop interrupts the collector, waits for its end and closes the pool. -/
theorem Seen.stop (seen : Seen settings p life) (d : Downstream π ρ) :
    ∃ before after, Leads settings (Sending.sink d) life before ∧
      before.step settings (Sending.sink d) .stopped = some after ∧
      Seen settings (p.stop d) (after.work (Sending.settle d)) := by
  let told : Lifetime π ρ := { life with stopping := true }
  have hstep : life.step settings (Sending.sink d) .stop = some told := by
    rw [Lifetime.step, if_neg (by simp [seen.free])]
  have htold : Leads settings (Sending.sink d) life told := Lifetime.leads_step rfl hstep
  cases hcollector : p.collector with
  | none =>
    have hseen : Seen settings p { told with stopping := false } :=
      ⟨seen.settings_eq, seen.started, seen.inbox_eq, seen.sink_eq, seen.phase_eq, rfl,
        seen.starts_eq⟩
    obtain ⟨after, hafter, hstopped⟩ := hseen.stopped rfl hcollector d
    have hstop : p.stop d = { p with running := false, sending := p.sending.shutdown d } := by
      simp only [Pipeline.stop, hcollector]
    rw [← hstop] at hstopped
    exact ⟨told, after, htold, hafter, hstopped⟩
  | some c =>
    obtain ⟨before, hbefore, hstopping, hseen⟩ := seen.interrupt d hcollector
    obtain ⟨after, hafter, hstopped⟩ := hseen.stopped hstopping rfl d
    have hstop : p.stop d = { p.conclude d c (Collector.stopLine .interrupted)
        p.inbox.queue.toList with
      running := false
      sending := (p.conclude d c (Collector.stopLine .interrupted)
        p.inbox.queue.toList).sending.shutdown d } := by
      rw [Pipeline.stop, hcollector]
    rw [← hstop] at hstopped
    exact ⟨before, after, htold.trans hbefore, hafter, hstopped⟩

end Operations

/-! ## Any operations -/

/-- What may be done with a pipeline. -/
inductive Call (π ρ : Type) where
  /-- To submit a record. -/
  | submit (r : Record)
  /-- To start it. -/
  | start
  /-- To stop it. -/
  | stop
  /-- To open the gate of the publisher. -/
  | openGate
  /-- To wait until it is as it should be, or for long enough. -/
  | await (reached : Pipeline π ρ → Bool) (patience : Nat)

/-- Whether a record is submitted. -/
def Call.isSubmit : Call π ρ → Bool
  | .submit _ => true
  | .start | .stop | .openGate | .await _ _ => false

/-- Does something with a pipeline. A start that fails changes nothing. -/
def call (d : Downstream π ρ) (p : Pipeline π ρ) : Call π ρ → Pipeline π ρ
  | .submit r => p.submit d r
  | .start =>
    match p.start with
    | .ok q => q
    | .error _ => p
  | .stop => p.stop d
  | .openGate => p.openGate d
  | .await reached patience => (p.await d reached patience).2

/-- Does one thing after another with a pipeline. -/
def callAll (d : Downstream π ρ) (calls : List (Call π ρ)) (p : Pipeline π ρ) : Pipeline π ρ :=
  calls.foldl (call d) p

theorem Seen.call {p : Pipeline π ρ} {life : Lifetime π ρ} (seen : Seen settings p life)
    (d : Downstream π ρ) (c : Call π ρ) :
    ∃ events after, life.run settings (Sending.sink d) events = some after ∧
      events.countP Lifetime.Event.isSubmit = c.isSubmit.toNat ∧
      Seen settings (p.call d c) after := by
  -- all but a submit are steps that are not submits
  have hquiet : ∀ {after : Lifetime π ρ} {q : Pipeline π ρ},
      Leads settings (Sending.sink d) life after → Seen settings q after →
      ∃ events after, life.run settings (Sending.sink d) events = some after ∧
        events.countP Lifetime.Event.isSubmit = 0 ∧ Seen settings q after := by
    intro after q hleads hseen
    obtain ⟨events, hrun, hnone⟩ := hleads.run
    exact ⟨events, after, hrun, hnone, hseen⟩
  cases c with
  | submit r =>
    obtain ⟨mid, after, hstep, hleads, hseen⟩ := seen.submit d r
    obtain ⟨events, hrun, hnone⟩ := hleads.run
    refine ⟨.submit r p.isAwaiting :: events, after, ?_, ?_, hseen⟩
    · rw [Lifetime.run, hstep]
      exact hrun
    · rw [Lifetime.countP_isSubmit_cons, hnone]
      rfl
  | start =>
    cases hstart : p.start with
    | ok q =>
      obtain ⟨after, hleads, hseen⟩ := seen.start d hstart
      have hcall : p.call d .start = q := by rw [Pipeline.call, hstart]
      rw [hcall]
      exact hquiet hleads hseen
    | error refused =>
      have hcall : p.call d .start = p := by rw [Pipeline.call, hstart]
      rw [hcall]
      exact hquiet (.refl life) seen
  | stop =>
    obtain ⟨before, after, hleads, hstep, hseen⟩ := seen.stop d
    exact hquiet ((hleads.trans (Lifetime.leads_step rfl hstep)).trans (Lifetime.leads_work ..))
      hseen
  | openGate =>
    have hseen : Seen settings (p.openGate d) (life.work (Sending.openGate d)) :=
      ⟨seen.settings_eq, seen.started, seen.inbox_eq, congrArg (Sending.openGate d) seen.sink_eq,
        seen.phase_eq, seen.free, seen.starts_eq⟩
    exact hquiet (Lifetime.leads_work life _) hseen
  | await reached patience =>
    obtain ⟨after, hleads, hseen⟩ := seen.await d reached patience
    exact hquiet hleads hseen

/-- Whatever is done with a pipeline is a run of a lifetime. -/
theorem Seen.callAll {p : Pipeline π ρ} {life : Lifetime π ρ} (seen : Seen settings p life)
    (d : Downstream π ρ) (calls : List (Call π ρ)) :
    ∃ events after, life.run settings (Sending.sink d) events = some after ∧
      events.countP Lifetime.Event.isSubmit = calls.countP Call.isSubmit ∧
      Seen settings (p.callAll d calls) after := by
  induction calls generalizing p life with
  | nil => exact ⟨[], life, rfl, rfl, seen⟩
  | cons c rest ih =>
    obtain ⟨events, mid, hrun, hcount, hseen⟩ := seen.call d c
    obtain ⟨events', after, hrun', hcount', hseen'⟩ := ih hseen
    refine ⟨events ++ events', after, ?_, ?_, hseen'⟩
    · rw [Lifetime.run_append, hrun]
      exact hrun'
    · rw [List.countP_append, hcount, hcount', List.countP_cons, Nat.add_comm]
      cases c.isSubmit <;> rfl

theorem seen_make {published : π} {refused : ρ} {gated : Bool} {p : Pipeline π ρ}
    (made : make settings published refused gated = .ok p) :
    Seen settings p (.begin settings p.sending) := by
  rw [make] at made
  split at made
  · exact absurd made (by simp)
  · cases hpool : Pool.make settings with
    | error excess =>
      rw [hpool] at made
      exact absurd made nofun
    | ok pool =>
      rw [hpool] at made
      obtain rfl := Except.ok.inj made
      exact ⟨rfl, nofun, rfl, rfl, rfl, rfl, rfl⟩

theorem started_stop (d : Downstream π ρ) (p : Pipeline π ρ) :
    (p.stop d).started = p.started := by
  unfold Pipeline.stop
  simp only
  cases p.collector with
  | none => rfl
  | some c => rfl

/-- After a stop that a start came before, every submit is dropped, whatever else is done. -/
theorem stop_final {published : π} {refused : ρ} {gated : Bool} {p : Pipeline π ρ}
    (made : make settings published refused gated = .ok p) (d : Downstream π ρ)
    (earlier later : List (Call π ρ)) (started : (p.callAll d earlier).started = true) :
    let stopped := (p.callAll d earlier).stop d
    let ended := stopped.callAll d later
    ended.counters.accepted = stopped.counters.accepted ∧
      ended.counters.dropped = stopped.counters.dropped + later.countP Call.isSubmit := by
  intro stopped ended
  obtain ⟨events, life, hrun, -, seen⟩ := (seen_make made).callAll d earlier
  obtain ⟨before, after, ⟨closing, -, hclosing⟩, hstep, hstopped⟩ := seen.stop d
  obtain ⟨events', life', hrun', hcount, hended⟩ := hstopped.callAll d later
  have reached : (Lifetime.begin settings p.sending).run settings (Sending.sink d)
      ((events ++ closing) ++ [.stopped]) = some after := by
    rw [Lifetime.run_append, Lifetime.run_append, hrun, Option.bind_some, hclosing,
      Option.bind_some, Lifetime.run, hstep]
    rfl
  have continued : after.run settings (Sending.sink d) (.pool (Sending.settle d) :: events') =
      some life' := hrun'
  have hstarts : after.starts = 1 := by
    have h : after.starts = stopped.started.toNat := hstopped.starts_eq
    rw [h, started_stop, started]
    rfl
  obtain ⟨-, hshift, -⟩ := (Lifetime.over_of_started reached hstarts).run continued
  rw [Lifetime.countP_isSubmit_cons, hcount] at hshift
  have hinbox : after.shift.inbox = stopped.inbox := hstopped.inbox_eq
  have hinbox' : life'.shift.inbox = ended.inbox := hended.inbox_eq
  have haccepted : life'.shift.inbox.accepted = after.shift.inbox.accepted :=
    congrArg (fun x => x.inbox.accepted) hshift
  have hdropped : life'.shift.inbox.dropped =
      after.shift.inbox.dropped + (0 + later.countP Call.isSubmit) :=
    congrArg (fun x => x.inbox.dropped) hshift
  rw [hinbox, hinbox', Nat.zero_add] at hdropped
  rw [hinbox, hinbox'] at haccepted
  exact ⟨haccepted, hdropped⟩

end Pipeline

end EventBatching
