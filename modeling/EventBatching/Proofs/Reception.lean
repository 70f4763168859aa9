import EventBatching.Proofs.Collector.Draining

/-!
# Many producers at one inbox

A producer that submits a record does two things: it brings the record to the queue, which takes it
or does not, and then it counts the reply. Between the two, other producers come, the collector
takes records out, or goes away for good. What the queue does is decided in one moment, so the queue
loses nothing, keeps the order of the records, and replies as it should, however the moments of
different threads follow each other. The numbers lag behind by the replies that are not counted yet,
and by nothing else. This is herald's `submit` cut in two, with the producers that call it.

* `Inbox.reply`, `Inbox.offer` and `Inbox.count` are the two halves of `Inbox.submit`, as
  `Inbox.submit_eq` says.
* `Reception` is an inbox with its producers and with an account of the records;
  `Reception.step_cases` lists what a step can do, and `Reception.run_submit` says that a producer
  whom nobody interrupts does what `Inbox.submit` does.
* `Reception.Sound` is what every step keeps.
* `Reception.run_lossless` says that the inbox is a bounded queue without loss, whose numbers
  are exact.
-/

namespace EventBatching

/-! ## The two halves of a submission -/

namespace Inbox

/-- What the queue says to a producer that brings a record. -/
inductive Reply where
  /-- The record was put into the queue. -/
  | queued
  /-- The queue is full. -/
  | full
  /-- Nobody will read the queue any more. -/
  | closed
  deriving Repr, DecidableEq

/-- What the queue says to one more record. -/
def reply (q : Inbox) (awaited : Bool) : Reply :=
  if q.receiving then if q.hasRoom awaited then .queued else .full else .closed

/-- A record is brought to the queue, which has its reply. -/
def offer (q : Inbox) (r : Record) : Reply → Inbox
  | .queued => { q with queue := q.queue.push r }
  | .full | .closed => q

/-- A producer counts the reply that it got. -/
def count (q : Inbox) : Reply → Inbox
  | .queued => { q with accepted := q.accepted + 1 }
  | .full | .closed => { q with dropped := q.dropped + 1 }

theorem reply_eq_queued_iff {q : Inbox} {awaited : Bool} :
    q.reply awaited = .queued ↔ (q.receiving && q.hasRoom awaited) = true := by
  unfold reply
  cases q.receiving with
  | false => simp
  | true => cases q.hasRoom awaited <;> simp

/-- To submit a record is to bring it to the queue and then to count the reply. -/
theorem submit_eq (q : Inbox) (awaited : Bool) (r : Record) :
    (q.submit awaited r).1 = (q.offer r (q.reply awaited)).count (q.reply awaited) := by
  cases hroom : q.receiving && q.hasRoom awaited with
  | true =>
    rw [submit_of_room hroom, reply_eq_queued_iff.2 hroom]
    rfl
  | false =>
    have hrefused : q.reply awaited ≠ .queued := by
      rw [ne_eq, reply_eq_queued_iff, hroom]
      exact Bool.false_ne_true
    rw [submit_of_no_room hroom]
    cases hreply : q.reply awaited with
    | queued => exact absurd hreply hrefused
    | full => rfl
    | closed => rfl

/-- Where records may wait, one more may wait exactly if there are fewer than may wait. -/
theorem hasRoom_iff {q : Inbox} (positive : 1 ≤ q.capacity) (awaited : Bool) :
    q.hasRoom awaited = true ↔ q.queue.size < q.capacity := by
  rw [hasRoom, if_neg (Nat.ne_of_gt positive), decide_eq_true_iff]

/-- A record that is not taken changes nothing. -/
theorem offer_of_ne_queued {q : Inbox} {reply : Reply} (h : reply ≠ .queued) (r : Record) :
    q.offer r reply = q := by
  cases reply with
  | queued => exact absurd rfl h
  | full => rfl
  | closed => rfl

@[simp] theorem offer_receiving (q : Inbox) (r : Record) (reply : Reply) :
    (q.offer r reply).receiving = q.receiving := by
  cases reply <;> rfl

@[simp] theorem offer_accepted (q : Inbox) (r : Record) (reply : Reply) :
    (q.offer r reply).accepted = q.accepted := by
  cases reply <;> rfl

@[simp] theorem offer_dropped (q : Inbox) (r : Record) (reply : Reply) :
    (q.offer r reply).dropped = q.dropped := by
  cases reply <;> rfl

@[simp] theorem count_capacity (q : Inbox) (reply : Reply) :
    (q.count reply).capacity = q.capacity := by
  cases reply <;> rfl

@[simp] theorem count_receiving (q : Inbox) (reply : Reply) :
    (q.count reply).receiving = q.receiving := by
  cases reply <;> rfl

@[simp] theorem count_queue (q : Inbox) (reply : Reply) : (q.count reply).queue = q.queue := by
  cases reply <;> rfl

end Inbox

/-! ## An inbox with its producers -/

/-- A record that a producer brought to the queue. -/
structure Call where
  /-- The producer. -/
  producer : Nat
  /-- The record. -/
  record : Record
  /-- What the queue said. -/
  reply : Inbox.Reply

/-- The record with its producer. -/
def Call.brought (c : Call) : Nat × Record := (c.producer, c.record)

/-- An inbox with its producers. -/
structure Reception where
  /-- The inbox. -/
  inbox : Inbox
  /-- The producers that have not counted their reply yet. -/
  counting : List (Nat × Inbox.Reply) := []
  /-- The records that were brought to the queue, in order. -/
  calls : List Call := []
  /-- The records that were taken out, in order. -/
  received : List Record := []

namespace Reception

/-- What producers and the collector do. -/
inductive Event where
  /-- A producer brings a record to the queue. -/
  | bring (producer : Nat) (r : Record)
  /-- A producer counts the reply that it got. -/
  | count (producer : Nat)
  /-- The collector takes the oldest record. -/
  | receive
  /-- The collector goes away. -/
  | close

/-- An inbox before anything has happened. -/
def begin (capacity : Nat) : Reception := { inbox := { capacity := capacity } }

/-- Performs a step, if it can be performed. A producer brings its next record when it has counted
the reply to the last one. -/
def step (x : Reception) : Event → Option Reception
  | .bring producer r =>
    if (x.counting.lookup producer).isSome then none
    else
      let reply := x.inbox.reply false
      some { x with
        inbox := x.inbox.offer r reply
        counting := (producer, reply) :: x.counting
        calls := x.calls ++ [⟨producer, r, reply⟩] }
  | .count producer =>
    (x.counting.lookup producer).map fun reply =>
      { x with
        inbox := x.inbox.count reply
        counting := x.counting.erase (producer, reply) }
  | .receive =>
    x.inbox.receive.map fun (r, rest) => { x with inbox := rest, received := x.received ++ [r] }
  | .close => if x.inbox.receiving then some { x with inbox := x.inbox.close } else none

/-- Performs steps one after another. -/
def run : List Event → Reception → Option Reception
  | [], x => some x
  | event :: rest, x => (x.step event).bind (run rest)

/-! ## What a step can do -/

/-- What a step can do. -/
inductive Step (x : Reception) : Event → Reception → Prop
  | bring (producer : Nat) (r : Record) (free : x.counting.lookup producer = none) :
      Step x (.bring producer r)
        { x with
          inbox := x.inbox.offer r (x.inbox.reply false)
          counting := (producer, x.inbox.reply false) :: x.counting
          calls := x.calls ++ [⟨producer, r, x.inbox.reply false⟩] }
  | count (producer : Nat) {reply : Inbox.Reply}
      (replied : x.counting.lookup producer = some reply) :
      Step x (.count producer)
        { x with
          inbox := x.inbox.count reply
          counting := x.counting.erase (producer, reply) }
  | receive {r : Record} {rest : Inbox} (received : x.inbox.receive = some (r, rest)) :
      Step x .receive { x with inbox := rest, received := x.received ++ [r] }
  | close (receiving : x.inbox.receiving = true) :
      Step x .close { x with inbox := x.inbox.close }

theorem step_cases {x after : Reception} {event : Event} (h : x.step event = some after) :
    Step x event after := by
  cases event with
  | bring producer r =>
    rw [step] at h
    split at h
    · exact absurd h (by simp)
    · next hfree =>
      obtain rfl := Option.some.inj h
      exact .bring producer r (Option.not_isSome_iff_eq_none.1 hfree)
  | count producer =>
    obtain ⟨reply, hreplied, rfl⟩ := Option.map_eq_some_iff.1 h
    exact .count producer hreplied
  | receive =>
    obtain ⟨⟨r, rest⟩, hreceived, rfl⟩ := Option.map_eq_some_iff.1 h
    exact .receive hreceived
  | close =>
    rw [step] at h
    split at h
    · next hreceiving =>
      obtain rfl := Option.some.inj h
      exact .close hreceiving
    · exact absurd h (by simp)

/-- A producer whom nobody interrupts does what a submission does. -/
theorem run_submit {x : Reception} {producer : Nat} (free : x.counting.lookup producer = none)
    (r : Record) :
    run [.bring producer r, .count producer] x =
      some { x with
        inbox := (x.inbox.submit false r).1
        calls := x.calls ++ [⟨producer, r, x.inbox.reply false⟩] } := by
  simp [run, step, free, Inbox.submit_eq]

/-! ## The account of the records -/

/-- The record that a step brings to the queue, with its producer. -/
def Event.brought? : Event → Option (Nat × Record)
  | .bring producer r => some (producer, r)
  | .count _ | .receive | .close => none

/-- The records that were brought to the queue in a run, with their producers, in order. -/
def brought (events : List Event) : List (Nat × Record) := events.filterMap Event.brought?

/-- The records that the queue took, with their producers, in order. -/
def taken (x : Reception) : List (Nat × Record) :=
  (x.calls.filter (·.reply = .queued)).map Call.brought

/-- The records of a producer, in order. -/
def recordsOf (producer : Nat) (rs : List (Nat × Record)) : List Record :=
  (rs.filter (·.1 = producer)).map (·.2)

/-- How many producers have not counted yet that their record was taken. -/
def uncountedTaken (x : Reception) : Nat := x.counting.countP (·.2 = .queued)

/-- How many producers have not counted yet that their record was not taken. -/
def uncountedRefused (x : Reception) : Nat := x.counting.countP (·.2 ≠ .queued)

/-- A reply that is not counted yet says that the record was taken, or that it was not. -/
theorem length_counting (x : Reception) :
    x.counting.length = x.uncountedTaken + x.uncountedRefused := by
  rw [uncountedTaken, uncountedRefused,
    List.length_eq_countP_add_countP (p := fun c : Nat × Inbox.Reply => c.2 = .queued)]
  simp

theorem brought_append (events events' : List Event) :
    brought (events ++ events') = brought events ++ brought events' := List.filterMap_append ..

/-- What every step keeps. -/
structure Sound (capacity : Nat) (events : List Event) (x : Reception) : Prop where
  /-- As many records may wait as at first. -/
  capacity_eq : x.inbox.capacity = capacity
  /-- What was brought to the queue is what the producers brought. -/
  calls_eq : x.calls.map Call.brought = brought events
  /-- No more records wait than may wait. -/
  within : x.inbox.queue.size ≤ capacity
  /-- Taken records are counted, but for the replies that are not counted yet. -/
  accepted_eq : x.inbox.accepted + x.uncountedTaken = x.taken.length
  /-- Every reply is counted, but for those that are not counted yet. -/
  total_eq : x.inbox.accepted + x.inbox.dropped + x.counting.length = x.calls.length
  /-- While somebody reads the queue, a taken record was taken out or waits. -/
  taken_eq : x.inbox.receiving = true → x.taken.map (·.2) = x.received ++ x.inbox.queue.toList
  /-- Records are taken out in the order in which they were taken. -/
  received_prefix : x.received <+: x.taken.map (·.2)
  /-- In a queue that nobody reads nothing waits. -/
  emptied : x.inbox.receiving = false → x.inbox.queue.toList = []

theorem sound_begin (capacity : Nat) : Sound capacity [] (begin capacity) where
  capacity_eq := rfl
  calls_eq := rfl
  within := Nat.zero_le _
  accepted_eq := rfl
  total_eq := rfl
  taken_eq _ := rfl
  received_prefix := List.nil_prefix
  emptied _ := rfl

theorem taken_concat_queued (x : Reception) (inbox : Inbox) (counting : List (Nat × Inbox.Reply))
    (producer : Nat) (r : Record) :
    taken { x with
      inbox := inbox
      counting := counting
      calls := x.calls ++ [⟨producer, r, .queued⟩] } = x.taken ++ [(producer, r)] := by
  simp [taken, Call.brought]

theorem taken_concat_refused (x : Reception) (inbox : Inbox) (counting : List (Nat × Inbox.Reply))
    (producer : Nat) (r : Record) {reply : Inbox.Reply} (refused : reply ≠ .queued) :
    taken { x with
      inbox := inbox
      counting := counting
      calls := x.calls ++ [⟨producer, r, reply⟩] } = x.taken := by
  simp [taken, refused]

variable {capacity : Nat} {events : List Event} {x : Reception}

/-- A record that is brought to the queue is put behind all others, or nothing happens to the queue.
-/
theorem Sound.bring (sound : Sound capacity events x) (positive : 1 ≤ capacity) (producer : Nat)
    (r : Record) :
    Sound capacity (events ++ [.bring producer r])
      { x with
        inbox := x.inbox.offer r (x.inbox.reply false)
        counting := (producer, x.inbox.reply false) :: x.counting
        calls := x.calls ++ [⟨producer, r, x.inbox.reply false⟩] } := by
  have hcalls : (x.calls ++ [(⟨producer, r, x.inbox.reply false⟩ : Call)]).map Call.brought =
      brought (events ++ [.bring producer r]) := by
    rw [List.map_append, sound.calls_eq, brought_append]
    rfl
  by_cases hreply : x.inbox.reply false = .queued
  · obtain ⟨hreceiving, hroom⟩ := Bool.and_eq_true_iff.1 (Inbox.reply_eq_queued_iff.1 hreply)
    rw [Inbox.hasRoom_iff (by rw [sound.capacity_eq]; exact positive), sound.capacity_eq] at hroom
    rw [hreply] at hcalls ⊢
    refine ⟨sound.capacity_eq, hcalls, hroom, ?_, ?_, ?_, ?_, ?_⟩
    · rw [taken_concat_queued, List.length_append, ← sound.accepted_eq]
      simp [uncountedTaken, Inbox.offer, Nat.add_assoc]
    · have htotal := sound.total_eq
      simp only [Inbox.offer_accepted, Inbox.offer_dropped, List.length_cons, List.length_append,
        List.length_nil]
      omega
    · intro _
      rw [taken_concat_queued, List.map_append, sound.taken_eq hreceiving, List.append_assoc]
      simp [Inbox.offer]
    · rw [taken_concat_queued, List.map_append]
      exact sound.received_prefix.trans (List.prefix_append ..)
    · intro hclosed
      rw [Inbox.offer_receiving, hreceiving] at hclosed
      exact absurd hclosed (by simp)
  · rw [Inbox.offer_of_ne_queued hreply]
    refine ⟨sound.capacity_eq, hcalls, sound.within, ?_, ?_, ?_, ?_, sound.emptied⟩
    · rw [taken_concat_refused _ _ _ _ _ hreply, ← sound.accepted_eq]
      simp [uncountedTaken, hreply]
    · have htotal := sound.total_eq
      simp only [List.length_cons, List.length_append, List.length_nil]
      omega
    · rw [taken_concat_refused _ _ _ _ _ hreply]
      exact sound.taken_eq
    · rw [taken_concat_refused _ _ _ _ _ hreply]
      exact sound.received_prefix

/-- A producer that counts its reply changes only numbers. -/
theorem Sound.count (sound : Sound capacity events x) {producer : Nat} {reply : Inbox.Reply}
    (replied : x.counting.lookup producer = some reply) :
    Sound capacity (events ++ [.count producer])
      { x with
        inbox := x.inbox.count reply
        counting := x.counting.erase (producer, reply) } := by
  have hmem : (producer, reply) ∈ x.counting := by
    obtain ⟨before, after, hsplit, -⟩ := List.lookup_eq_some_iff.1 replied
    rw [hsplit]
    exact List.mem_append_right _ (List.mem_cons_self ..)
  have hperm := List.perm_cons_erase hmem
  refine ⟨?_, ?_, ?_, ?_, ?_, ?_, sound.received_prefix, ?_⟩
  · rw [Inbox.count_capacity]
    exact sound.capacity_eq
  · rw [brought_append, ← sound.calls_eq]
    exact (List.append_nil _).symm
  · rw [Inbox.count_queue]
    exact sound.within
  · have haccepted := sound.accepted_eq
    unfold uncountedTaken at haccepted ⊢
    rw [hperm.countP_eq, List.countP_cons] at haccepted
    show _ = x.taken.length
    rw [← haccepted]
    cases reply with
    | queued => simp [Inbox.count]; omega
    | full => simp [Inbox.count]
    | closed => simp [Inbox.count]
  · have htotal := sound.total_eq
    rw [hperm.length_eq, List.length_cons] at htotal
    show _ = x.calls.length
    rw [← htotal]
    cases reply with
    | queued => simp only [Inbox.count]; omega
    | full => simp only [Inbox.count]; omega
    | closed => simp only [Inbox.count]; omega
  · rw [Inbox.count_receiving, Inbox.count_queue]
    exact sound.taken_eq
  · rw [Inbox.count_receiving, Inbox.count_queue]
    exact sound.emptied

/-- A record that is taken out goes behind those that were taken out before. -/
theorem Sound.receive (sound : Sound capacity events x) {r : Record} {rest : Inbox}
    (received : x.inbox.receive = some (r, rest)) :
    Sound capacity (events ++ [.receive])
      { x with inbox := rest, received := x.received ++ [r] } := by
  obtain ⟨hqueue, hrest⟩ := Inbox.receive_eq_some received
  have hsize := Inbox.size_of_receive received
  have hwithin := sound.within
  have hreceiving : x.inbox.receiving = true := by
    cases hclosed : x.inbox.receiving with
    | true => rfl
    | false =>
      rw [sound.emptied hclosed] at hqueue
      exact absurd hqueue (by simp)
  have htaken : x.taken.map (·.2) = (x.received ++ [r]) ++ rest.queue.toList := by
    rw [sound.taken_eq hreceiving, hqueue, List.append_assoc, List.singleton_append]
  rw [hrest]
  refine ⟨sound.capacity_eq, ?_, ?_, sound.accepted_eq, sound.total_eq, ?_, ?_, ?_⟩
  · rw [brought_append, ← sound.calls_eq]
    exact (List.append_nil _).symm
  · simp only
    omega
  · intro _
    exact htaken
  · exact ⟨_, htaken.symm⟩
  · intro hclosed
    exact absurd (hclosed.symm.trans hreceiving) (by simp)

/-- When the collector goes away, what waits is lost. -/
theorem Sound.close (sound : Sound capacity events x) :
    Sound capacity (events ++ [.close]) { x with inbox := x.inbox.close } := by
  refine ⟨sound.capacity_eq, ?_, Nat.zero_le _, sound.accepted_eq, sound.total_eq, ?_,
    sound.received_prefix, ?_⟩
  · rw [brought_append, ← sound.calls_eq]
    exact (List.append_nil _).symm
  · intro hreceiving
    exact absurd hreceiving (by simp [Inbox.close])
  · intro _
    rfl

theorem Sound.step (sound : Sound capacity events x) (positive : 1 ≤ capacity) {event : Event}
    {after : Reception} (h : x.step event = some after) :
    Sound capacity (events ++ [event]) after := by
  cases step_cases h with
  | bring producer r _ => exact sound.bring positive producer r
  | count producer replied => exact sound.count replied
  | receive received => exact sound.receive received
  | close _ => exact sound.close

theorem Sound.run (sound : Sound capacity events x) (positive : 1 ≤ capacity) {later : List Event}
    {after : Reception} (h : x.run later = some after) :
    Sound capacity (events ++ later) after := by
  induction later generalizing events x with
  | nil =>
    obtain rfl := Option.some.inj h
    rwa [List.append_nil]
  | cons event rest ih =>
    obtain ⟨middle, hstep, hrest⟩ := Option.bind_eq_some_iff.1 h
    have hrun := ih (sound.step positive hstep) hrest
    rwa [List.append_assoc] at hrun

/-! ## Runs -/

/-- What the queue does with the next record. -/
structure Answers (capacity : Nat) (q : Inbox) : Prop where
  /-- A record is dropped exactly if as many records wait as may wait, or nobody reads the queue. -/
  refused_iff (awaited : Bool) :
    q.reply awaited ≠ .queued ↔ q.queue.size = capacity ∨ q.receiving = false
  /-- A record that is dropped leaves the queue as it was, and is counted once. -/
  dropped {awaited : Bool} (h : q.reply awaited ≠ .queued) (r : Record) :
    q.offer r (q.reply awaited) = q ∧
      (q.submit awaited r).1 = { q with dropped := q.dropped + 1 }
  /-- Any other record is put behind all that wait, and is counted once. -/
  queued {awaited : Bool} (h : q.reply awaited = .queued) (r : Record) :
    (q.offer r (q.reply awaited)).queue.toList = q.queue.toList ++ [r] ∧
      (q.submit awaited r).1 =
        { q with queue := (q.offer r (q.reply awaited)).queue, accepted := q.accepted + 1 }

theorem Sound.answers (sound : Sound capacity events x) (positive : 1 ≤ capacity) :
    Answers capacity x.inbox := by
  constructor
  · intro awaited
    have hroom :=
      Inbox.hasRoom_iff (q := x.inbox) (by rw [sound.capacity_eq]; exact positive) awaited
    have hwithin := sound.within
    rw [sound.capacity_eq] at hroom
    rw [ne_eq, Inbox.reply_eq_queued_iff, Bool.and_eq_true_iff, hroom]
    cases x.inbox.receiving with
    | false => simp
    | true =>
      simp only [true_and, Bool.true_eq_false, or_false]
      omega
  · intro awaited hrefused r
    refine ⟨Inbox.offer_of_ne_queued hrefused r, ?_⟩
    apply Inbox.submit_of_no_room
    rw [ne_eq, Inbox.reply_eq_queued_iff, Bool.not_eq_true] at hrefused
    exact hrefused
  · intro awaited hqueued r
    constructor
    · rw [hqueued]
      exact Arrivals.toList_push ..
    · rw [Inbox.submit_eq, hqueued]
      rfl

/-- An inbox with many producers is a bounded queue without loss, and its numbers are exact. -/
structure Lossless (capacity : Nat) (events : List Event) (x : Reception) : Prop where
  /-- Every record that was brought to the queue is counted once, as accepted or as dropped, as soon
  as its producer has counted the reply. -/
  total : x.inbox.accepted + x.inbox.dropped + x.counting.length = (brought events).length
  /-- The accepted ones are those that the queue took. -/
  accepted : x.inbox.accepted + x.uncountedTaken = x.taken.length
  /-- The dropped ones are all others. -/
  dropped : x.inbox.dropped + x.uncountedRefused + x.taken.length = (brought events).length
  /-- No more records wait than may wait. -/
  within : x.inbox.queue.size ≤ capacity
  /-- While somebody reads the queue, what was taken out and what waits are the records that the
  queue took, in the order in which they were brought. -/
  fifo : x.inbox.receiving = true → x.received ++ x.inbox.queue.toList = x.taken.map (·.2)
  /-- Afterwards nothing waits, and what was taken out are the first of them. -/
  closed : x.inbox.receiving = false → x.inbox.queue.toList = [] ∧ x.received <+: x.taken.map (·.2)
  /-- What the queue took of a producer comes in the order in which the producer brought it. -/
  inOrder (producer : Nat) :
    (recordsOf producer x.taken).Sublist (recordsOf producer (brought events))
  /-- The next record is dropped exactly if the queue is full or closed, and then changes
  nothing. -/
  answers : Answers capacity x.inbox

/-- **The inbox is a bounded queue without loss, and its numbers are exact.** Let producers bring
records and count the replies, let the collector take records out and at some time go away, in any
order. -/
theorem run_lossless (positive : 1 ≤ capacity) (h : (begin capacity).run events = some x) :
    Lossless capacity events x := by
  have sound : Sound capacity events x := (sound_begin capacity).run positive h
  have htotal : x.inbox.accepted + x.inbox.dropped + x.counting.length =
      (brought events).length := by
    rw [sound.total_eq, ← sound.calls_eq, List.length_map]
  constructor
  · exact htotal
  · exact sound.accepted_eq
  · have haccepted := sound.accepted_eq
    rw [length_counting] at htotal
    omega
  · exact sound.within
  · intro hreceiving
    exact (sound.taken_eq hreceiving).symm
  · intro hclosed
    exact ⟨sound.emptied hclosed, sound.received_prefix⟩
  · intro producer
    rw [← sound.calls_eq]
    exact ((List.filter_sublist.map Call.brought).filter _).map _
  · exact sound.answers positive

/-- Two producers at a queue for one record: the second one finds it full, and counts that before
the first one counts; later the first one finds it closed. -/
def twoProducers : List Event :=
  [.bring 0 ⟨"a", .null⟩, .bring 1 ⟨"b", .null⟩, .count 1, .receive, .count 0,
    .bring 1 ⟨"b", .bool true⟩, .close, .bring 0 ⟨"a", .bool true⟩, .count 1]

theorem run_lossless_twoProducers :
    1 ≤ 1 ∧ ∃ x, (begin 1).run twoProducers = some x ∧
      x.inbox.accepted + x.inbox.dropped + 1 = 4 ∧ x.inbox.accepted = 2 ∧
      x.inbox.queue.toList = [] ∧ x.received = [⟨"a", .null⟩] ∧
      x.taken.map (·.2) = [⟨"a", .null⟩, ⟨"b", .bool true⟩] ∧
      x.received <+: x.taken.map (·.2) := by
  obtain ⟨x, reached, hstate⟩ : ∃ x, (begin 1).run twoProducers = some x ∧
      (x.inbox.receiving, x.inbox.accepted, x.counting.length, x.received, x.taken.map (·.2)) =
        (false, 2, 1, [⟨"a", .null⟩], [⟨"a", .null⟩, ⟨"b", .bool true⟩]) := ⟨_, rfl, rfl⟩
  simp only [Prod.mk.injEq] at hstate
  obtain ⟨hclosed, haccepted, hcounting, hreceived, htaken⟩ := hstate
  have hcounted := run_lossless (Nat.le_refl 1) reached
  obtain ⟨hempty, hprefix⟩ := hcounted.closed hclosed
  have htotal := hcounted.total
  rw [hcounting] at htotal
  exact ⟨Nat.le_refl 1, x, reached, htotal, haccepted, hempty, hreceived, htaken, hprefix⟩

end Reception

end EventBatching
