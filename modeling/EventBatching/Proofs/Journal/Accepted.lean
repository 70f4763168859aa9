import EventBatching.Connection
import EventBatching.Proofs.Journal.Lines
import EventBatching.Proofs.Json.Accepted

/-!
# What was accepted comes back

The daemon accepts an event if its payload is read as JSON, and the line that the journal writes for
it is read by the same rules. But in the line there are two more brackets around the event, the
array of the events and the object, so an event that is accepted at the limit does not come back.
All others do, whatever they hold; only their floating point numbers may come back as others.

* `Journal.publish_accepted` says which events come back.
* `Journal.deepest_unread` is an event that does not.
-/

namespace EventBatching.Journal

variable {π ρ ω : Type}

/-! ## Accepted events -/

/-- The daemon accepted a payload that is read as the value. -/
def Accepted (d : Downstream π ρ) (v : Json) : Prop :=
  ∃ s p, (Daemon.submit d s p).1 = .accepted ∧ Json.parse s.payload = .ok v

/-- A payload is accepted exactly if it is read as a value. -/
theorem submit_accepted_iff {d : Downstream π ρ} {s : Submission} {p : Pipeline π ρ} :
    (Daemon.submit d s p).1 = .accepted ↔ ∃ v, Json.parse s.payload = .ok v := by
  rw [Daemon.submit]
  cases h : Json.parse s.payload with
  | ok v => exact ⟨fun _ => ⟨v, rfl⟩, fun _ => rfl⟩
  | error e => exact ⟨nofun, nofun⟩

theorem formed_of_accepted {d : Downstream π ρ} {v : Json} (accepted : Accepted d v) :
    v.Formed Binary64.InRange := by
  obtain ⟨s, p, -, hparse⟩ := accepted
  exact Json.formed_of_parse hparse

/-- What is written of a value is accepted if it is not too deep. -/
theorem accepted_of_print {d : Downstream π ρ} (p : Pipeline π ρ) {v : Json}
    (formed : v.Formed Binary64.InRange) (shallow : v.depth ≤ Json.nestingLimit)
    (category : String) :
    (Daemon.submit d ⟨category, v.print⟩ p).1 = .accepted ∧
      Json.parse v.print = .ok (v.mapFloats Json.reread) := by
  have hparse := (Json.parse_chars (Json.formed_reread formed) (Json.toList_print v)).1 shallow
  exact ⟨submit_accepted_iff.2 ⟨_, hparse⟩, hparse⟩

/-! ## Their lines -/

/-- The pipeline's own batches are written without a check. -/
theorem publish_internal {write : Writer ω} {content : ω → ByteArray} (keeps : write.Keeps content)
    (b : Batch) (out : ω) :
    publish write b.body b.category .internal out =
      (.ok (), (write (text b ++ "\n").toUTF8 out).2) :=
  publish_of_checked keeps (by intro h; exact absurd h Bool.false_ne_true) out

/-- **What was accepted comes back, unless it is too deep.** The line of a batch of accepted events,
and of any others whose floating point numbers are finite, is written, and it has no line break in
it. It is read as an object of the category and the events, with floating point numbers as they are
read, if every event has at most 125 arrays and objects open; if one has more, the line is refused
because of its depth. -/
theorem publish_accepted {d : Downstream π ρ} {write : Writer ω} {content : ω → ByteArray}
    (keeps : write.Keeps content) {b : Batch}
    (accepted : ∀ v ∈ b.items, Accepted d v ∨ v.Formed Binary64.InRange) (out : ω) :
    (publish write b.body b.category .internal out).1 = .ok () ∧
      content (publish write b.body b.category .internal out).2 =
        content out ++ (text b ++ "\n").toUTF8 ∧
      '\n' ∉ (text b).toList ∧
      ((∀ v ∈ b.items, v.depth ≤ 125) →
        Json.parse (text b) = .ok (.object [("category", .string b.category),
          ("events", .array (b.items.map (Json.mapFloats Json.reread)))])) ∧
      ((∃ v ∈ b.items, 125 < v.depth) →
        ∃ error, Json.parse (text b) = .error error ∧ error.cause = .nestingLimit) := by
  have hformed : ∀ v ∈ b.items, v.Formed fun x => Json.NumeralFor x (Json.reread x) :=
    fun v hv => Json.formed_reread ((accepted v hv).elim formed_of_accepted id)
  obtain ⟨hread, hdeep⟩ := parse_text hformed
  rw [publish_internal keeps]
  exact ⟨rfl, keeps.grows _ out, newline_notMem_text b, hread, hdeep⟩

/-- A pipeline that writes its journal to memory. -/
def toMemory : Downstream ByteArray Unit := ⟨publisher Writer.memory, .logAndDrop Unit⟩

/-- A value with a fraction, a quote and an object in it. -/
def mixedEvent : Json :=
  .array [.float ⟨true, 0x14000000000000, -51⟩, .string "\"\n", .object [("a", .null)]]

/-- The event as it was read, and the event as it was before. -/
def mixedBatch : Batch := ⟨"a", [mixedEvent.mapFloats Json.reread, mixedEvent]⟩

/-- An event with a fraction, a quote and an object in it comes back. -/
theorem publish_accepted_mixedEvent :
    (∃ p, Pipeline.make {} ByteArray.empty () false = .ok p ∧
      (Daemon.submit toMemory ⟨"a", mixedEvent.print⟩ p).1 = .accepted ∧
      Json.parse mixedEvent.print = .ok (mixedEvent.mapFloats Json.reread)) ∧
    Writer.memory.Keeps id ∧
    (∀ v ∈ mixedBatch.items, Accepted toMemory v ∨ v.Formed Binary64.InRange) ∧
    Json.parse (text mixedBatch) = .ok (.object [("category", .string "a"),
      ("events", .array (mixedBatch.items.map (Json.mapFloats Json.reread)))]) := by
  have hformed : mixedEvent.Formed Binary64.InRange :=
    ⟨⟨by decide, by decide, by decide⟩, trivial, ⟨List.pairwise_singleton _ _, trivial, trivial⟩,
      trivial⟩
  obtain ⟨p, hp⟩ : ∃ p, Pipeline.make {} ByteArray.empty () false = .ok p := ⟨_, rfl⟩
  obtain ⟨haccepted, hparse⟩ := accepted_of_print (d := toMemory) p hformed (by decide) "a"
  have hread : Accepted toMemory (mixedEvent.mapFloats Json.reread) := ⟨_, p, haccepted, hparse⟩
  have hall : ∀ v ∈ mixedBatch.items, Accepted toMemory v ∨ v.Formed Binary64.InRange :=
    List.forall_mem_cons.2 ⟨.inl hread, List.forall_mem_singleton.2 (.inr hformed)⟩
  have hshallow : ∀ v ∈ mixedBatch.items, v.depth ≤ 125 :=
    List.forall_mem_cons.2 ⟨by decide, List.forall_mem_singleton.2 (by decide)⟩
  obtain ⟨-, -, -, hback, -⟩ := publish_accepted Writer.memory_keeps hall ByteArray.empty
  exact ⟨⟨p, hp, haccepted, hparse⟩, Writer.memory_keeps, hall, hback hshallow⟩

/-! ## An event at the limit -/

/-- So many arrays inside each other. -/
def nested : ℕ → Json
  | 0 => .array []
  | n + 1 => .array [nested n]

theorem depth_nested (n : ℕ) : (nested n).depth = n + 1 := by
  induction n with
  | zero => rfl
  | succ n ih =>
    rw [nested, Json.depth, Json.elementsDepth, ih]
    rfl

theorem formed_nested (meets : Binary64 → Prop) (n : ℕ) : (nested n).Formed meets := by
  induction n with
  | zero => trivial
  | succ n ih => exact ⟨ih, trivial⟩

theorem mapFloats_nested (f : Binary64 → Binary64) (n : ℕ) : (nested n).mapFloats f = nested n := by
  induction n with
  | zero => rfl
  | succ n ih =>
    rw [nested, Json.mapFloats, Json.mapElements, ih]
    rfl

/-- An event of 126 arrays is accepted and written, and its line is not read. -/
theorem deepest_unread :
    ∃ p, Pipeline.make {} ByteArray.empty () false = .ok p ∧
      (Daemon.submit toMemory ⟨"a", (nested 125).print⟩ p).1 = .accepted ∧
      Json.parse (nested 125).print = .ok (nested 125) ∧
      publish Writer.memory (Batch.body ⟨"a", [nested 125]⟩) "a" .internal ByteArray.empty =
        (.ok (), (text ⟨"a", [nested 125]⟩ ++ "\n").toUTF8) ∧
      ∃ error, Json.parse (text ⟨"a", [nested 125]⟩) = .error error ∧
        error.cause = .nestingLimit := by
  have hformed := formed_nested Binary64.InRange 125
  have hdepth := depth_nested 125
  obtain ⟨p, hp⟩ : ∃ p, Pipeline.make {} ByteArray.empty () false = .ok p := ⟨_, rfl⟩
  obtain ⟨haccepted, hparse⟩ := accepted_of_print (d := toMemory) p hformed
    (by rw [hdepth]; decide) "a"
  rw [mapFloats_nested] at hparse
  have hitems : ∀ v ∈ [nested 125], v.Formed fun x => Json.NumeralFor x (Json.reread x) :=
    fun v hv => List.mem_singleton.1 hv ▸ Json.formed_reread hformed
  have hdeep := (parse_text (b := ⟨"a", [nested 125]⟩) hitems).2
    ⟨nested 125, List.mem_singleton_self _, by rw [hdepth]; decide⟩
  refine ⟨p, hp, haccepted, hparse, ?_, hdeep⟩
  exact (publish_internal Writer.memory_keeps ⟨"a", [nested 125]⟩ ByteArray.empty).trans
    (congrArg (Prod.mk _) ByteArray.empty_append)

end EventBatching.Journal
