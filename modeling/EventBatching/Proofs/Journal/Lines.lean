import EventBatching.Journal
import EventBatching.Proofs.Json.RoundTrip

/-!
# The lines of the journal

The line of a batch is put together from pieces of text, and yet it is the text of one object. So
whoever reads the journal line by line gets back the categories and the events, as long as the
events leave room for the brackets of the line around them.

* `Journal.line_eq` says that the line of a batch is the text of its `Journal.entry`.
* `Journal.parse_text` reads a line, exactly if no event is too deep.
* `Journal.Call` is what the journal is asked for; `Journal.Call.publish_cases` is what one call
  does, and `Journal.publishAll_of_keeps` what any number of them do.
* `Journal.publishAll_reads` is about batches that are published one after another.
-/

namespace EventBatching

/-- A writer that does not fail: what it is given comes after what there is. -/
structure Writer.Keeps {ω : Type} (write : Writer ω) (content : ω → ByteArray) : Prop where
  /-- Everything is written. -/
  complete : ∀ bytes out, (write bytes out).1 = .complete
  /-- It is written at the end. -/
  grows : ∀ bytes out, content (write bytes out).2 = content out ++ bytes

theorem Writer.memory_keeps : Writer.memory.Keeps id := ⟨fun _ _ => rfl, fun _ _ => rfl⟩

namespace Journal

variable {ω : Type}

/-! ## The line of a batch -/

/-- What the line of a batch says. -/
def entry (b : Batch) : Json :=
  .object [("category", .string b.category), ("events", .array b.items)]

/-- The line of a batch without its line break. -/
def text (b : Batch) : String := (entry b).print

/-- **The line of a batch is the text of one object.** -/
theorem line_eq (b : Batch) : line b.body b.category = text b ++ "\n" := by
  rw [← String.toList_inj, text, String.toList_append, Json.toList_print, line, Batch.body]
  simp only [String.toList_append, Json.toList_quote, Json.toList_printList]
  simp [entry, Json.chars, Json.membersChars, Json.quotedChars, Json.escape]

theorem newline_notMem_text (b : Batch) : '\n' ∉ (text b).toList := by
  rw [text, Json.toList_print]
  exact Json.newline_notMem_chars (entry b)

/-- How many arrays and objects an event may have open to be read back out of a line, which has two
more around it. -/
def eventRoom : Nat := 125

theorem elementsDepth_le_iff {n : Nat} {elements : List Json} :
    Json.elementsDepth elements ≤ n ↔ ∀ v ∈ elements, v.depth ≤ n := by
  induction elements with
  | nil => exact ⟨fun _ _ h => absurd h List.not_mem_nil, fun _ => Nat.zero_le n⟩
  | cons v rest ih => rw [Json.elementsDepth, Nat.max_le, ih, List.forall_mem_cons]

theorem depth_entry_le_iff {b : Batch} :
    (entry b).depth ≤ Json.nestingLimit ↔ ∀ v ∈ b.items, v.depth ≤ eventRoom := by
  have hdepth : (entry b).depth = max 0 (max (Json.elementsDepth b.items + 1) 0) + 1 := rfl
  rw [← elementsDepth_le_iff, hdepth, Json.nestingLimit, eventRoom]
  omega

section Reading

variable {f : Binary64 → Binary64} {b : Batch}

theorem formed_entry (formed : ∀ v ∈ b.items, v.Formed fun x => Json.NumeralFor x (f x)) :
    (entry b).Formed fun x => Json.NumeralFor x (f x) := by
  have hsorted : ["category", "events"].Pairwise (· < ·) := by decide
  exact ⟨hsorted, trivial, Json.elementsFormed_iff.2 formed, trivial⟩

/-- A line is read exactly if no event is too deep. -/
theorem parse_text (formed : ∀ v ∈ b.items, v.Formed fun x => Json.NumeralFor x (f x)) :
    ((∀ v ∈ b.items, v.depth ≤ eventRoom) →
      Json.parse (text b) = .ok (.object
        [("category", .string b.category), ("events", .array (b.items.map (Json.mapFloats f)))])) ∧
      ((∃ v ∈ b.items, eventRoom < v.depth) →
        ∃ error, Json.parse (text b) = .error error ∧ error.cause = .nestingLimit) := by
  obtain ⟨hok, hdeep⟩ := Json.parse_chars (formed_entry formed) (Json.toList_print (entry b))
  refine ⟨fun shallow => ?_, fun ⟨v, hv, deep⟩ => ?_⟩
  · rw [← Json.mapElements_eq_map]
    exact hok (depth_entry_le_iff.2 shallow)
  · refine hdeep (Nat.not_le.1 fun hle => ?_)
    exact absurd (depth_entry_le_iff.1 hle v hv) (Nat.not_le.2 deep)

/-- The body of a batch passes the check that it is an array, with room for one more array around
it. -/
theorem validate_body (formed : ∀ v ∈ b.items, v.Formed fun x => Json.NumeralFor x (f x))
    (shallow : ∀ v ∈ b.items, v.depth ≤ eventRoom) (category : String) :
    validate b.body category = .ok () := by
  have hformed : (Json.array b.items).Formed fun x => Json.NumeralFor x (f x) :=
    Json.elementsFormed_iff.2 formed
  have hdepth : (Json.array b.items).depth ≤ Json.nestingLimit := by
    have hitems := elementsDepth_le_iff.2 shallow
    rw [Json.depth, Json.nestingLimit]
    rw [eventRoom] at hitems
    omega
  have hparse := (Json.parse_chars hformed (Json.toList_print _)).1 hdepth
  rw [validate, Batch.body, Json.printList, hparse]
  rfl

end Reading

/-! ## Calls -/

/-- What the journal is asked to publish. -/
structure Call where
  /-- The body. -/
  body : String
  /-- The category. -/
  category : String
  /-- The checks that are asked for. -/
  options : PublishOptions
  deriving Repr, DecidableEq

namespace Call

/-- The call for a batch. -/
def ofBatch (p : Batch × PublishOptions) : Call := ⟨p.1.body, p.1.category, p.2⟩

/-- The line for which it asks. -/
def line (c : Call) : String := Journal.line c.body c.category

/-- What comes of the checks for which it asks. -/
def check (c : Call) : Except Fault Unit :=
  if c.options.validate then validate c.body c.category else .ok ()

/-- Makes the call. -/
def publish (c : Call) (write : Writer ω) (out : ω) : Except Fault Unit × ω :=
  Journal.publish write c.body c.category c.options out

end Call

/-- Makes one call after another: how each ended, and what was written to. -/
def publishAll (write : Writer ω) : List Call → ω → List (Except Fault Unit) × ω
  | [], out => ([], out)
  | c :: rest, out =>
    let (result, out) := c.publish write out
    let (results, out) := publishAll write rest out
    (result :: results, out)

/-- The lines of the calls that pass their checks. -/
def written (calls : List Call) : String :=
  String.join ((calls.filter (·.check.isOk)).map (·.line))

theorem written_cons_of_ok {c : Call} (passed : c.check = .ok ()) (rest : List Call) :
    written (c :: rest) = c.line ++ written rest := by
  have hok : c.check.isOk = true := by
    rw [passed]
    rfl
  rw [written, List.filter_cons_of_pos (p := fun c : Call => c.check.isOk) hok, List.map_cons,
    String.join_cons]
  rfl

theorem written_cons_of_error {c : Call} {fault : Fault} (failed : c.check = .error fault)
    (rest : List Call) : written (c :: rest) = written rest := by
  have hfails : ¬ c.check.isOk = true := by
    rw [failed]
    exact Bool.false_ne_true
  rw [written, List.filter_cons_of_neg (p := fun c : Call => c.check.isOk) hfails]
  rfl

section Writing

variable {write : Writer ω} {content : ω → ByteArray}

/-- A call that passes its checks adds its line, and any other adds nothing. -/
theorem Call.publish_cases (keeps : write.Keeps content) (c : Call) (out : ω) :
    (c.check = .ok () ∧ c.publish write out = (.ok (), (write c.line.toUTF8 out).2)) ∨
      ∃ fault, c.check = .error fault ∧ c.publish write out = (.error fault, out) := by
  cases hcheck : c.check with
  | ok passed =>
    have hwrite : write c.line.toUTF8 out = (.complete, (write c.line.toUTF8 out).2) :=
      Prod.ext (keeps.complete _ out) rfl
    rw [check] at hcheck
    rw [line] at hwrite
    refine .inl ⟨rfl, ?_⟩
    rw [Call.publish, Journal.publish, hcheck]
    simp only
    rw [hwrite]
    rfl
  | error fault =>
    rw [check] at hcheck
    refine .inr ⟨fault, rfl, ?_⟩
    rw [Call.publish, Journal.publish, hcheck]

/-- Calls end as their checks say, and what is added are the lines of those that passed. -/
theorem publishAll_of_keeps (keeps : write.Keeps content) (calls : List Call) (out : ω) :
    (publishAll write calls out).1 = calls.map Call.check ∧
      content (publishAll write calls out).2 = content out ++ (written calls).toUTF8 := by
  induction calls generalizing out with
  | nil => exact ⟨rfl, ByteArray.append_empty.symm⟩
  | cons c rest ih =>
    rw [publishAll, List.map_cons]
    rcases c.publish_cases keeps out with ⟨hcheck, hpublish⟩ | ⟨fault, hcheck, hpublish⟩
    · obtain ⟨hresults, hcontent⟩ := ih (write c.line.toUTF8 out).2
      rw [hpublish, hcheck, written_cons_of_ok hcheck]
      refine ⟨congrArg (Except.ok () :: ·) hresults, ?_⟩
      show content (publishAll write rest _).2 = _
      rw [hcontent, keeps.grows, ByteArray.append_assoc]
      simp [String.toUTF8]
    · obtain ⟨hresults, hcontent⟩ := ih out
      rw [hpublish, hcheck, written_cons_of_error hcheck]
      exact ⟨congrArg (Except.error fault :: ·) hresults, hcontent⟩

end Writing

/-! ## Publishing batches -/

section Publishing

variable {write : Writer ω} {content : ω → ByteArray}

theorem line_ofBatch (p : Batch × PublishOptions) : (Call.ofBatch p).line = text p.1 ++ "\n" :=
  line_eq p.1

theorem check_ofBatch {p : Batch × PublishOptions}
    (checked : p.2.validate = true → validate p.1.body p.1.category = .ok ()) :
    (Call.ofBatch p).check = .ok () := by
  rw [Call.check]
  by_cases hoption : (Call.ofBatch p).options.validate = true
  · rw [if_pos hoption]
    exact checked hoption
  · rw [if_neg hoption]

theorem publish_of_checked (keeps : write.Keeps content) {b : Batch} {options : PublishOptions}
    (checked : options.validate = true → validate b.body b.category = .ok ()) (out : ω) :
    publish write b.body b.category options out =
      (.ok (), (write (text b ++ "\n").toUTF8 out).2) := by
  have hcheck : (Call.ofBatch (b, options)).check = .ok () := check_ofBatch checked
  rcases (Call.ofBatch (b, options)).publish_cases keeps out with
    ⟨-, hpublish⟩ | ⟨fault, hfault, -⟩
  · rwa [line_ofBatch] at hpublish
  · rw [hcheck] at hfault
    cases hfault

/-- The lines of batches, one after another. -/
def lines (batches : List Batch) : String := String.join (batches.map fun b => text b ++ "\n")

theorem lines_cons (b : Batch) (rest : List Batch) :
    lines (b :: rest) = text b ++ "\n" ++ lines rest := by
  rw [lines, lines, List.map_cons, String.join_cons]

/-- Batches that pass their checks add their lines. -/
theorem written_ofBatch {published : List (Batch × PublishOptions)}
    (checked : ∀ p ∈ published, (Call.ofBatch p).check = .ok ()) :
    written (published.map Call.ofBatch) = lines (published.map (·.1)) := by
  induction published with
  | nil => rfl
  | cons p rest ih =>
    obtain ⟨hfirst, hrest⟩ := List.forall_mem_cons.1 checked
    rw [List.map_cons, written_cons_of_ok hfirst, line_ofBatch, ih hrest, List.map_cons, lines_cons]

/-- **The journal reads back exactly.** Batches whose events hold no number but integers, in at most
125 arrays and objects, are all published, checked or not. Each publication appends one line, in
the order of the publications; no line has a line break in it, and each is read as an object of the
category and the events of its batch. -/
theorem publishAll_reads (keeps : write.Keeps content) {published : List (Batch × PublishOptions)}
    (integral : ∀ p ∈ published, ∀ v ∈ p.1.items, v.Formed fun _ => False)
    (shallow : ∀ p ∈ published, ∀ v ∈ p.1.items, v.depth ≤ 125) (out : ω) :
    (publishAll write (published.map Call.ofBatch) out).1 = published.map (fun _ => .ok ()) ∧
      (∀ n, content (publishAll write ((published.take n).map Call.ofBatch) out).2 =
        content out ++ (lines ((published.take n).map (·.1))).toUTF8) ∧
      ∀ p ∈ published, '\n' ∉ (text p.1).toList ∧
        Json.parse (text p.1) = .ok (.object
          [("category", .string p.1.category), ("events", .array p.1.items)]) := by
  have hformed : ∀ p ∈ published, ∀ v ∈ p.1.items,
      v.Formed fun x => Json.NumeralFor x (id x) := fun p hp v hv =>
    Json.Formed.mono (fun _ => False.elim) (integral p hp v hv)
  have hchecked : ∀ p ∈ published, (Call.ofBatch p).check = .ok () := fun p hp =>
    check_ofBatch fun _ => validate_body (hformed p hp) (shallow p hp) p.1.category
  refine ⟨?_, fun n => ?_, fun p hp => ?_⟩
  · rw [(publishAll_of_keeps keeps _ out).1, List.map_map]
    exact List.map_congr_left hchecked
  · rw [(publishAll_of_keeps keeps _ out).2]
    rw [written_ofBatch fun p hp => hchecked p (List.mem_of_mem_take hp)]
  · have hparse := (parse_text (hformed p hp)).1 (shallow p hp)
    have hsame : p.1.items.map (Json.mapFloats id) = p.1.items := by
      rw [← Json.mapElements_eq_map, Json.mapElements_id]
    rw [hsame] at hparse
    exact ⟨newline_notMem_text p.1, hparse⟩

/-- Batches whose texts need every kind of escape. -/
def escapedBatches : List (Batch × PublishOptions) :=
  [(⟨"a\"b\\c\nd\x01é", [.string "\n\"", .array [.object [("", .null), ("\t", .bool true)]],
      .int ⟨-9223372036854775808, by decide, by decide⟩]⟩, ⟨false, true⟩),
    (⟨"", []⟩, .internal),
    (⟨"𝄞", [.object [("a", .array []), ("é", .int ⟨18446744073709551615, by decide, by decide⟩)]]⟩,
      ⟨true, false⟩)]

/-- Quotes, backslashes, control characters and characters beyond ASCII are read back. -/
theorem publishAll_reads_escapedBatches :
    Writer.memory.Keeps id ∧
      (∀ p ∈ escapedBatches, ∀ v ∈ p.1.items, v.Formed fun _ => False) ∧
      (∀ p ∈ escapedBatches, ∀ v ∈ p.1.items, v.depth ≤ 125) ∧
      (publishAll Writer.memory (escapedBatches.map Call.ofBatch) ByteArray.empty).1 =
        [.ok (), .ok (), .ok ()] ∧
      (∀ n, (publishAll Writer.memory ((escapedBatches.take n).map Call.ofBatch)
          ByteArray.empty).2 =
        ByteArray.empty ++ (lines ((escapedBatches.take n).map (·.1))).toUTF8) ∧
      ∀ p ∈ escapedBatches, '\n' ∉ (text p.1).toList ∧
        Json.parse (text p.1) = .ok (.object
          [("category", .string p.1.category), ("events", .array p.1.items)]) := by
  have hintegral : ∀ p ∈ escapedBatches, ∀ v ∈ p.1.items, v.Formed fun _ => False := by
    simp only [escapedBatches, List.mem_cons, List.not_mem_nil, or_false, forall_eq_or_imp,
      Json.Formed, Json.ElementsFormed, Json.MembersFormed, List.map_cons, List.map_nil,
      List.pairwise_cons, forall_eq, String.reduceLT, false_implies, implies_true,
      List.Pairwise.nil, and_self]
  have hshallow : ∀ p ∈ escapedBatches, ∀ v ∈ p.1.items, v.depth ≤ 125 := by
    simp [escapedBatches, Json.depth, Json.elementsDepth, Json.membersDepth]
  exact ⟨Writer.memory_keeps, hintegral, hshallow,
    publishAll_reads Writer.memory_keeps hintegral hshallow ByteArray.empty⟩

end Publishing

end Journal

end EventBatching
