import EventBatching.Proofs.Journal.Lines
import EventBatching.Proofs.Json.Unbroken

/-!
# Line breaks in the journal

A body that is given to the journal with the wish to have it checked is written if it is a JSON
array, and then as it is. The pipeline's own bodies have no line breaks in them, but such a body may
have some, between its tokens, and every one of them breaks its line. So the journal has one line
for each publication exactly if no body that was written has a line break in it.

* `lineBreaks` counts line breaks in bytes, and `lineBreaks_toUTF8` says that they are those of the
  text.
* `Journal.Call.publish_cases_of_validate` says what a single checked publication does, and
  `Journal.publishAll_breaks` what any number of them do.
* `Journal.brokenBody_breaks` is about a body with a line break.
-/

namespace EventBatching

/-! ## Line breaks in bytes -/

/-- The number of line breaks in bytes. -/
def lineBreaks (bytes : ByteArray) : ℕ := bytes.data.toList.count 10

theorem lineBreaks_append (front back : ByteArray) :
    lineBreaks (front ++ back) = lineBreaks front + lineBreaks back := by
  rw [lineBreaks, ByteArray.toList_data_append, List.count_append, lineBreaks, lineBreaks]

theorem ofNat_eq_newline_iff {n : ℕ} (byte : n < 256) : UInt8.ofNat n = 10 ↔ n = 10 := by
  rw [← UInt8.toNat_inj, UInt8.toNat_ofNat_of_lt' byte]
  rfl

/-- A line break is one byte, and no other character has such a byte: where a character takes more
than one, each is 128 or more. -/
theorem count_utf8EncodeChar (c : Char) :
    (String.utf8EncodeChar c).count 10 = if c = '\n' then 1 else 0 := by
  have hnewline : c = '\n' ↔ c.val.toNat = 10 := by
    rw [Char.ext_iff, ← UInt32.toNat_inj]
    rfl
  have hlarge {n : ℕ} (byte : n < 256) (large : 128 ≤ n) : 10 ≠ UInt8.ofNat n :=
    fun h => absurd ((ofNat_eq_newline_iff byte).1 h.symm) (by omega)
  simp only [hnewline, String.utf8EncodeChar]
  by_cases hone : c.val.toNat ≤ 127
  · have hbyte : c.val.toNat < 256 := by omega
    simp only [if_pos hone, List.count_singleton, beq_iff_eq, ofNat_eq_newline_iff hbyte]
  · have hother : ¬ c.val.toNat = 10 := by omega
    rw [if_neg hone, if_neg hother, List.count_eq_zero]
    split
    · simp only [List.mem_cons, List.not_mem_nil, or_false, not_or]
      exact ⟨hlarge (by omega) (by omega), hlarge (by omega) (by omega)⟩
    · split
      · simp only [List.mem_cons, List.not_mem_nil, or_false, not_or]
        exact ⟨hlarge (by omega) (by omega), hlarge (by omega) (by omega),
          hlarge (by omega) (by omega)⟩
      · simp only [List.mem_cons, List.not_mem_nil, or_false, not_or]
        exact ⟨hlarge (by omega) (by omega), hlarge (by omega) (by omega),
          hlarge (by omega) (by omega), hlarge (by omega) (by omega)⟩

/-- The line breaks in the bytes of a text are those of the text. -/
theorem lineBreaks_toUTF8 (text : String) : lineBreaks text.toUTF8 = text.toList.count '\n' := by
  have hbytes : text.toUTF8 = (text.toList.flatMap String.utf8EncodeChar).toByteArray :=
    String.utf8Encode_toList.symm
  rw [hbytes, lineBreaks, List.data_toByteArray, List.toList_toArray]
  induction text.toList with
  | nil => rfl
  | cons c rest ih =>
    rw [List.flatMap_cons, List.count_append, ih, count_utf8EncodeChar, List.count_cons,
      Nat.add_comm]
    simp only [beq_iff_eq]

namespace Journal

variable {ω : Type} {write : Writer ω} {content : ω → ByteArray}

/-! ## The line of a body -/

/-- The line of a body without its line break. -/
def bare (body category : String) : String :=
  String.join ["\x7b\"category\":", Json.quote category, ",\"events\":", body, "\x7d"]

theorem line_eq_bare (body category : String) :
    line body category = bare body category ++ "\n" := by
  rw [← String.toList_inj, line, bare]
  simp

/-- The line breaks in it are those of the body. -/
theorem count_bare (body category : String) :
    (bare body category).toList.count '\n' = body.toList.count '\n' := by
  have hcategory : (Json.quotedChars category).count '\n' = 0 :=
    List.count_eq_zero.2 (Json.newline_notMem_quotedChars category)
  have hopening : "\x7b\"category\":".toList.count '\n' = 0 := by decide
  have hbetween : ",\"events\":".toList.count '\n' = 0 := by decide
  have hclosing : "\x7d".toList.count '\n' = 0 := by decide
  simp only [bare, String.join_cons, String.join_nil, String.toList_append, String.toList_empty,
    List.count_append, List.count_nil, Json.toList_quote, hcategory, hopening, hbetween, hclosing,
    Nat.zero_add, Nat.add_zero]

theorem lineBreaks_line (body category : String) :
    lineBreaks (line body category).toUTF8 = body.toList.count '\n' + 1 := by
  rw [lineBreaks_toUTF8, line_eq_bare, String.toList_append, List.count_append, count_bare]
  rfl

theorem newline_notMem_bare_unbroken (body category : String) :
    '\n' ∉ (bare (Json.unbroken body) category).toList := by
  rw [← List.count_eq_zero, count_bare, List.count_eq_zero]
  exact Json.newline_notMem_unbroken body

/-! ## One publication -/

/-- Whether a body is a JSON array. -/
def isArray (body : String) : Bool :=
  match Json.parse body with
  | .ok (.array _) => true
  | _ => false

theorem isArray_iff {body : String} :
    isArray body = true ↔ ∃ elements, Json.parse body = .ok (.array elements) := by
  rw [isArray]
  split
  · next elements h => exact ⟨fun _ => ⟨elements, h⟩, fun _ => rfl⟩
  · next h => exact ⟨nofun, fun ⟨elements, h'⟩ => absurd h' (h elements)⟩

/-- The check passes for arrays and for nothing else. -/
theorem validate_cases (body category : String) :
    (isArray body = true ∧ validate body category = .ok ()) ∨
      (isArray body = false ∧ ∃ fault, validate body category = .error fault) := by
  rw [← Bool.not_eq_true, isArray_iff, validate]
  split
  · next elements h => exact .inl ⟨⟨elements, h⟩, rfl⟩
  · next v hother h =>
    refine .inr ⟨?_, _, rfl⟩
    rintro ⟨elements, h'⟩
    exact hother elements (Except.ok.inj (h.symm.trans h'))
  · next e h =>
    refine .inr ⟨?_, _, rfl⟩
    rintro ⟨elements, h'⟩
    rw [h] at h'
    cases h'

/-- With the wish to have it checked, a body is written if it is an array, with a line break behind
it, and nothing else is written. -/
theorem Call.publish_cases_of_validate (keeps : write.Keeps content) {c : Call}
    (checks : c.options.validate = true) (out : ω) :
    (isArray c.body = true ∧ (c.publish write out).1 = .ok () ∧
      content (c.publish write out).2 = content out ++ (Journal.line c.body c.category).toUTF8) ∨
    (isArray c.body = false ∧ ∃ fault, c.publish write out = (.error fault, out)) := by
  have hcheck : c.check = validate c.body c.category := if_pos checks
  rcases c.publish_cases keeps out with ⟨hok, hpublish⟩ | ⟨fault, hfault, hpublish⟩
  · rcases validate_cases c.body c.category with ⟨harray, -⟩ | ⟨-, fault, hfault⟩
    · rw [hpublish]
      exact .inl ⟨harray, rfl, keeps.grows _ out⟩
    · rw [hcheck, hfault] at hok
      cases hok
  · rcases validate_cases c.body c.category with ⟨-, hvalid⟩ | ⟨hother, -⟩
    · rw [hcheck, hvalid] at hfault
      cases hfault
    · exact .inr ⟨hother, fault, hpublish⟩

/-! ## Any number of publications -/

/-- The line breaks in the bodies that are arrays. -/
def innerBreaks : List Call → ℕ
  | [] => 0
  | c :: rest => (if isArray c.body then c.body.toList.count '\n' else 0) + innerBreaks rest

theorem innerBreaks_eq_zero_iff {cs : List Call} :
    innerBreaks cs = 0 ↔ ∀ c ∈ cs, isArray c.body = true → '\n' ∉ c.body.toList := by
  induction cs with
  | nil => exact ⟨fun _ _ h => absurd h List.not_mem_nil, fun _ => rfl⟩
  | cons c rest ih =>
    rw [innerBreaks, Nat.add_eq_zero_iff, ih, List.forall_mem_cons]
    split
    · next harray => simp only [harray, List.count_eq_zero, forall_const]
    · next hother => simp only [hother, Bool.false_eq_true, false_implies]

/-- Each array that is written has its line breaks and one more. -/
theorem lineBreaks_written {cs : List Call} (checks : ∀ c ∈ cs, c.options.validate = true) :
    lineBreaks (written cs).toUTF8 = (cs.map Call.check).countP Except.isOk + innerBreaks cs := by
  induction cs with
  | nil => rfl
  | cons c rest ih =>
    obtain ⟨hfirst, hrest⟩ := List.forall_mem_cons.1 checks
    have hcheck : c.check = validate c.body c.category := if_pos hfirst
    rw [List.map_cons, innerBreaks]
    rcases validate_cases c.body c.category with ⟨harray, hvalid⟩ | ⟨hother, fault, hfault⟩
    · have hline : lineBreaks (written (c :: rest)).toUTF8 =
          lineBreaks (line c.body c.category).toUTF8 + lineBreaks (written rest).toUTF8 := by
        rw [written_cons_of_ok (hcheck.trans hvalid), ← lineBreaks_append]
        simp [String.toUTF8, Call.line]
      rw [hline, lineBreaks_line, ih hrest, hcheck, hvalid, harray, if_pos rfl,
        List.countP_cons_of_pos rfl]
      omega
    · rw [written_cons_of_error (hcheck.trans hfault), ih hrest, hcheck, hfault, hother,
        if_neg Bool.false_ne_true, List.countP_cons_of_neg Bool.false_ne_true]
      omega

/-- What was written before stays, each array adds its line, and that has the line breaks of the
array and one more. -/
theorem lineBreaks_publishAll (keeps : write.Keeps content) {cs : List Call}
    (checks : ∀ c ∈ cs, c.options.validate = true) (out : ω) :
    lineBreaks (content (publishAll write cs out).2) =
      lineBreaks (content out) + (publishAll write cs out).1.countP Except.isOk +
        innerBreaks cs := by
  obtain ⟨hresults, hcontent⟩ := publishAll_of_keeps keeps cs out
  rw [hresults, hcontent, lineBreaks_append, lineBreaks_written checks, Nat.add_assoc]

/-- **A line for each publication, unless a body breaks it.** A checked publication fails, and then
leaves everything as it is, exactly if the body is no JSON array. Otherwise it adds a text and a
line break behind it, and the text has the line breaks of the body and no others; with spaces in
their places the body is read as the same and would make one line. After any number of such
publications there are more line breaks than before: one for each that succeeded, and those in the
bodies that were written. So there is a line for each success exactly if no body that was written
has a line break in it. -/
theorem publishAll_breaks (keeps : write.Keeps content) :
    (∀ (c : Call) (out : ω), c.options.validate = true →
      ((∃ fault, c.publish write out = (.error fault, out)) ↔
        ¬ ∃ elements, Json.parse c.body = .ok (.array elements)) ∧
      ((∃ elements, Json.parse c.body = .ok (.array elements)) →
        (c.publish write out).1 = .ok () ∧
        content (c.publish write out).2 =
          content out ++ (bare c.body c.category ++ "\n").toUTF8 ∧
        (bare c.body c.category).toList.count '\n' = c.body.toList.count '\n') ∧
      ∀ elements, Json.parse c.body = .ok (.array elements) →
        Json.parse (Json.unbroken c.body) = .ok (.array elements) ∧
        '\n' ∉ (bare (Json.unbroken c.body) c.category).toList) ∧
    ∀ (cs : List Call) (out : ω), (∀ c ∈ cs, c.options.validate = true) →
      lineBreaks (content (publishAll write cs out).2) =
        lineBreaks (content out) + (publishAll write cs out).1.countP Except.isOk +
          innerBreaks cs ∧
      (lineBreaks (content (publishAll write cs out).2) =
          lineBreaks (content out) + (publishAll write cs out).1.countP Except.isOk ↔
        ∀ c ∈ cs, (∃ elements, Json.parse c.body = .ok (.array elements)) →
          '\n' ∉ c.body.toList) := by
  simp only [← isArray_iff, Bool.not_eq_true, ← line_eq_bare]
  refine ⟨fun c out checks => ?_, fun cs out checks => ?_⟩
  · rw [← and_assoc]
    refine ⟨?_, fun elements harray =>
      ⟨Json.parse_unbroken harray, newline_notMem_bare_unbroken c.body c.category⟩⟩
    rcases c.publish_cases_of_validate keeps checks out with
      ⟨harray, hok, hcontent⟩ | ⟨hother, fault, hfault⟩
    · refine ⟨⟨fun ⟨fault, hfault⟩ => ?_, fun h => absurd (harray.symm.trans h) nofun⟩,
        fun _ => ⟨hok, hcontent, count_bare c.body c.category⟩⟩
      rw [hfault] at hok
      cases hok
    · exact ⟨⟨fun _ => hother, fun _ => ⟨fault, hfault⟩⟩,
        fun h => absurd (h.symm.trans hother) nofun⟩
  · have hbreaks := lineBreaks_publishAll keeps checks out
    refine ⟨hbreaks, ?_⟩
    rw [hbreaks, ← innerBreaks_eq_zero_iff]
    omega

/-- Two arrays, one of them with blanks of other kinds, and a body that is no array. -/
def spacedBodies : List Call :=
  [⟨"[1]", "a\n", ⟨true, true⟩⟩, ⟨"\t[ ]\r", "", ⟨false, true⟩⟩, ⟨"[1\n", "", ⟨false, true⟩⟩]

theorem publishAll_breaks_spacedBodies :
    Writer.memory.Keeps id ∧ (∀ c ∈ spacedBodies, c.options.validate = true) ∧
      (publishAll Writer.memory spacedBodies ByteArray.empty).1.countP Except.isOk = 2 ∧
      lineBreaks (publishAll Writer.memory spacedBodies ByteArray.empty).2 = 2 ∧
      ∃ fault, (⟨"[1\n", "", ⟨false, true⟩⟩ : Call).publish Writer.memory ByteArray.empty =
        (.error fault, ByteArray.empty) := by
  have hchecks : ∀ c ∈ spacedBodies, c.options.validate = true := by decide
  have hoks :
      (publishAll Writer.memory spacedBodies ByteArray.empty).1.countP Except.isOk = 2 := by
    decide +kernel
  have hbodies : ∀ c ∈ spacedBodies,
      (∃ elements, Json.parse c.body = .ok (.array elements)) → '\n' ∉ c.body.toList := by
    simp only [← isArray_iff]
    decide +kernel
  have hother : ¬ ∃ elements, Json.parse "[1\n" = .ok (.array elements) := by
    rw [← isArray_iff]
    decide +kernel
  obtain ⟨hone, hall⟩ := publishAll_breaks Writer.memory_keeps
  have hlines := (hall spacedBodies ByteArray.empty hchecks).2.2 hbodies
  exact ⟨Writer.memory_keeps, hchecks, hoks, hlines.trans (congrArg (0 + ·) hoks),
    (hone ⟨"[1\n", "", ⟨false, true⟩⟩ ByteArray.empty rfl).1.2 hother⟩

/-- A body with a line break between its elements is written, and makes two lines of one. -/
theorem brokenBody_breaks :
    Json.parse "[1,\n2]" = .ok (.array [.int ⟨1, by decide, by decide⟩,
        .int ⟨2, by decide, by decide⟩]) ∧
      publishAll Writer.memory [⟨"[1,\n2]", "a", ⟨false, true⟩⟩] ByteArray.empty =
        ([.ok ()], "\x7b\"category\":\"a\",\"events\":[1,\n2]\x7d\n".toUTF8) ∧
      lineBreaks "\x7b\"category\":\"a\",\"events\":[1,\n2]\x7d\n".toUTF8 = 2 := by
  refine ⟨rfl, by decide +kernel, ?_⟩
  rw [lineBreaks_toUTF8]
  decide

end Journal

end EventBatching
