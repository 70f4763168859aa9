import EventBatching.Text.Blank
import Mathlib.Data.List.Basic
import Mathlib.Data.List.DropRight

/-!
# Lines and what is in them

A text is cut at its line breaks, a line loses the blanks at its ends, and a line of blanks is
nothing. Carriage returns need no care of their own here, because they are blanks, and neither does
a line break at the end of the text, because the line that it would begin is blank.

* `Blank.Trimmed` says what is left of a line without the blanks at its ends, and
  `Blank.trimmed_iff` that `Blank.trimChars` leaves just that.
* `Blank.LineAt` says which line has a number, and `Blank.lineAt_break_iff` goes from a line to the
  next.
* `Blank.exists_line_iff` says that `Blank.lines` and `Blank.trim` find what is in the lines, each
  under its number.
-/

namespace EventBatching.Blank

/-! ## Blanks at the ends -/

/-- What is left of a line without the blanks at its ends. -/
def Trimmed (line payload : List Char) : Prop :=
  ∃ left right, line = left ++ payload ++ right ∧ (∀ c ∈ left ++ right, isBlank c = true) ∧
    (∀ c ∈ payload.head?, isBlank c = false) ∧ ∀ c ∈ payload.getLast?, isBlank c = false

/-- Nothing is taken off in front of a character that is no blank. -/
theorem dropWhile_of_head? {cs : List Char} (h : ∀ c ∈ cs.head?, isBlank c = false) :
    cs.dropWhile isBlank = cs := by
  cases cs with
  | nil => rfl
  | cons c rest => exact List.dropWhile_cons_of_neg (by simp [h c rfl])

theorem trimEnd_of_getLast? {cs : List Char} (h : ∀ c ∈ cs.getLast?, isBlank c = false) :
    trimEnd cs = cs := by
  rw [trimEnd, dropWhile_of_head? (by rwa [List.head?_reverse]), List.reverse_reverse]

theorem head?_dropWhile (cs : List Char) :
    ∀ c ∈ (cs.dropWhile isBlank).head?, isBlank c = false := by
  intro c hc
  have hnot := List.head?_dropWhile_not isBlank cs
  rw [Option.mem_def.1 hc] at hnot
  exact hnot

/-- What is taken off at the end are blanks. -/
theorem exists_trimEnd (cs : List Char) :
    ∃ right, cs = trimEnd cs ++ right ∧ ∀ c ∈ right, isBlank c = true := by
  refine ⟨(cs.reverse.takeWhile isBlank).reverse, ?_, ?_⟩
  · rw [trimEnd, ← List.reverse_append, List.takeWhile_append_dropWhile, List.reverse_reverse]
  · intro c hc
    exact List.mem_takeWhile_imp (List.mem_reverse.1 hc)

theorem trimmed_trimChars (line : List Char) : Trimmed line (trimChars line) := by
  obtain ⟨right, hright, hblank⟩ := exists_trimEnd (line.dropWhile isBlank)
  refine ⟨line.takeWhile isBlank, right, ?_, ?_, ?_, ?_⟩
  · rw [List.append_assoc, trimChars, ← hright, List.takeWhile_append_dropWhile]
  · intro c hc
    rcases List.mem_append.1 hc with hleft | hright
    · exact List.mem_takeWhile_imp hleft
    · exact hblank c hright
  · intro c hc
    -- what is left begins as it did before the blanks at its end were taken off
    have hfirst : (line.dropWhile isBlank).head? = some c := by
      rw [hright, List.head?_append, ← trimChars, Option.mem_def.1 hc]
      rfl
    exact head?_dropWhile line c hfirst
  · intro c hc
    rw [trimChars, trimEnd, List.getLast?_reverse] at hc
    exact head?_dropWhile _ c hc

/-- **What is left of a line is determined, and found by taking blanks off at both ends.** -/
theorem trimmed_iff {line payload : List Char} :
    Trimmed line payload ↔ trimChars line = payload := by
  constructor
  · rintro ⟨left, right, rfl, hblank, hhead, hlast⟩
    have hleft : ∀ c ∈ left, isBlank c = true := fun c hc => hblank c (List.mem_append_left _ hc)
    have hright : ∀ c ∈ right, isBlank c = true := fun c hc => hblank c (List.mem_append_right _ hc)
    have hend : trimEnd (payload ++ right) = payload := by
      rw [trimEnd, List.reverse_append,
        List.dropWhile_append_of_pos (fun c hc => hright c (List.mem_reverse.1 hc)), ← trimEnd,
        trimEnd_of_getLast? hlast]
    rw [trimChars, List.append_assoc, List.dropWhile_append_of_pos hleft]
    cases payload with
    | nil =>
      have hnothing : right.dropWhile isBlank = [] := List.dropWhile_eq_nil_iff.2 hright
      rw [List.nil_append, hnothing]
      rfl
    | cons c rest =>
      rw [dropWhile_of_head? (by simpa using hhead c rfl), hend]
  · rintro rfl
    exact trimmed_trimChars line

/-- A blank behind a line is taken off. -/
theorem trimChars_concat (line : List Char) {c : Char} (blank : isBlank c = true) :
    trimChars (line ++ [c]) = trimChars line := by
  obtain ⟨left, right, hline, hblank, hhead, hlast⟩ := trimmed_trimChars line
  refine trimmed_iff.1 ⟨left, right ++ [c], ?_, ?_, hhead, hlast⟩
  · rw [← List.append_assoc, ← hline]
  · intro d hd
    rw [← List.append_assoc, List.mem_append] at hd
    rcases hd with hd | hd
    · exact hblank d hd
    · rwa [List.mem_singleton.1 hd]

/-- It does not matter for what is left whether a carriage return belongs to the line. -/
theorem trimChars_withoutReturn (begun : List Char) :
    trimChars (withoutReturn begun).reverse = trimChars begun.reverse := by
  unfold withoutReturn
  split
  · rw [List.reverse_cons, trimChars_concat _ (by decide)]
  · rfl

/-! ## Lines with their numbers -/

/-- A line of a text with its number: it stands between line breaks or the ends of the text, and
every line break in front of it ends one line. -/
def LineAt (text : List Char) (number : Nat) (line : List Char) : Prop :=
  ∃ before after, text = before ++ line ++ after ∧ '\n' ∉ line ∧
    (before = [] ∨ ['\n'] <:+ before) ∧ (after = [] ∨ ['\n'] <+: after) ∧
    number = before.count '\n' + 1

@[simp] theorem not_lineAt_zero (text line : List Char) : ¬ LineAt text 0 line := by
  rintro ⟨before, after, -, -, -, -, hnumber⟩
  exact absurd hnumber.symm (Nat.succ_ne_zero _)

/-- A text without a line break is a line. -/
theorem lineAt_whole_iff {text : List Char} (whole : '\n' ∉ text) {number : Nat}
    {line : List Char} :
    LineAt text number line ↔ number = 1 ∧ line = text := by
  constructor
  · rintro ⟨before, after, rfl, -, hbefore, hafter, rfl⟩
    simp only [List.mem_append, not_or] at whole
    obtain ⟨⟨hnone, -⟩, hnone'⟩ := whole
    obtain rfl : before = [] :=
      hbefore.resolve_right fun h => hnone (h.subset (List.mem_singleton_self _))
    obtain rfl : after = [] :=
      hafter.resolve_right fun h => hnone' (h.subset (List.mem_singleton_self _))
    simp
  · rintro ⟨rfl, rfl⟩
    exact ⟨[], [], by simp, whole, .inl rfl, .inl rfl, rfl⟩

theorem LineAt.first {first : List Char} (whole : '\n' ∉ first) (rest : List Char) :
    LineAt (first ++ '\n' :: rest) 1 first :=
  ⟨[], '\n' :: rest, rfl, whole, .inl rfl, .inr (List.prefix_append ['\n'] rest), rfl⟩

theorem LineAt.later {first rest line : List Char} (whole : '\n' ∉ first) {number : Nat}
    (h : LineAt rest number line) : LineAt (first ++ '\n' :: rest) (number + 1) line := by
  obtain ⟨before, after, rfl, hline, hbefore, hafter, rfl⟩ := h
  refine ⟨first ++ '\n' :: before, after, by simp, hline, .inr ?_, hafter, ?_⟩
  · rcases hbefore with rfl | hbreak
    · exact List.suffix_append ..
    · exact hbreak.trans ((List.suffix_cons ..).trans (List.suffix_append ..))
  · rw [List.count_append, List.count_cons_self, List.count_eq_zero.2 whole, Nat.zero_add]

/-- The first line break of a text is any other's, or stands before it. -/
theorem append_break_cases {first rest before after : List Char} (whole : '\n' ∉ first)
    (h : first ++ '\n' :: rest = before ++ '\n' :: after) :
    (before = first ∧ after = rest) ∨
      ∃ more, before = first ++ '\n' :: more ∧ rest = more ++ '\n' :: after := by
  rcases List.append_eq_append_iff.1 h with ⟨more, rfl, hmore⟩ | ⟨more, rfl, hmore⟩
  · cases more with
    | nil =>
      obtain ⟨-, hrest⟩ := List.cons.inj hmore
      exact .inl ⟨List.append_nil first, hrest.symm⟩
    | cons c more =>
      obtain ⟨rfl, hrest⟩ := List.cons.inj hmore
      exact .inr ⟨more, rfl, hrest⟩
  · cases more with
    | nil =>
      obtain ⟨-, hafter⟩ := List.cons.inj hmore
      exact .inl ⟨(List.append_nil before).symm, hafter⟩
    | cons c more =>
      obtain ⟨rfl, -⟩ := List.cons.inj hmore
      exact absurd (List.mem_append_right before (List.mem_cons_self ..)) whole

/-- Behind a line break the numbers go on. -/
theorem lineAt_break_iff {first rest : List Char} (whole : '\n' ∉ first) {number : Nat}
    {line : List Char} :
    LineAt (first ++ '\n' :: rest) number line ↔
      (number = 1 ∧ line = first) ∨ ∃ n, number = n + 1 ∧ LineAt rest n line := by
  constructor
  · rintro ⟨before, after, htext, hline, rfl | ⟨earlier, rfl⟩, hafter, rfl⟩
    · refine .inl ⟨rfl, ?_⟩
      rcases hafter with rfl | ⟨later, rfl⟩
      · have hbreak : '\n' ∈ first ++ '\n' :: rest := by simp
        rw [htext, List.nil_append, List.append_nil] at hbreak
        exact absurd hbreak hline
      · rcases append_break_cases whole htext with ⟨heq, -⟩ | ⟨more, heq, -⟩
        · exact heq
        · rw [List.nil_append] at heq
          exact absurd (by simp [heq]) hline
    · refine .inr ⟨earlier.count '\n' + 1, by simp, ?_⟩
      have hbreaks : first ++ '\n' :: rest = earlier ++ '\n' :: (line ++ after) := by
        rw [htext]
        simp
      rcases append_break_cases whole hbreaks with ⟨rfl, rfl⟩ | ⟨more, rfl, rfl⟩
      · exact ⟨[], after, rfl, hline, .inl rfl, hafter, by simp [List.count_eq_zero.2 whole]⟩
      · refine ⟨more ++ ['\n'], after, by simp, hline, .inr (List.suffix_append ..), hafter, ?_⟩
        simp [List.count_append, List.count_eq_zero.2 whole]
  · rintro (⟨rfl, rfl⟩ | ⟨n, rfl, h⟩)
    · exact .first whole rest
    · exact .later whole h

/-! ## Reading line by line -/

/-- The induction is on the characters that are not read yet; those of the line that was begun stand
in front of them. -/
theorem exists_linesFrom_iff {payload : List Char} (something : payload ≠ []) (cs : List Char)
    {begun : List Char} (whole : '\n' ∉ begun) (number : Nat) :
    (∃ line, (linesFrom begun cs)[number]? = some line ∧ trimChars line.toList = payload) ↔
      ∃ line, LineAt (begun.reverse ++ cs) (number + 1) line ∧ trimChars line = payload := by
  induction cs generalizing begun number with
  | nil =>
    have hwhole : '\n' ∉ begun.reverse := by rwa [List.mem_reverse]
    simp only [List.append_nil, lineAt_whole_iff hwhole]
    cases begun with
    | nil =>
      -- a last line without characters is not read, and there is nothing in it
      have hnothing : ¬ trimChars [] = payload := fun h => something h.symm
      simp [linesFrom, hnothing]
    | cons c rest => cases number <;> simp [linesFrom]
  | cons c rest ih =>
    by_cases hbreak : c = '\n'
    · have hwhole : '\n' ∉ begun.reverse := by rwa [List.mem_reverse]
      subst hbreak
      simp only [linesFrom, if_pos, lineAt_break_iff hwhole]
      cases number with
      | zero => simp [trimChars_withoutReturn]
      | succ n => simpa using ih (List.not_mem_nil) n
    · have hwhole : '\n' ∉ c :: begun := by
        rw [List.mem_cons, not_or]
        exact ⟨Ne.symm hbreak, whole⟩
      rw [linesFrom, if_neg hbreak, ih hwhole, List.reverse_cons, List.append_assoc,
        List.singleton_append]

/-- **Reading line by line and trimming finds what is in the lines, each under its number.** -/
theorem exists_line_iff {payload : String} (something : payload ≠ "") (text : String)
    (number : Nat) :
    (∃ line, (lines text)[number]? = some line ∧ trim line = payload) ↔
      ∃ line, LineAt text.toList (number + 1) line ∧ Trimmed line payload.toList := by
  have hsomething : payload.toList ≠ [] := by simpa using something
  have htrim (line : String) : trim line = payload ↔ trimChars line.toList = payload.toList := by
    rw [← String.toList_inj, trim, String.toList_ofList]
  simp only [trimmed_iff, htrim]
  exact exists_linesFrom_iff hsomething text.toList List.not_mem_nil number

end EventBatching.Blank
