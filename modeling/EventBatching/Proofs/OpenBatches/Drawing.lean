import EventBatching.Proofs.OpenBatches

/-!
# Drawing from open batches

Open batches come up in some order whenever somebody looks at all of them, and nobody may rely on
which. Whoever draws from them looks at one entry after another and stops as soon as there are
enough. So the entries fall into three parts: those that were looked at and drawn, those that were
looked at and passed over, and those that nobody looked at, which come last. A condition that
remembers something judges every entry by what it remembers of the entries before it.

* `OpenBatches.Order` is an order in which entries come up, `OpenBatches.Order.kept` the one in
  which they are kept; `OpenBatches.Order.exists_arrange` says that there are all of them, and
  `OpenBatches.Distinct.get?_inOrder` that no key can tell one from another.
* `OpenBatches.ruled` are the entries that get a verdict, and `OpenBatches.recalled` is what the
  condition remembers after them.
* `OpenBatches.draw_eq` puts the three parts together.
* `OpenBatches.draw_of_enough` and `OpenBatches.extractWith_of_enough` are about drawing to the end.
-/

namespace EventBatching.OpenBatches

variable {τ : Type}

/-! ## Orders -/

/-- An order in which entries come up. -/
structure Order where
  /-- The entries in that order. -/
  arrange : List (String × OpenBatch) → List (String × OpenBatch)
  /-- None is left out, and none is added. -/
  perm : ∀ entries, (arrange entries).Perm entries

/-- The order in which the entries are kept. -/
def Order.kept : Order := ⟨id, List.Perm.refl⟩

/-- Entries may come up in every order there is. -/
theorem Order.exists_arrange {entries shown : List (String × OpenBatch)}
    (perm : shown.Perm entries) : ∃ order : Order, order.arrange entries = shown := by
  classical
  refine ⟨⟨fun given => if given = entries then shown else given, fun given => ?_⟩, if_pos rfl⟩
  split
  · next hgiven =>
    rw [hgiven]
    exact perm
  · exact List.Perm.refl given

/-- The open batches in an order. -/
def inOrder (a : OpenBatches) (order : Order) : OpenBatches := ⟨order.arrange a.entries⟩

section Orders

variable {a b : OpenBatches}

theorem Distinct.of_perm (h : a.Distinct) (perm : b.entries.Perm a.entries) : b.Distinct :=
  (perm.map Prod.fst).nodup_iff.2 h

theorem Distinct.get?_of_perm (h : a.Distinct) (perm : b.entries.Perm a.entries) :
    b.get? = a.get? := by
  refine funext fun key => Option.ext fun o => ?_
  rw [(h.of_perm perm).get?_eq_some_iff, h.get?_eq_some_iff, perm.mem_iff]

theorem Distinct.inOrder (h : a.Distinct) (order : Order) : (a.inOrder order).Distinct :=
  h.of_perm (order.perm a.entries)

/-- In whatever order they come up, the open batches are those that they are. -/
theorem Distinct.get?_inOrder (h : a.Distinct) (order : Order) :
    (a.inOrder order).get? = a.get? := h.get?_of_perm (order.perm a.entries)

theorem inOrder_empty (order : Order) : empty.inOrder order = empty :=
  congrArg OpenBatches.mk (order.perm []).eq_nil

theorem size_inOrder (a : OpenBatches) (order : Order) : (a.inOrder order).size = a.size :=
  (order.perm a.entries).length_eq

end Orders

/-! ## Verdicts -/

/-- The entries that get a verdict, if all of them are looked at in their order. -/
def ruled (verdict : Bool) (meets : Condition τ) :
    List (String × OpenBatch) → τ → List (String × OpenBatch)
  | [], _ => []
  | e :: rest, memory =>
    (if (meets e.2 memory).1 = verdict then [e] else []) ++
      ruled verdict meets rest (meets e.2 memory).2

/-- What a condition remembers after it has looked at entries. -/
def recalled (meets : Condition τ) (looked : List (String × OpenBatch)) (memory : τ) : τ :=
  looked.foldl (fun memory e => (meets e.2 memory).2) memory

section Verdicts

variable {meets : Condition τ}

theorem ruled_sublist (verdict : Bool) (looked : List (String × OpenBatch)) (memory : τ) :
    (ruled verdict meets looked memory).Sublist looked := by
  induction looked generalizing memory with
  | nil => exact List.Sublist.slnil
  | cons e rest ih =>
    rw [ruled]
    split
    · exact (ih _).cons_cons e
    · exact (ih _).cons e

/-- Every entry gets one of the two verdicts. -/
theorem ruled_perm (looked : List (String × OpenBatch)) (memory : τ) :
    (ruled true meets looked memory ++ ruled false meets looked memory).Perm looked := by
  induction looked generalizing memory with
  | nil => exact List.Perm.refl _
  | cons e rest ih =>
    have hrest := ih (meets e.2 memory).2
    rw [ruled, ruled]
    cases (meets e.2 memory).1 with
    | true => exact hrest.cons e
    | false => exact List.perm_middle.trans (hrest.cons e)

/-- A condition whose verdicts do not hang on what it remembers divides entries by their batches. -/
theorem ruled_of_test {test : OpenBatch → Bool} (tests : ∀ b memory, (meets b memory).1 = test b)
    (looked : List (String × OpenBatch)) (memory : τ) :
    ruled true meets looked memory = (looked.filter fun (_, b) => test b) ∧
      ruled false meets looked memory = looked.filter fun (_, b) => !test b := by
  induction looked generalizing memory with
  | nil => exact ⟨rfl, rfl⟩
  | cons e rest ih =>
    obtain ⟨hdrawn, hkept⟩ := ih (meets e.2 memory).2
    rw [ruled, ruled, hdrawn, hkept, tests, List.filter_cons, List.filter_cons]
    cases htest : test e.2 with
    | true => simp [htest]
    | false => simp [htest]

end Verdicts

/-! ## Drawing -/

section Draw

variable (meets : Condition τ) (limit : Nat) (entries : List (String × OpenBatch)) (memory : τ)

/-- What is drawn was looked at and met the condition, what was looked at and did not is kept, and
so is what nobody looked at. Something may be left to look at only if enough was drawn. -/
theorem draw_eq : ∃ looked ahead, entries = looked ++ ahead ∧
    draw meets limit entries memory =
      ⟨ruled true meets looked memory, ruled false meets looked memory ++ ahead,
        recalled meets looked memory⟩ ∧
    ((ruled true meets looked memory).length < limit → ahead = []) := by
  induction entries generalizing limit memory with
  | nil =>
    refine ⟨[], [], rfl, ?_, fun _ => rfl⟩
    cases limit with
    | zero => rfl
    | succ limit => rfl
  | cons e rest ih =>
    cases limit with
    | zero => exact ⟨[], e :: rest, rfl, rfl, fun h => absurd h (Nat.not_lt_zero _)⟩
    | succ limit =>
      rcases hverdict : meets e.2 memory with ⟨verdict, later⟩
      cases verdict with
      | true =>
        obtain ⟨looked, ahead, rfl, hdraw, hend⟩ := ih limit later
        refine ⟨e :: looked, ahead, rfl, ?_, fun h => hend ?_⟩
        · rw [draw, hverdict]
          simp only [hdraw]
          simp [ruled, recalled, hverdict]
        · simpa [ruled, hverdict] using h
      | false =>
        obtain ⟨looked, ahead, rfl, hdraw, hend⟩ := ih (limit + 1) later
        refine ⟨e :: looked, ahead, rfl, ?_, fun h => hend ?_⟩
        · rw [draw, hverdict]
          simp only [hdraw]
          simp [ruled, recalled, hverdict]
        · simpa [ruled, hverdict] using h

theorem length_drawn_le : (draw meets limit entries memory).drawn.length ≤ limit := by
  induction entries generalizing limit memory with
  | nil =>
    cases limit with
    | zero => exact Nat.le_refl 0
    | succ limit => exact Nat.zero_le _
  | cons e rest ih =>
    cases limit with
    | zero => exact Nat.le_refl 0
    | succ limit =>
      rcases hverdict : meets e.2 memory with ⟨verdict, later⟩
      rw [draw, hverdict]
      cases verdict with
      | true => exact Nat.succ_le_succ (ih limit later)
      | false => exact ih (limit + 1) later

/-- Who may draw as many as there are looks at all of them. -/
theorem draw_of_enough (enough : entries.length ≤ limit) :
    draw meets limit entries memory =
      ⟨ruled true meets entries memory, ruled false meets entries memory,
        recalled meets entries memory⟩ := by
  obtain ⟨looked, ahead, rfl, hdraw, hend⟩ := draw_eq meets limit entries memory
  have hahead : ahead = [] := by
    by_cases hfew : (ruled true meets looked memory).length < limit
    · exact hend hfew
    · have hlooked : (ruled true meets looked memory).length ≤ looked.length :=
        (ruled_sublist true looked memory).length_le
      rw [List.length_append] at enough
      exact List.length_eq_zero_iff.1 (by omega)
  subst hahead
  rw [hdraw, List.append_nil, List.append_nil]

end Draw

theorem extractWith_of_enough (a : OpenBatches) (meets : Condition τ) {limit : Nat}
    (enough : a.size ≤ limit) (memory : τ) :
    a.extractWith meets limit memory =
      (closeAll (ruled true meets a.entries memory), recalled meets a.entries memory,
        ⟨ruled false meets a.entries memory⟩) := by
  rw [extractWith, draw_of_enough meets limit a.entries memory enough]

end EventBatching.OpenBatches
