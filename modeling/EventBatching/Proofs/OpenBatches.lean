import EventBatching.OpenBatches

/-!
# Open batches, key by key

No key has two open batches. So open batches can be described by what each key has: what every
operation does to the batch of a key is said here once, and nothing below looks at the list of
entries again.

* `OpenBatches.Distinct` says that no key has two batches; every operation keeps it.
* `OpenBatches.get?_push`, `OpenBatches.get?_erase` and `OpenBatches.get?_extractAll` tell the batch
  of a key after an operation.
* `Batch.itemsUnder` and `OpenBatches.itemsOf` are the payloads of a key, in closed batches and in
  its open one. Closing a batch moves them from one to the other and loses none
  (`OpenBatches.itemsOf_remove`, `OpenBatches.itemsOf_extractAll`, `OpenBatches.itemsOf_drain`).
* `OpenBatches.DueFrom` says that nothing is overdue before a time.
-/

namespace EventBatching

/-! ## The payloads of a key in closed batches -/

/-- The payloads that batches hold for a category, batch after batch. -/
def Batch.itemsUnder (key : String) (bs : List Batch) : List Payload :=
  (bs.filter fun b => b.category = key).flatMap (·.items)

@[simp] theorem Batch.itemsUnder_nil (key : String) : Batch.itemsUnder key [] = [] := rfl

@[simp] theorem Batch.itemsUnder_append (key : String) (bs bs' : List Batch) :
    Batch.itemsUnder key (bs ++ bs') = Batch.itemsUnder key bs ++ Batch.itemsUnder key bs' := by
  simp [Batch.itemsUnder]

theorem Batch.itemsUnder_cons (key : String) (b : Batch) (bs : List Batch) :
    Batch.itemsUnder key (b :: bs) =
      (if b.category = key then b.items else []) ++ Batch.itemsUnder key bs := by
  by_cases h : b.category = key
  · simp [Batch.itemsUnder, h]
  · simp [Batch.itemsUnder, h]

/-- Two steps are one: what is left open between them is handed over with the second or still open
after it, with whatever came with the second. -/
theorem Batch.itemsUnder_trans {key : String} {bs bs' : List Batch}
    {came opened stillOpen more : List Payload}
    (h : Batch.itemsUnder key bs ++ opened = came)
    (h' : Batch.itemsUnder key bs' ++ stillOpen = opened ++ more) :
    Batch.itemsUnder key (bs ++ bs') ++ stillOpen = came ++ more := by
  calc Batch.itemsUnder key (bs ++ bs') ++ stillOpen
      = Batch.itemsUnder key bs ++ (Batch.itemsUnder key bs' ++ stillOpen) := by
        rw [Batch.itemsUnder_append, List.append_assoc]
    _ = (Batch.itemsUnder key bs ++ opened) ++ more := by rw [h', List.append_assoc]
    _ = came ++ more := by rw [h]

namespace OpenBatches

/-! ## Entries -/

section Entries

variable {entries : List (String × OpenBatch)}

/-- The keys of entries. -/
abbrev entryKeys (entries : List (String × OpenBatch)) : List String := entries.map (·.1)

theorem lookup_entry (key k : String) (b : OpenBatch) (rest : List (String × OpenBatch)) :
    ((key, b) :: rest).lookup k = if k = key then some b else rest.lookup k := by
  rw [List.lookup_cons]
  by_cases h : k = key
  · rw [if_pos h, beq_iff_eq.2 h]
  · rw [if_neg h, beq_eq_false_iff_ne.2 h]

theorem lookup_eq_none_iff_notMem {key : String} :
    entries.lookup key = none ↔ key ∉ entryKeys entries := by
  induction entries with
  | nil => simp
  | cons e rest ih =>
    obtain ⟨k, b⟩ := e
    rw [lookup_entry, entryKeys, List.map_cons, List.mem_cons]
    by_cases h : key = k
    · simp [h]
    · rw [if_neg h, ih]
      simp [h]

theorem insertEntry_perm (key : String) (b : OpenBatch) (entries : List (String × OpenBatch)) :
    (insertEntry key b entries).Perm ((key, b) :: entries) := by
  induction entries with
  | nil => exact List.Perm.refl _
  | cons e rest ih =>
    obtain ⟨k, c⟩ := e
    rw [insertEntry]
    split
    · exact List.Perm.refl _
    · exact (ih.cons (k, c)).trans (List.Perm.swap _ _ _)

theorem lookup_insertEntry {key : String} (b : OpenBatch) (free : entries.lookup key = none)
    (k : String) :
    (insertEntry key b entries).lookup k = if k = key then some b else entries.lookup k := by
  induction entries with
  | nil => exact lookup_entry key k b []
  | cons e rest ih =>
    obtain ⟨k', c⟩ := e
    rw [lookup_entry] at free
    obtain ⟨hne, hrest⟩ : key ≠ k' ∧ rest.lookup key = none := by
      by_cases h : key = k'
      · rw [if_pos h] at free
        exact absurd free (by simp)
      · exact ⟨h, by rwa [if_neg h] at free⟩
    rw [insertEntry]
    split
    · exact lookup_entry key k b _
    · rw [lookup_entry, lookup_entry, ih hrest]
      by_cases hk : k = k'
      · rw [if_pos hk, if_neg (by rw [hk]; exact Ne.symm hne), if_pos hk]
      · rw [if_neg hk, if_neg hk]

theorem lookup_modify (key : String) (change : OpenBatch → OpenBatch) (k : String) :
    (entries.map fun (k, b) => if k = key then (k, change b) else (k, b)).lookup k =
      if k = key then (entries.lookup k).map change else entries.lookup k := by
  induction entries with
  | nil => simp
  | cons e rest ih =>
    obtain ⟨k', b⟩ := e
    have hhead : (match (k', b) with | (k, b) => if k = key then (k, change b) else (k, b)) =
        (k', if k' = key then change b else b) := by
      by_cases h : k' = key <;> simp [h]
    rw [List.map_cons, hhead, lookup_entry, ih, lookup_entry]
    by_cases hk : k = k'
    · subst hk
      by_cases hkey : k = key <;> simp [hkey]
    · rw [if_neg hk, if_neg hk]

theorem lookup_eraseEntries (key k : String) :
    (entries.filter fun (k, _) => k ≠ key).lookup k =
      if k = key then none else entries.lookup k := by
  induction entries with
  | nil => simp
  | cons e rest ih =>
    obtain ⟨k', b⟩ := e
    rw [List.filter_cons, lookup_entry]
    by_cases hkey : k' = key
    · rw [if_neg (by simpa using hkey), ih]
      by_cases hk : k = key
      · rw [if_pos hk, if_pos hk]
      · rw [if_neg hk, if_neg hk, if_neg (by rwa [hkey])]
    · rw [if_pos (by simpa using hkey), lookup_entry, ih]
      by_cases hk : k = k'
      · rw [if_pos hk, if_neg (by rwa [hk]), if_pos hk]
      · rw [if_neg hk, if_neg hk]

/-- Where no key comes twice, an entry that is left out uncovers no other. -/
theorem lookup_filter (distinct : (entryKeys entries).Nodup) (meets : OpenBatch → Bool)
    (k : String) :
    (entries.filter fun (_, b) => meets b).lookup k = (entries.lookup k).filter meets := by
  induction entries with
  | nil => rfl
  | cons e rest ih =>
    obtain ⟨k', b⟩ := e
    obtain ⟨hk', hrest⟩ := List.nodup_cons.1 distinct
    have hfree : rest.lookup k' = none := lookup_eq_none_iff_notMem.2 hk'
    rw [List.filter_cons, lookup_entry]
    by_cases hm : meets b = true
    · rw [if_pos hm, lookup_entry, ih hrest]
      by_cases hk : k = k'
      · rw [if_pos hk, if_pos hk, Option.filter_some_pos hm]
      · rw [if_neg hk, if_neg hk]
    · rw [if_neg hm, ih hrest]
      by_cases hk : k = k'
      · rw [if_pos hk, hk, hfree, Option.filter_some_neg (by simpa using hm)]
        rfl
      · rw [if_neg hk]

/-- The closed batches of entries hold for a key what its entry held. -/
theorem itemsUnder_closeAll (distinct : (entryKeys entries).Nodup) (key : String) :
    Batch.itemsUnder key (closeAll entries) =
      ((entries.lookup key).map (·.items.toList)).getD [] := by
  induction entries with
  | nil => rfl
  | cons e rest ih =>
    obtain ⟨k, b⟩ := e
    obtain ⟨hk, hrest⟩ := List.nodup_cons.1 distinct
    have hstep : closeAll ((k, b) :: rest) = b.close k :: closeAll rest := rfl
    rw [hstep, Batch.itemsUnder_cons, ih hrest, lookup_entry]
    by_cases hkey : k = key
    · subst hkey
      rw [lookup_eq_none_iff_notMem.2 hk]
      simp [OpenBatch.close]
    · rw [if_neg (Ne.symm hkey)]
      simp [OpenBatch.close, hkey]

end Entries

/-! ## At most one batch a key -/

/-- No key has two open batches. -/
def Distinct (a : OpenBatches) : Prop := a.keys.Nodup

theorem distinct_empty : Distinct empty := List.nodup_nil

theorem Distinct.touch {a : OpenBatches} (h : a.Distinct) (key : String) (deadline : Nat) :
    (a.touch key deadline).Distinct := by
  rw [OpenBatches.touch]
  split
  · exact h
  · next hkey =>
    have hfree : key ∉ a.keys :=
      lookup_eq_none_iff_notMem.1 (Option.not_isSome_iff_eq_none.1 hkey)
    have hperm := (insertEntry_perm key ⟨.empty, deadline⟩ a.entries).map (·.1)
    exact hperm.nodup_iff.2 (List.nodup_cons.2 ⟨hfree, h⟩)

theorem keys_modify (a : OpenBatches) (key : String) (change : OpenBatch → OpenBatch) :
    (a.modify key change).keys = a.keys := by
  rw [keys, keys, modify, List.map_map]
  refine List.map_congr_left fun e _ => ?_
  obtain ⟨k, b⟩ := e
  by_cases h : k = key <;> simp [h]

theorem Distinct.push {a : OpenBatches} (h : a.Distinct) (key : String) (deadline : Nat)
    (p : Payload) : (a.push key deadline p).Distinct := by
  rw [Distinct, OpenBatches.push, keys_modify]
  exact h.touch key deadline

theorem Distinct.filter {a : OpenBatches} (h : a.Distinct) (keep : String × OpenBatch → Bool) :
    Distinct ⟨a.entries.filter keep⟩ :=
  List.Nodup.sublist (List.filter_sublist.map _) h

theorem Distinct.erase {a : OpenBatches} (h : a.Distinct) (key : String) :
    (a.erase key).Distinct := h.filter _

theorem Distinct.extractAll {a : OpenBatches} (h : a.Distinct) (meets : OpenBatch → Bool) :
    (a.extractAll meets).2.Distinct := h.filter _

/-! ## The batch of a key -/

/-- Where no key has two batches, an entry is the one of its key. -/
theorem Distinct.get?_of_mem {a : OpenBatches} (h : a.Distinct) {e : String × OpenBatch}
    (he : e ∈ a.entries) : a.get? e.1 = some e.2 := by
  obtain ⟨before, after, hentries⟩ := List.append_of_mem he
  rw [Distinct, keys, hentries, List.map_append, List.nodup_append] at h
  obtain ⟨-, -, hbefore⟩ := h
  refine List.lookup_eq_some_iff.2 ⟨before, after, hentries, fun p hp => ?_⟩
  have hne : p.1 ≠ e.1 := hbefore p.1 (List.mem_map_of_mem hp) e.1 (by simp)
  simpa using Ne.symm hne

theorem mem_of_get? {a : OpenBatches} {key : String} {b : OpenBatch}
    (found : a.get? key = some b) : (key, b) ∈ a.entries := by
  obtain ⟨before, after, hentries, -⟩ := List.lookup_eq_some_iff.1 found
  rw [hentries]
  simp

theorem Distinct.get?_eq_some_iff {a : OpenBatches} (h : a.Distinct) {key : String}
    {b : OpenBatch} : a.get? key = some b ↔ (key, b) ∈ a.entries :=
  ⟨mem_of_get?, fun he => h.get?_of_mem he⟩

theorem get?_touch (a : OpenBatches) (key : String) (deadline : Nat) (k : String) :
    (a.touch key deadline).get? k =
      if k = key then some ((a.get? key).getD ⟨.empty, deadline⟩) else a.get? k := by
  rw [touch]
  split
  · next h =>
    obtain ⟨b, hb⟩ := Option.isSome_iff_exists.1 h
    by_cases hk : k = key <;> simp [hk, hb]
  · next h =>
    have hnone : a.get? key = none := Option.not_isSome_iff_eq_none.1 h
    rw [hnone]
    exact lookup_insertEntry _ hnone k

/-- A payload goes to the batch of its key, which is opened if need be. -/
theorem get?_push (a : OpenBatches) (key : String) (deadline : Nat) (p : Payload) (k : String) :
    (a.push key deadline p).get? k =
      if k = key then some (((a.get? key).getD ⟨.empty, deadline⟩).push p) else a.get? k := by
  have hmodified : (a.push key deadline p).get? k =
      if k = key then ((a.touch key deadline).get? k).map (·.push p)
      else (a.touch key deadline).get? k := lookup_modify key (·.push p) k
  rw [hmodified, get?_touch]
  by_cases hk : k = key
  · rw [if_pos hk, if_pos hk, if_pos hk]
    rfl
  · rw [if_neg hk, if_neg hk, if_neg hk]

@[simp] theorem get?_erase (a : OpenBatches) (key k : String) :
    (a.erase key).get? k = if k = key then none else a.get? k := lookup_eraseEntries key k

theorem get?_extractAll {a : OpenBatches} (h : a.Distinct) (meets : OpenBatch → Bool)
    (k : String) : (a.extractAll meets).2.get? k = (a.get? k).filter (!meets ·) :=
  lookup_filter h (!meets ·) k

/-! ## The payloads of a key in its open batch -/

/-- The payloads that wait under a key. -/
def itemsOf (a : OpenBatches) (key : String) : List Payload :=
  ((a.get? key).map (·.items.toList)).getD []

@[simp] theorem itemsOf_empty (key : String) : empty.itemsOf key = [] := rfl

theorem itemsOf_push (a : OpenBatches) (key : String) (deadline : Nat) (p : Payload) (k : String) :
    (a.push key deadline p).itemsOf k = a.itemsOf k ++ if key = k then [p] else [] := by
  rw [itemsOf, get?_push]
  by_cases hk : k = key
  · subst hk
    rw [itemsOf]
    cases h : a.get? k with
    | none => simp [OpenBatch.push]
    | some b => simp [OpenBatch.push]
  · simp [itemsOf, hk, Ne.symm hk]

/-- What the batch of a key held is in the batch that it is closed to. -/
theorem itemsOf_remove (a : OpenBatches) (key k : String) :
    Batch.itemsUnder k (a.remove key).1.toList ++ (a.remove key).2.itemsOf k = a.itemsOf k := by
  rw [remove, itemsOf, get?_erase, itemsOf]
  by_cases hk : k = key
  · subst hk
    cases h : a.get? k with
    | none => simp
    | some b => simp [Batch.itemsUnder, OpenBatch.close]
  · cases h : a.get? key with
    | none => simp [hk]
    | some b => simp [Batch.itemsUnder, OpenBatch.close, hk, Ne.symm hk]

/-- What open batches held is in the batches that some of them are closed to, or still open. -/
theorem itemsOf_extractAll {a : OpenBatches} (h : a.Distinct) (meets : OpenBatch → Bool)
    (k : String) :
    Batch.itemsUnder k (a.extractAll meets).1 ++ (a.extractAll meets).2.itemsOf k =
      a.itemsOf k := by
  have hclosed : Batch.itemsUnder k (a.extractAll meets).1 =
      (((a.get? k).filter meets).map (·.items.toList)).getD [] := by
    rw [extractAll, itemsUnder_closeAll (h.filter _), lookup_filter h]
    rfl
  rw [hclosed, itemsOf, get?_extractAll h, itemsOf]
  cases a.get? k with
  | none => rfl
  | some b => by_cases hm : meets b <;> simp [Option.filter, hm]

theorem itemsOf_drain {a : OpenBatches} (h : a.Distinct) (k : String) :
    Batch.itemsUnder k a.drain.1 = a.itemsOf k := itemsUnder_closeAll h k

/-! ## Deadlines -/

/-- No open batch has a deadline before a time. -/
def DueFrom (a : OpenBatches) (t : Nat) : Prop := ∀ e ∈ a.entries, t ≤ e.2.deadline

theorem dueFrom_empty (t : Nat) : empty.DueFrom t := fun _ h => absurd h List.not_mem_nil

theorem DueFrom.mono {a : OpenBatches} {t t' : Nat} (h : a.DueFrom t) (hle : t' ≤ t) :
    a.DueFrom t' := fun e he => Nat.le_trans hle (h e he)

theorem DueFrom.get? {a : OpenBatches} {t : Nat} (h : a.DueFrom t) {key : String} {b : OpenBatch}
    (found : a.get? key = some b) : t ≤ b.deadline := h (key, b) (mem_of_get? found)

theorem DueFrom.filter {a : OpenBatches} {t : Nat} (h : a.DueFrom t)
    (keep : String × OpenBatch → Bool) : DueFrom ⟨a.entries.filter keep⟩ t :=
  fun e he => h e (List.mem_filter.1 he).1

/-- A record never moves a deadline, and opens a batch only if its key has none. -/
theorem deadline_of_mem_push {a : OpenBatches} {key : String} {deadline : Nat} {p : Payload}
    {e : String × OpenBatch} (he : e ∈ (a.push key deadline p).entries) :
    e.2.deadline = deadline ∨ ∃ before ∈ a.entries, before.2.deadline = e.2.deadline := by
  obtain ⟨⟨k, b⟩, hb, rfl⟩ := List.mem_map.1 he
  have hsame : (if k = key then (k, b.push p) else (k, b)).2.deadline = b.deadline := by
    by_cases hk : k = key
    · rw [if_pos hk]
      rfl
    · rw [if_neg hk]
  show (if k = key then (k, b.push p) else (k, b)).2.deadline = deadline ∨ ∃ before ∈ a.entries,
    before.2.deadline = (if k = key then (k, b.push p) else (k, b)).2.deadline
  rw [hsame]
  rw [touch] at hb
  split at hb
  · exact .inr ⟨(k, b), hb, rfl⟩
  · rcases List.mem_cons.1 ((insertEntry_perm ..).mem_iff.1 hb) with hopened | hb
    · rw [(Prod.mk.inj hopened).2]
      exact .inl rfl
    · exact .inr ⟨(k, b), hb, rfl⟩

theorem DueFrom.push {a : OpenBatches} {t : Nat} (h : a.DueFrom t) (key : String)
    {deadline : Nat} (hle : t ≤ deadline) (p : Payload) : (a.push key deadline p).DueFrom t := by
  intro e he
  rcases deadline_of_mem_push he with hopened | ⟨before, hbefore, hsame⟩
  · rwa [hopened]
  · rw [← hsame]
    exact h before hbefore

theorem dueFrom_extractAll (a : OpenBatches) (t : Nat) :
    (a.extractAll fun b => b.deadline < t).2.DueFrom t := by
  intro e he
  have hkept := (List.mem_filter.1 he).2
  simpa using hkept

/-- Where nothing is overdue, nothing is closed for it. -/
theorem extractAll_of_dueFrom {a : OpenBatches} {t : Nat} (h : a.DueFrom t) :
    (a.extractAll fun b => b.deadline < t) = ([], a) := by
  have hnone : (a.entries.filter fun (_, b) => decide (b.deadline < t)) = [] := by
    rw [List.filter_eq_nil_iff]
    intro e he
    simpa using h e he
  have hall : (a.entries.filter fun (_, b) => !decide (b.deadline < t)) = a.entries := by
    rw [List.filter_eq_self]
    intro e he
    simpa using h e he
  rw [extractAll, hnone, hall]
  rfl

end OpenBatches

end EventBatching
