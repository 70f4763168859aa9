import EventBatching.Proofs.OpenBatches.Drawing
import Mathlib.Data.List.DropRight

/-!
# Open batches as a map

Open batches are a map from keys to batches, and nobody who uses them can tell in which order they
are kept. So whatever is done with them, and in whatever order they come up each time, what is open
for a key follows from what was done: its payloads are those that came since its batch was last
taken away. Two ways to take batches away are opposites of each other when they are broken off:
drawing takes away only what was drawn, and draining takes away everything.

* `OpenBatches.Act` is what can be done, and `OpenBatches.Chronicle` what was done together with
  what came of it, with the entries in any `OpenBatches.Order` each time.
* `OpenBatches.heldOf` tells from the events alone what is open for a key.
* `OpenBatches.Right` says what an act has to reply and to leave behind; `OpenBatches.Extracted` and
  `OpenBatches.Drained` are the parts of it about drawing and draining.
* `OpenBatches.run_map` is what holds after everything that can be done.
-/

namespace EventBatching.OpenBatches

/-! ## Acts -/

/-- What can be done with open batches. -/
inductive Act : Type 1 where
  /-- A batch is opened for a key if there is none. -/
  | touch (key : String) (deadline : Nat)
  /-- A payload is put into the batch of its key, which is opened if there is none. -/
  | push (key : String) (deadline : Nat) (p : Payload)
  /-- The batch of a key is looked at. -/
  | get (key : String)
  /-- The batch of a key is taken away. -/
  | remove (key : String)
  /-- Batches that meet a condition are drawn, at most so many. -/
  | extract {τ : Type} (meets : Condition τ) (memory : τ) (limit : Nat)
  /-- The batches are drained, and so many of them are taken. -/
  | drain (taken : Nat)
  /-- All batches are dropped. -/
  | clear

/-- What an act gives back. -/
inductive Reply where
  /-- A batch, if there is one. -/
  | shown (b : Option OpenBatch)
  /-- The number of payloads that wait for a key. -/
  | size (n : Nat)
  /-- Closed batches. -/
  | closed (bs : List Batch)
  /-- Nothing. -/
  | nothing

/-- Does what there is to do. -/
def perform (a : OpenBatches) : Act → Reply × OpenBatches
  | .touch key deadline => (.shown ((a.touch key deadline).get? key), a.touch key deadline)
  | .push key deadline p => (.size ((a.push key deadline p).sizeOf key), a.push key deadline p)
  | .get key => (.shown (a.get? key), a)
  | .remove key => (.closed (a.remove key).1.toList, (a.remove key).2)
  | .extract meets memory limit =>
    let (bs, _, rest) := a.extractWith meets limit memory
    (.closed bs, rest)
  | .drain taken => (.closed (a.drain.1.take taken), a.drain.2)
  | .clear => (.nothing, .empty)

/-- Something that was done, with what it gave back. -/
abbrev Event := Act × Reply

/-- Open batches, and what was done with them. -/
structure Chronicle where
  /-- The open batches. -/
  batches : OpenBatches := .empty
  /-- What was done, the last at the end. -/
  events : List Event := []

/-- One more thing is done, for which the entries come up in an order. -/
def Chronicle.step (c : Chronicle) (order : Order) (act : Act) : Chronicle :=
  let (reply, after) := (c.batches.inOrder order).perform act
  ⟨after, c.events ++ [(act, reply)]⟩

/-- One thing is done after another. -/
def Chronicle.run (deeds : List (Order × Act)) (c : Chronicle) : Chronicle :=
  deeds.foldl (fun c deed => c.step deed.1 deed.2) c

/-! ## What is open, by the events alone -/

/-- Whether an event takes the batch of a key away. -/
def removes (key : String) : Event → Bool
  | (.remove k, _) => k == key
  | (.extract _ _ _, .closed bs) => bs.any (·.category == key)
  | (.drain _, _) => true
  | (.clear, _) => true
  | _ => false

/-- What an event brings for a key: the deadline for a batch that is opened, and the payload if
there is one. -/
def brings (key : String) : Event → Option (Nat × Option Payload)
  | (.touch k deadline, _) => if k = key then some (deadline, none) else none
  | (.push k deadline p, _) => if k = key then some (deadline, some p) else none
  | _ => none

/-- What came for a key since its batch was last taken away. -/
def broughtSince (key : String) (events : List Event) : List (Nat × Option Payload) :=
  (events.rtakeWhile fun e => !removes key e).filterMap (brings key)

/-- What is open for a key: the payloads that came since its batch was last taken away, in their
order, with the deadline that was given with the first that came. -/
def heldOf (key : String) (events : List Event) : Option (List Payload × Nat) :=
  (broughtSince key events).head?.map fun first =>
    ((broughtSince key events).filterMap (·.2), first.1)

section HeldOf

variable {key : String} {events : List Event} {e : Event}

theorem heldOf_of_removes (h : removes key e = true) : heldOf key (events ++ [e]) = none := by
  have hnone : broughtSince key (events ++ [e]) = [] := by
    rw [broughtSince, List.rtakeWhile_concat, h]
    rfl
  rw [heldOf, hnone]
  rfl

theorem broughtSince_concat (h : removes key e = false) :
    broughtSince key (events ++ [e]) = broughtSince key events ++ (brings key e).toList := by
  have hlonger : (events ++ [e]).rtakeWhile (fun e => !removes key e) =
      (events.rtakeWhile fun e => !removes key e) ++ [e] := by
    rw [List.rtakeWhile_concat, h]
    rfl
  rw [broughtSince, hlonger, List.filterMap_append, broughtSince]
  cases hbrings : brings key e with
  | none => simp [hbrings]
  | some brought => simp [hbrings]

theorem heldOf_of_brings_none (h : removes key e = false) (nothing : brings key e = none) :
    heldOf key (events ++ [e]) = heldOf key events := by
  have hsame : broughtSince key (events ++ [e]) = broughtSince key events := by
    rw [broughtSince_concat h, nothing, Option.toList_none, List.append_nil]
  rw [heldOf, heldOf, hsame]

/-- What comes first opens a batch, and what comes later joins it. -/
theorem heldOf_of_brings (h : removes key e = false) {deadline : Nat} {p : Option Payload}
    (some_eq : brings key e = some (deadline, p)) :
    heldOf key (events ++ [e]) =
      some (((heldOf key events).getD ([], deadline)).1 ++ p.toList,
        ((heldOf key events).getD ([], deadline)).2) := by
  have hmore : broughtSince key (events ++ [e]) =
      broughtSince key events ++ [(deadline, p)] := by
    rw [broughtSince_concat h, some_eq, Option.toList_some]
  rw [heldOf, heldOf, hmore]
  cases hsince : broughtSince key events with
  | nil =>
    cases p with
    | none => rfl
    | some p => rfl
  | cons first more =>
    have hpayloads : ([(deadline, p)] : List (Nat × Option Payload)).filterMap (·.2) =
        p.toList := by
      cases p with
      | none => rfl
      | some p => rfl
    rw [List.filterMap_append, hpayloads]
    rfl

end HeldOf

/-! ## What acts have to do -/

/-- What drawing has to give, and what it has to leave of a map. -/
structure Extracted {τ : Type} (before : String → Option OpenBatch) (meets : Condition τ)
    (memory : τ) (limit : Nat) (bs : List Batch) (after : String → Option OpenBatch) : Prop where
  /-- There are not too many. -/
  le_limit : bs.length ≤ limit
  /-- No key has two of them. -/
  distinct : (bs.map (·.category)).Nodup
  /-- Each was open, with these payloads. -/
  stood : ∀ batch ∈ bs, ∃ o, before batch.category = some o ∧ batch = o.close batch.category
  /-- Each is open no more. -/
  gone : ∀ batch ∈ bs, after batch.category = none
  /-- All others are left as they were. -/
  kept : ∀ key, (∀ batch ∈ bs, batch.category ≠ key) → after key = before key
  /-- Open batches were looked at, none of them twice, and those were drawn that the condition asked
  for after what it had seen so far. If there were too few of them, all were looked at. -/
  looked : ∃ looked : List (String × OpenBatch), (entryKeys looked).Nodup ∧
    (∀ e ∈ looked, before e.1 = some e.2) ∧ bs = closeAll (ruled true meets looked memory) ∧
    (bs.length < limit → ∀ key o, before key = some o → (key, o) ∈ looked)
  /-- A condition that only tests a batch is met by what was drawn, and if there was too little of
  that, by nothing that is left. -/
  tested : ∀ test : OpenBatch → Bool, (∀ o memory, (meets o memory).1 = test o) →
    (∀ batch ∈ bs, ∃ o, before batch.category = some o ∧ test o = true) ∧
    (bs.length < limit → ∀ key o, after key = some o → test o = false)

/-- What draining has to give, and what it has to leave of a map. -/
structure Drained (before : String → Option OpenBatch) (taken : Nat) (bs : List Batch)
    (after : String → Option OpenBatch) : Prop where
  /-- All that was open came up, and so much of it was taken. -/
  shown : ∃ shown : List (String × OpenBatch), (entryKeys shown).Nodup ∧
    (∀ key o, before key = some o ↔ (key, o) ∈ shown) ∧ bs = (closeAll shown).take taken
  /-- Nothing is left, whatever was taken. -/
  gone : ∀ key, after key = none

/-- What an act has to reply, and what it has to leave of a map. -/
def Right (before : String → Option OpenBatch) :
    Act → Reply → (after : String → Option OpenBatch) → Prop
  | .touch key deadline, .shown o, after =>
    o = some ((before key).getD ⟨.empty, deadline⟩) ∧
      ∀ k, after k = if k = key then o else before k
  | .push key deadline p, .size n, after =>
    n = (((before key).getD ⟨.empty, deadline⟩).push p).size ∧
      ∀ k, after k =
        if k = key then some (((before key).getD ⟨.empty, deadline⟩).push p) else before k
  | .get key, .shown o, after => o = before key ∧ ∀ k, after k = before k
  | .remove key, .closed bs, after =>
    bs = ((before key).map (·.close key)).toList ∧
      ∀ k, after k = if k = key then none else before k
  | .extract meets memory limit, .closed bs, after =>
    Extracted before meets memory limit bs after
  | .drain taken, .closed bs, after => Drained before taken bs after
  | .clear, .nothing, after => ∀ k, after k = none
  | _, _, _ => False

/-! ## Entries that are parted -/

theorem closeAll_categories (entries : List (String × OpenBatch)) :
    (closeAll entries).map (·.category) = entryKeys entries := by
  rw [closeAll, List.map_map]
  rfl

theorem mem_closeAll {entries : List (String × OpenBatch)} {batch : Batch} :
    batch ∈ closeAll entries ↔ ∃ e ∈ entries, e.2.close e.1 = batch := List.mem_map

section Parted

variable {a : OpenBatches} {drawn kept : List (String × OpenBatch)}

/-- What is drawn and what is kept have no key in common. -/
theorem Distinct.parted (h : a.Distinct) (parted : (drawn ++ kept).Perm a.entries) :
    (entryKeys drawn).Nodup ∧ Distinct ⟨kept⟩ ∧ ∀ e ∈ drawn, e.1 ∉ entryKeys kept := by
  have hkeys : (entryKeys drawn ++ entryKeys kept).Nodup := by
    rw [← List.map_append]
    exact (parted.map Prod.fst).nodup_iff.2 h
  obtain ⟨hdrawn, hkept, hapart⟩ := List.nodup_append.1 hkeys
  exact ⟨hdrawn, hkept, fun e he hmem => hapart e.1 (List.mem_map_of_mem he) e.1 hmem rfl⟩

theorem Distinct.get?_drawn (h : a.Distinct) (parted : (drawn ++ kept).Perm a.entries)
    {e : String × OpenBatch} (he : e ∈ drawn) :
    a.get? e.1 = some e.2 ∧ get? ⟨kept⟩ e.1 = none :=
  ⟨h.get?_of_mem (parted.mem_iff.1 (List.mem_append_left kept he)),
    lookup_eq_none_iff_notMem.2 ((h.parted parted).2.2 e he)⟩

theorem Distinct.get?_kept (h : a.Distinct) (parted : (drawn ++ kept).Perm a.entries)
    {key : String} (other : key ∉ entryKeys drawn) : get? ⟨kept⟩ key = a.get? key := by
  refine Option.ext fun o => ?_
  rw [(h.parted parted).2.1.get?_eq_some_iff, h.get?_eq_some_iff, ← parted.mem_iff,
    List.mem_append]
  refine ⟨.inr, fun hmem => hmem.resolve_left fun hdrawn => other ?_⟩
  exact List.mem_map_of_mem (f := (·.1)) hdrawn

end Parted

/-! ## Every act does what it has to -/

section Acts

variable {a : OpenBatches}

theorem draw_parted {τ : Type} (meets : Condition τ) (limit : Nat)
    (entries : List (String × OpenBatch)) (memory : τ) :
    ((draw meets limit entries memory).drawn ++ (draw meets limit entries memory).kept).Perm
      entries := by
  obtain ⟨looked, ahead, hentries, hdraw, -⟩ := draw_eq meets limit entries memory
  rw [hdraw, hentries, ← List.append_assoc]
  exact (ruled_perm looked memory).append_right ahead

theorem extracted_draw {τ : Type} (h : a.Distinct) (meets : Condition τ) (memory : τ)
    (limit : Nat) :
    Extracted a.get? meets memory limit (closeAll (draw meets limit a.entries memory).drawn)
      (get? ⟨(draw meets limit a.entries memory).kept⟩) := by
  have hparted := draw_parted meets limit a.entries memory
  obtain ⟨looked, ahead, hentries, hdraw, hend⟩ := draw_eq meets limit a.entries memory
  have hlooked : ∀ e ∈ looked, a.get? e.1 = some e.2 := fun e he =>
    h.get?_of_mem (hentries ▸ List.mem_append_left ahead he)
  constructor
  case le_limit =>
    rw [closeAll, List.length_map]
    exact length_drawn_le meets limit a.entries memory
  case distinct =>
    rw [closeAll_categories]
    exact (h.parted hparted).1
  case stood =>
    intro batch hbatch
    obtain ⟨e, he, rfl⟩ := mem_closeAll.1 hbatch
    exact ⟨e.2, (h.get?_drawn hparted he).1, rfl⟩
  case gone =>
    intro batch hbatch
    obtain ⟨e, he, rfl⟩ := mem_closeAll.1 hbatch
    exact (h.get?_drawn hparted he).2
  case kept =>
    intro key hother
    refine h.get?_kept hparted fun hkey => ?_
    rw [← closeAll_categories] at hkey
    obtain ⟨batch, hbatch, hcategory⟩ := List.mem_map.1 hkey
    exact hother batch hbatch hcategory
  case looked =>
    rw [hdraw]
    refine ⟨looked, ?_, hlooked, rfl, fun hfew key o ho => ?_⟩
    · rw [Distinct, keys, hentries, List.map_append] at h
      exact (List.nodup_append.1 h).1
    · have hmem := mem_of_get? ho
      rw [closeAll, List.length_map] at hfew
      rwa [hentries, hend hfew, List.append_nil] at hmem
  case tested =>
    intro test tests
    obtain ⟨htrue, hfalse⟩ := ruled_of_test tests looked memory
    rw [hdraw, htrue, hfalse]
    refine ⟨fun batch hbatch => ?_, fun hfew key o hleft => ?_⟩
    · obtain ⟨e, he, rfl⟩ := mem_closeAll.1 hbatch
      obtain ⟨he, hmeets⟩ := List.mem_filter.1 he
      exact ⟨e.2, hlooked e he, hmeets⟩
    · have hmem := mem_of_get? hleft
      rw [closeAll, List.length_map, ← htrue] at hfew
      rw [hend hfew, List.append_nil] at hmem
      simpa using (List.mem_filter.1 hmem).2

/-- No act leaves two batches for a key. -/
theorem Distinct.perform (h : a.Distinct) (act : Act) : (a.perform act).2.Distinct := by
  cases act with
  | touch key deadline => exact h.touch key deadline
  | push key deadline p => exact h.push key deadline p
  | get key => exact h
  | remove key => exact h.erase key
  | extract meets memory limit =>
    exact (h.parted (draw_parted meets limit a.entries memory)).2.1
  | drain taken => exact distinct_empty
  | clear => exact distinct_empty

/-- Every act does what it has to. -/
theorem right_perform (h : a.Distinct) (act : Act) :
    Right a.get? act (a.perform act).1 (a.perform act).2.get? := by
  cases act with
  | touch key deadline =>
    have hopened : (a.touch key deadline).get? key =
        some ((a.get? key).getD ⟨.empty, deadline⟩) := by rw [get?_touch, if_pos rfl]
    refine ⟨hopened, fun k => ?_⟩
    rw [hopened]
    exact get?_touch a key deadline k
  | push key deadline p =>
    refine ⟨?_, get?_push a key deadline p⟩
    rw [sizeOf, get?_push, if_pos rfl]
    rfl
  | get key => exact ⟨rfl, fun k => rfl⟩
  | remove key => exact ⟨rfl, get?_erase a key⟩
  | extract meets memory limit => exact extracted_draw h meets memory limit
  | drain taken => exact ⟨⟨a.entries, h, fun key o => h.get?_eq_some_iff, rfl⟩, fun key => rfl⟩
  | clear => exact fun k => rfl

/-- The order in which the entries come up makes no difference to that. -/
theorem right_inOrder (h : a.Distinct) (order : Order) (act : Act) :
    Right a.get? act ((a.inOrder order).perform act).1 ((a.inOrder order).perform act).2.get? := by
  rw [← h.get?_inOrder order]
  exact right_perform (h.inOrder order) act

end Acts

/-! ## What is open follows from what was done -/

/-- The payloads of a batch, and when it is due. -/
def content (o : OpenBatch) : List Payload × Nat := (o.items.toList, o.deadline)

/-- One thing more is done: what is open before and after it fits what was done before and
after. -/
theorem heldOf_step {before after : String → Option OpenBatch} {act : Act} {reply : Reply}
    (right : Right before act reply after) {events : List Event} {key : String}
    (held : (before key).map content = heldOf key events) :
    (after key).map content = heldOf key (events ++ [(act, reply)]) := by
  match act, reply, right with
  | .touch k deadline, .shown o, right =>
    obtain ⟨rfl, hafter⟩ := right
    rw [hafter]
    by_cases hkey : key = k
    · subst hkey
      rw [if_pos rfl, heldOf_of_brings rfl (by rw [brings, if_pos rfl]), ← held]
      cases before key with
      | none => rfl
      | some o => simp [content]
    · rw [if_neg hkey, heldOf_of_brings_none rfl (by rw [brings, if_neg (Ne.symm hkey)]), held]
  | .push k deadline p, .size n, right =>
    obtain ⟨-, hafter⟩ := right
    rw [hafter]
    by_cases hkey : key = k
    · subst hkey
      rw [if_pos rfl, heldOf_of_brings rfl (by rw [brings, if_pos rfl]), ← held]
      cases before key with
      | none => simp [content, OpenBatch.push]
      | some o => simp [content, OpenBatch.push]
    · rw [if_neg hkey, heldOf_of_brings_none rfl (by rw [brings, if_neg (Ne.symm hkey)]), held]
  | .get k, .shown o, right =>
    rw [right.2, heldOf_of_brings_none rfl rfl, held]
  | .remove k, .closed bs, right =>
    rw [right.2]
    by_cases hkey : key = k
    · rw [if_pos hkey, heldOf_of_removes (by simp [removes, hkey])]
      rfl
    · rw [if_neg hkey, heldOf_of_brings_none (by simpa [removes] using Ne.symm hkey) rfl, held]
  | .extract meets memory limit, .closed bs, right =>
    by_cases hdrawn : ∃ batch ∈ bs, batch.category = key
    · obtain ⟨batch, hbatch, rfl⟩ := hdrawn
      rw [right.gone batch hbatch, heldOf_of_removes]
      · rfl
      · simpa [removes] using ⟨batch, hbatch, rfl⟩
    · have hother : ∀ batch ∈ bs, batch.category ≠ key := fun batch hbatch h =>
        hdrawn ⟨batch, hbatch, h⟩
      rw [right.kept key hother, heldOf_of_brings_none (by simpa [removes] using hother) rfl, held]
  | .drain taken, .closed bs, right =>
    rw [right.gone, heldOf_of_removes rfl]
    rfl
  | .clear, .nothing, right =>
    rw [right key, heldOf_of_removes rfl]
    rfl

namespace Chronicle

/-- What is open for every key is what the events say. -/
structure Faithful (c : Chronicle) : Prop where
  /-- No key has two open batches. -/
  distinct : c.batches.Distinct
  /-- Every batch is right. -/
  held : ∀ key, (c.batches.get? key).map content = heldOf key c.events

theorem Faithful.step {c : Chronicle} (faithful : c.Faithful) (order : Order) (act : Act) :
    (c.step order act).Faithful where
  distinct := (faithful.distinct.inOrder order).perform act
  held key := heldOf_step (right_inOrder faithful.distinct order act) (faithful.held key)

theorem Faithful.run {c : Chronicle} (faithful : c.Faithful) (deeds : List (Order × Act)) :
    (c.run deeds).Faithful := by
  induction deeds generalizing c with
  | nil => exact faithful
  | cons deed rest ih => exact ih (faithful.step deed.1 deed.2)

theorem run_acts (deeds : List (Order × Act)) (c : Chronicle) :
    (c.run deeds).events.map (·.1) = c.events.map (·.1) ++ deeds.map (·.2) := by
  induction deeds generalizing c with
  | nil => exact (List.append_nil _).symm
  | cons deed rest ih =>
    have hrest := ih (c.step deed.1 deed.2)
    rw [step, List.map_append, List.append_assoc] at hrest
    exact hrest

/-- **Open batches are a map.** Let there be done to them whatever can be done, and let the entries
come up in any order each time. Then no key ever has two batches; what is open for a key are the
payloads that came since its batch was last taken away, in their order, with the deadline given when
it was opened; and whatever is done next does to the map what it has to. In particular, drawing
batches takes away those that were drawn, all of them asked for, and leaves the others as they were,
and draining them takes away everything. -/
theorem run_map (deeds : List (Order × Act)) :
    let c := run deeds {}
    c.events.map (·.1) = deeds.map (·.2) ∧ c.batches.Distinct ∧
      (∀ key, (c.batches.get? key).map (fun o => (o.items.toList, o.deadline)) =
        heldOf key c.events) ∧
      ∀ order act, ∃ reply, (c.step order act).events = c.events ++ [(act, reply)] ∧
        Right c.batches.get? act reply (c.step order act).batches.get? := by
  intro c
  have hfaithful : c.Faithful := Faithful.run ⟨distinct_empty, fun key => rfl⟩ deeds
  refine ⟨run_acts deeds {}, hfaithful.distinct, hfaithful.held, fun order act => ?_⟩
  exact ⟨_, rfl, right_inOrder hfaithful.distinct order act⟩

/-- With the last entry up first, drawing takes the batch of `b` and is broken off there, so that of
`a` stays. -/
example :
    let turned : Order := ⟨List.reverse, List.reverse_perm⟩
    let deeds := [(turned, .push "a" 5 .null), (turned, .touch "b" 7),
      (turned, .extract (.ofTest fun _ => true) () 1), (turned, .push "b" 8 .null)]
    (["a", "b"].map fun key => ((run deeds {}).batches.get? key).map content) =
      [some ([.null], 5), some ([.null], 8)] := by cbv

end Chronicle

end EventBatching.OpenBatches
