import EventBatching.Proofs.Json.Floats
import Mathlib.Data.String.Basic

/-!
# What is read is formed

Reading puts the members of an object in the order of their keys, and it makes no floating point
number that is out of range. So every value that was read can be written and read again, if there is
room for it; only its floating point numbers may not come back as they were.

* `Json.formed_of_parse` says that a value that was read is formed, and `Json.readersFormed` what
  the readers keep on the way.
* `Json.reread` is what a floating point number comes back as.
-/

namespace EventBatching.Json

/-! ## Numbers -/

theorem inRange_of_finishFloat {n : Numeral} {text rest : List Char} {v : Json}
    (h : finishFloat n text = .ok (v, rest)) : v.Formed Binary64.InRange := by
  rw [finishFloat] at h
  split at h
  · next x hx =>
    obtain ⟨rfl, -⟩ := Prod.mk.inj (Except.ok.inj h)
    rw [Numeral.value] at hx
    obtain ⟨y, hy, rfl⟩ := Option.map_eq_some_iff.1 hx
    have hrange := Numeral.inRange_of_magnitude hy
    show Binary64.InRange (if n.negative then y.neg else y)
    split
    · exact ⟨hrange.significand_lt, hrange.le_exponent, hrange.exponent_le⟩
    · exact hrange
  · cases h

theorem inRange_of_readExponentDigits {n : Numeral} {down : Bool} {text rest : List Char}
    {v : Json} (h : readExponentDigits n down text = .ok (v, rest)) :
    v.Formed Binary64.InRange := by
  unfold readExponentDigits at h
  simp only at h
  split at h
  · split at h
    · cases h
    · obtain ⟨rfl, -⟩ := Prod.mk.inj (Except.ok.inj h)
      exact Binary64.zero_inRange n.negative
  · exact inRange_of_finishFloat h

theorem inRange_of_readExponent {n : Numeral} {text rest : List Char} {v : Json}
    (h : readExponent n text = .ok (v, rest)) : v.Formed Binary64.InRange := by
  unfold readExponent at h
  simp only at h
  split at h
  · cases h
  · split at h
    · exact inRange_of_readExponentDigits h
    · cases h

theorem inRange_of_readScale {n : Numeral} {text rest : List Char} {v : Json}
    (h : readScale n text = .ok (v, rest)) : v.Formed Binary64.InRange := by
  unfold readScale at h
  split at h
  · exact inRange_of_readExponent h
  · exact inRange_of_readExponent h
  · exact inRange_of_finishFloat h

theorem inRange_of_readFraction {n : Numeral} {text rest : List Char} {v : Json}
    (h : readFraction n text = .ok (v, rest)) : v.Formed Binary64.InRange := by
  unfold readFraction at h
  split at h
  · cases h
  · split at h
    · exact inRange_of_readScale h
    · cases h

theorem inRange_integer (negative : Bool) (significand : ℕ) :
    (integer negative significand).Formed Binary64.InRange := by
  have hrange := Binary64.ofNat_inRange significand
  rw [integer]
  split
  · split
    · trivial
    · exact ⟨hrange.significand_lt, hrange.le_exponent, hrange.exponent_le⟩
  · split
    · trivial
    · exact hrange

theorem inRange_of_readAfterInteger {negative : Bool} {significand dropped : ℕ}
    {text rest : List Char} {v : Json}
    (h : readAfterInteger negative significand dropped text = .ok (v, rest)) :
    v.Formed Binary64.InRange := by
  unfold readAfterInteger at h
  simp only at h
  split at h
  · exact inRange_of_readFraction h
  · exact inRange_of_readExponent h
  · exact inRange_of_readExponent h
  · split at h
    · obtain ⟨rfl, -⟩ := Prod.mk.inj (Except.ok.inj h)
      exact inRange_integer negative significand
    · exact inRange_of_finishFloat h

theorem inRange_of_readNumber {negative : Bool} {text rest : List Char} {v : Json}
    (h : readNumber negative text = .ok (v, rest)) : v.Formed Binary64.InRange := by
  unfold readNumber at h
  split at h
  · cases h
  · split at h
    · cases h
    · exact inRange_of_readAfterInteger h
  · split at h
    · exact inRange_of_readAfterInteger h
    · cases h

/-! ## Members -/

theorem membersFormed_iff {meets : Binary64 → Prop} {members : List (String × Json)} :
    MembersFormed meets members ↔ ∀ m ∈ members, m.2.Formed meets := by
  induction members with
  | nil => exact ⟨fun _ _ h => absurd h List.not_mem_nil, fun _ => trivial⟩
  | cons m rest ih => rw [MembersFormed, ih, List.forall_mem_cons]

theorem mem_insertMember {key : String} {v : Json} {kept : List (String × Json)}
    {m : String × Json} (h : m ∈ insertMember key v kept) : m = (key, v) ∨ m ∈ kept := by
  induction kept with
  | nil => exact .inl (List.mem_singleton.1 h)
  | cons first rest ih =>
    rw [insertMember] at h
    split at h
    · exact .inr h
    · split at h
      · exact List.mem_cons.1 h
      · rcases List.mem_cons.1 h with rfl | h
        · exact .inr (List.mem_cons_self ..)
        · exact (ih h).imp_right (List.mem_cons_of_mem _)

/-- A member is put in its place. -/
theorem insertMember_sorted {key : String} {v : Json} {kept : List (String × Json)}
    (sorted : (kept.map (·.1)).Pairwise (· < ·)) :
    ((insertMember key v kept).map (·.1)).Pairwise (· < ·) := by
  induction kept with
  | nil => exact List.pairwise_singleton _ _
  | cons first rest ih =>
    obtain ⟨k, w⟩ := first
    obtain ⟨hfirst, hrest⟩ := List.pairwise_cons.1 sorted
    rw [insertMember]
    split
    · exact sorted
    · next hne =>
      split
      · next hlt =>
        refine List.pairwise_cons.2 ⟨fun k' hk' => ?_, sorted⟩
        rcases List.mem_cons.1 hk' with rfl | hk'
        · exact hlt
        · exact hlt.trans (hfirst k' hk')
      · next hnlt =>
        refine List.pairwise_cons.2 ⟨fun k' hk' => ?_, ih hrest⟩
        obtain ⟨m, hm, rfl⟩ := List.mem_map.1 hk'
        rcases mem_insertMember hm with rfl | hm
        · exact lt_of_le_of_ne (not_lt.1 hnlt) (Ne.symm hne)
        · exact hfirst m.1 (List.mem_map_of_mem hm)

/-- Members that are read make a formed object. -/
theorem formed_ofReversedMembers {meets : Binary64 → Prop} {members : List (String × Json)}
    (formed : ∀ m ∈ members, m.2.Formed meets) : (ofReversedMembers members).Formed meets := by
  have hfold : ∀ (members kept : List (String × Json)), (∀ m ∈ members, m.2.Formed meets) →
      (Json.object kept).Formed meets → (Json.object
        (members.foldl (fun kept m => insertMember m.1 m.2 kept) kept)).Formed meets := by
    intro members
    induction members with
    | nil => exact fun _ _ h => h
    | cons m rest ih =>
      intro kept hmembers hkept
      obtain ⟨hm, hrest⟩ := List.forall_mem_cons.1 hmembers
      refine ih _ hrest ⟨insertMember_sorted hkept.1, membersFormed_iff.2 fun m' hm' => ?_⟩
      rcases mem_insertMember hm' with rfl | hm'
      · exact hm
      · exact membersFormed_iff.1 hkept.2 m' hm'
  exact hfold members [] formed ⟨List.Pairwise.nil, trivial⟩

/-! ## Values -/

theorem formed_of_readWord (value : Json) {v : Json} {letters text rest : List Char}
    (formed : value.Formed Binary64.InRange) (h : readWord value letters text = .ok (v, rest)) :
    v.Formed Binary64.InRange := by
  induction letters generalizing text with
  | nil =>
    obtain ⟨rfl, -⟩ := Prod.mk.inj (Except.ok.inj h)
    exact formed
  | cons letter letters ih =>
    cases text with
    | nil => cases h
    | cons c text =>
      rw [readWord] at h
      split at h
      · exact ih h
      · cases h

/-- What the readers give in a number of steps is formed. -/
structure ReadersFormed (steps : ℕ) : Prop where
  /-- A value is. -/
  value : ∀ {room text v rest}, readValue steps room text = .ok (v, rest) →
    v.Formed Binary64.InRange
  /-- An array is, if what was read of it before is. -/
  elements : ∀ {room text v rest} {done : List Json},
    (∀ w ∈ done, w.Formed Binary64.InRange) →
    readElements steps room done text = .ok (v, rest) → v.Formed Binary64.InRange
  /-- An object is, if what was read of it before is. -/
  members : ∀ {room text v rest} {done : List (String × Json)},
    (∀ m ∈ done, m.2.Formed Binary64.InRange) →
    readMembers steps room done text = .ok (v, rest) → v.Formed Binary64.InRange

namespace ReadersFormed

variable {steps room : ℕ} {text rest : List Char} {v : Json}

theorem value_succ (h : ReadersFormed steps)
    (read : readValue (steps + 1) room text = .ok (v, rest)) : v.Formed Binary64.InRange := by
  rw [readValue] at read
  split at read
  · cases read
  · split at read
    · exact formed_of_readWord .null trivial read
    · exact formed_of_readWord (.bool true) trivial read
    · exact formed_of_readWord (.bool false) trivial read
    · exact inRange_of_readNumber read
    · split at read
      · cases read
      · obtain ⟨rfl, -⟩ := Prod.mk.inj (Except.ok.inj read)
        trivial
    · split at read
      · cases read
      · split at read
        · cases read
        · obtain ⟨rfl, -⟩ := Prod.mk.inj (Except.ok.inj read)
          trivial
        · exact h.elements (fun _ hw => absurd hw List.not_mem_nil) read
    · split at read
      · cases read
      · split at read
        · cases read
        · obtain ⟨rfl, -⟩ := Prod.mk.inj (Except.ok.inj read)
          exact ⟨List.Pairwise.nil, trivial⟩
        · exact h.members (fun _ hm => absurd hm List.not_mem_nil) read
        · cases read
    · split at read
      · exact inRange_of_readNumber read
      · cases read

theorem elements_succ {done : List Json} (h : ReadersFormed steps)
    (formed : ∀ w ∈ done, w.Formed Binary64.InRange)
    (read : readElements (steps + 1) room done text = .ok (v, rest)) :
    v.Formed Binary64.InRange := by
  rw [readElements] at read
  split at read
  · cases read
  · next value left hvalue =>
    have hnext : ∀ w ∈ value :: done, w.Formed Binary64.InRange :=
      List.forall_mem_cons.2 ⟨h.value hvalue, formed⟩
    split at read
    · cases read
    · obtain ⟨rfl, -⟩ := Prod.mk.inj (Except.ok.inj read)
      exact elementsFormed_iff.2 fun w hw => hnext w (List.mem_reverse.1 hw)
    · split at read
      · cases read
      · cases read
      · exact h.elements hnext read
    · cases read

theorem members_succ {done : List (String × Json)} (h : ReadersFormed steps)
    (formed : ∀ m ∈ done, m.2.Formed Binary64.InRange)
    (read : readMembers (steps + 1) room done text = .ok (v, rest)) :
    v.Formed Binary64.InRange := by
  rw [readMembers] at read
  split at read
  · cases read
  · next key left hkey =>
    split at read
    · cases read
    · split at read
      · cases read
      · next value left hvalue =>
        have hnext : ∀ m ∈ (key, value) :: done, m.2.Formed Binary64.InRange :=
          List.forall_mem_cons.2 ⟨h.value hvalue, formed⟩
        split at read
        · cases read
        · obtain ⟨rfl, -⟩ := Prod.mk.inj (Except.ok.inj read)
          exact formed_ofReversedMembers hnext
        · split at read
          · cases read
          · exact h.members hnext read
          · cases read
          · cases read
        · cases read
    · cases read

end ReadersFormed

theorem readersFormed (steps : ℕ) : ReadersFormed steps := by
  induction steps with
  | zero => exact ⟨nofun, fun _ => nofun, fun _ => nofun⟩
  | succ steps ih => exact ⟨ih.value_succ, ih.elements_succ, ih.members_succ⟩

/-- **Whatever is read is formed**: the members of objects are in order, and every floating point
number is in range. -/
theorem formed_of_parse {text : String} {v : Json} (h : parse text = .ok v) :
    v.Formed Binary64.InRange := by
  simp only [parse] at h
  cases hread : readText text.toList with
  | error fault =>
    rw [hread] at h
    cases h
  | ok w =>
    rw [hread] at h
    obtain rfl := Except.ok.inj h
    rw [readText] at hread
    split at hread
    · cases hread
    · next value left hvalue =>
      split at hread
      · obtain rfl := Except.ok.inj hread
        exact (readersFormed _).value hvalue
      · cases hread

/-! ## Reading again -/

/-- The number that is read when the text of a number is read. -/
def reread (x : Binary64) : Binary64 :=
  match readValue 1 0 x.text with
  | .ok (.float y, _) => y
  | _ => x

theorem numeralFor_reread {x : Binary64} (inRange : x.InRange) : NumeralFor x (reread x) := by
  obtain ⟨y, hy⟩ := numeralFor_text inRange
  have hread := hy.reads 0 0 [] (fun _ h => absurd h (by simp))
  rw [List.append_nil] at hread
  have heq : reread x = y := by rw [reread, hread]
  exact heq ▸ hy

theorem formed_reread {v : Json} (formed : v.Formed Binary64.InRange) :
    v.Formed fun x => NumeralFor x (reread x) := formed.mono fun _ => numeralFor_reread

end EventBatching.Json
