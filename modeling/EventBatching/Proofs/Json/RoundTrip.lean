import EventBatching.Proofs.Json.Numerals

/-!
# What is written is read back

A reader goes through the text of a value bracket by bracket, comma by comma, and comes to the same
value, if there is room for its brackets. Two things have to be said about the value first: an
object has its members in the order of their keys, since that is how they are put together when they
are read; and a floating point number has a text that is read as a number, though perhaps as another
one.

* `Json.Formed` says this of every part of a value, and `Json.mapFloats` puts in what the floating
  point numbers are read as.
* `Json.readValue_chars` reads a value in the middle of a text, exactly if there is room for it;
  `Json.ReadsBack` is that statement, so that the brackets are counted in one place.
* `Json.parse_chars` reads a text that is one value.
-/

namespace EventBatching.Json

/-! ## Values that can be written -/

mutual

/-- The members of every object come in the order of their keys, one member a key, and every
floating point number meets a condition. -/
def Formed (meets : Binary64 → Prop) : Json → Prop
  | .float x => meets x
  | .array elements => ElementsFormed meets elements
  | .object members => (members.map (·.1)).Pairwise (· < ·) ∧ MembersFormed meets members
  | _ => True

/-- Every element is formed. -/
def ElementsFormed (meets : Binary64 → Prop) : List Json → Prop
  | [] => True
  | v :: rest => v.Formed meets ∧ ElementsFormed meets rest

/-- Every member is formed. -/
def MembersFormed (meets : Binary64 → Prop) : List (String × Json) → Prop
  | [] => True
  | (_, v) :: rest => v.Formed meets ∧ MembersFormed meets rest

end

mutual

/-- The value with other floating point numbers. -/
def mapFloats (f : Binary64 → Binary64) : Json → Json
  | .null => .null
  | .bool value => .bool value
  | .int n => .int n
  | .float x => .float (f x)
  | .string s => .string s
  | .array elements => .array (mapElements f elements)
  | .object members => .object (mapMembers f members)

/-- The elements with other floating point numbers. -/
def mapElements (f : Binary64 → Binary64) : List Json → List Json
  | [] => []
  | v :: rest => v.mapFloats f :: mapElements f rest

/-- The members with other floating point numbers. -/
def mapMembers (f : Binary64 → Binary64) : List (String × Json) → List (String × Json)
  | [] => []
  | (key, v) :: rest => (key, v.mapFloats f) :: mapMembers f rest

end

mutual

theorem Formed.mono {meets meets' : Binary64 → Prop} (imp : ∀ x, meets x → meets' x) :
    {v : Json} → v.Formed meets → v.Formed meets'
  | .null, _ => trivial
  | .bool _, _ => trivial
  | .int _, _ => trivial
  | .float x, h => imp x h
  | .string _, _ => trivial
  | .array _, h => ElementsFormed.mono imp h
  | .object _, h => ⟨h.1, MembersFormed.mono imp h.2⟩

theorem ElementsFormed.mono {meets meets' : Binary64 → Prop} (imp : ∀ x, meets x → meets' x) :
    {elements : List Json} → ElementsFormed meets elements → ElementsFormed meets' elements
  | [], _ => trivial
  | _ :: _, h => ⟨Formed.mono imp h.1, ElementsFormed.mono imp h.2⟩

theorem MembersFormed.mono {meets meets' : Binary64 → Prop} (imp : ∀ x, meets x → meets' x) :
    {members : List (String × Json)} → MembersFormed meets members →
      MembersFormed meets' members
  | [], _ => trivial
  | (_, _) :: _, h => ⟨Formed.mono imp h.1, MembersFormed.mono imp h.2⟩

end

theorem elementsFormed_iff {meets : Binary64 → Prop} {elements : List Json} :
    ElementsFormed meets elements ↔ ∀ v ∈ elements, v.Formed meets := by
  induction elements with
  | nil => exact ⟨fun _ _ h => absurd h List.not_mem_nil, fun _ => trivial⟩
  | cons v rest ih => rw [ElementsFormed, ih, List.forall_mem_cons]

mutual

theorem mapFloats_id : (v : Json) → v.mapFloats id = v
  | .null => rfl
  | .bool _ => rfl
  | .int _ => rfl
  | .float _ => rfl
  | .string _ => rfl
  | .array elements => congrArg Json.array (mapElements_id elements)
  | .object members => congrArg Json.object (mapMembers_id members)

theorem mapElements_id : (elements : List Json) → mapElements id elements = elements
  | [] => rfl
  | v :: rest => by rw [mapElements, mapFloats_id v, mapElements_id rest]

theorem mapMembers_id : (members : List (String × Json)) → mapMembers id members = members
  | [] => rfl
  | (key, v) :: rest => by rw [mapMembers, mapFloats_id v, mapMembers_id rest]

end

theorem mapElements_eq_map (f : Binary64 → Binary64) (elements : List Json) :
    mapElements f elements = elements.map (mapFloats f) := by
  induction elements with
  | nil => rfl
  | cons v rest ih => rw [mapElements, ih, List.map_cons]

theorem keys_mapMembers (f : Binary64 → Binary64) (members : List (String × Json)) :
    (mapMembers f members).map (·.1) = members.map (·.1) := by
  induction members with
  | nil => rfl
  | cons member rest ih =>
    obtain ⟨key, v⟩ := member
    rw [mapMembers, List.map_cons, List.map_cons, ih]

/-- The text of a floating point number is read as a number. -/
structure NumeralFor (x y : Binary64) : Prop where
  /-- It starts like a number. -/
  starts : ∃ c cs, x.text = c :: cs ∧ (c.isDigit = true ∨ c = '-')
  /-- It is read, whatever follows it that ends a number. -/
  reads : ∀ steps room rest, Closing rest →
    readValue (steps + 1) room (x.text ++ rest) = .ok (.float y, rest)

/-- What is read back of a value of a depth where there is room for a number of brackets. -/
structure ReadsBack (depth room : Nat) (value : Json) (rest : List Char)
    (read : Except Fault (Json × List Char)) : Prop where
  /-- The value is read if there is room for it. -/
  ok : depth ≤ room → read = .ok (value, rest)
  /-- It is refused if there is not. -/
  deep : room < depth → ∃ fault, read = .error fault ∧ fault.cause = .nestingLimit

/-! ## Single steps of the readers -/

theorem skipBlanks_of_head {c : Char} (h : isBlank c = false) (rest : List Char) :
    skipBlanks (c :: rest) = c :: rest := by
  rw [skipBlanks, List.dropWhile_cons, h]
  rfl

theorem not_isBlank_of_isDigit {c : Char} (h : c.isDigit = true) : isBlank c = false := by
  rw [Bool.eq_false_iff]
  intro hblank
  simp only [isBlank, Bool.or_eq_true, beq_iff_eq] at hblank
  rcases hblank with ((rfl | rfl) | rfl) | rfl <;> exact absurd h (by decide)

theorem readValue_digit (steps room : Nat) {c : Char} (h : c.isDigit = true) (rest : List Char) :
    readValue (steps + 1) room (c :: rest) = readNumber false (c :: rest) := by
  rw [readValue, skipBlanks_of_head (not_isBlank_of_isDigit h)]
  simp only
  split
  all_goals first
    | exact absurd h (by decide)
    | exact if_pos h

theorem exists_toDigits (n : Nat) :
    ∃ c cs, Nat.toDigits 10 n = c :: cs ∧ c.isDigit = true := by
  obtain ⟨c, cs, hdigits⟩ := List.exists_cons_of_ne_nil (@Nat.toDigits_ne_nil n 10)
  exact ⟨c, cs, hdigits, isDigit_of_mem_decimal (hdigits ▸ List.mem_cons_self ..)⟩

theorem readValue_open (steps room : Nat) {c : Char} (blank : isBlank c = false) (more : c ≠ ']')
    (rest : List Char) :
    readValue (steps + 1) (room + 1) ('[' :: c :: rest) =
      readElements steps room [] (c :: rest) := by
  have hopen : skipBlanks ('[' :: c :: rest) = '[' :: c :: rest := skipBlanks_of_head rfl _
  rw [readValue, hopen]
  simp only [skipBlanks_of_head blank]
  split
  · next h => exact absurd h (List.cons_ne_nil _ _)
  · next h => exact absurd (List.cons.inj h).1 more
  · rfl

section Elements

variable {steps room : Nat} {text rest : List Char} {v : Json} {done : List Json}

theorem readElements_fault {fault : Fault} (h : readValue steps room text = .error fault) :
    readElements (steps + 1) room done text = .error fault := by
  rw [readElements, h]

theorem readElements_last (h : readValue steps room text = .ok (v, ']' :: rest)) :
    readElements (steps + 1) room done text = .ok (.array (v :: done).reverse, rest) := by
  have hend : skipBlanks (']' :: rest) = ']' :: rest := skipBlanks_of_head rfl _
  rw [readElements, h]
  simp only [hend]

theorem readElements_more {c : Char} (blank : isBlank c = false) (more : c ≠ ']')
    (h : readValue steps room text = .ok (v, ',' :: c :: rest)) :
    readElements (steps + 1) room done text = readElements steps room (v :: done) (c :: rest) := by
  have hcomma : skipBlanks (',' :: c :: rest) = ',' :: c :: rest := skipBlanks_of_head rfl _
  rw [readElements, h]
  simp only [hcomma, skipBlanks_of_head blank]
  split
  · next h => exact absurd h (List.cons_ne_nil _ _)
  · next h => exact absurd (List.cons.inj h).1 more
  · rfl

end Elements

section Members

variable {steps room : Nat} {text later rest : List Char} {key : String} {v : Json}
  {done : List (String × Json)}

theorem readMembers_fault {fault : Fault} (hkey : readString steps text = .ok (key, ':' :: later))
    (h : readValue steps room later = .error fault) :
    readMembers (steps + 1) room done text = .error fault := by
  have hcolon : skipBlanks (':' :: later) = ':' :: later := skipBlanks_of_head rfl _
  rw [readMembers, hkey]
  simp only [hcolon, h]

theorem readMembers_last (hkey : readString steps text = .ok (key, ':' :: later))
    (h : readValue steps room later = .ok (v, '}' :: rest)) :
    readMembers (steps + 1) room done text = .ok (ofReversedMembers ((key, v) :: done), rest) := by
  have hcolon : skipBlanks (':' :: later) = ':' :: later := skipBlanks_of_head rfl _
  have hend : skipBlanks ('}' :: rest) = '}' :: rest := skipBlanks_of_head rfl _
  rw [readMembers, hkey]
  simp only [hcolon, h, hend]

theorem readMembers_more (hkey : readString steps text = .ok (key, ':' :: later))
    (h : readValue steps room later = .ok (v, ',' :: '"' :: rest)) :
    readMembers (steps + 1) room done text = readMembers steps room ((key, v) :: done) rest := by
  have hcolon : skipBlanks (':' :: later) = ':' :: later := skipBlanks_of_head rfl _
  have hcomma : skipBlanks (',' :: '"' :: rest) = ',' :: '"' :: rest := skipBlanks_of_head rfl _
  have hquote : skipBlanks ('"' :: rest) = '"' :: rest := skipBlanks_of_head rfl _
  rw [readMembers, hkey]
  simp only [hcolon, h, hcomma, hquote]

end Members

/-! ## Members in their order -/

theorem insertMember_of_lt {key : String} {v : Json} {kept : List (String × Json)}
    (h : ∀ k ∈ kept.map (·.1), key < k) : insertMember key v kept = (key, v) :: kept := by
  cases kept with
  | nil => rfl
  | cons member rest =>
    obtain ⟨k, w⟩ := member
    have hlt : key < k := h k (List.mem_cons_self ..)
    have hne : key ≠ k := fun heq => String.lt_irrefl k (heq ▸ hlt)
    rw [insertMember, if_neg hne, if_pos hlt]

/-- Members that come in their order are put together as they are. -/
theorem ofReversedMembers_reverse {members : List (String × Json)}
    (sorted : (members.map (·.1)).Pairwise (· < ·)) :
    ofReversedMembers members.reverse = .object members := by
  rw [ofReversedMembers, List.foldl_reverse]
  congr 1
  induction members with
  | nil => rfl
  | cons member rest ih =>
    obtain ⟨hlt, hrest⟩ := List.pairwise_cons.1 sorted
    rw [List.foldr_cons, ih hrest]
    exact insertMember_of_lt hlt

/-! ## The text part by part -/

/-- A value starts with a character that is neither a blank nor the end of an array. -/
theorem head_chars {f : Binary64 → Binary64} {v : Json}
    (formed : v.Formed fun x => NumeralFor x (f x)) :
    ∃ c cs, v.chars = c :: cs ∧ isBlank c = false ∧ c ≠ ']' := by
  have hdigit : ∀ {c : Char}, c.isDigit = true → isBlank c = false ∧ c ≠ ']' := fun h =>
    ⟨not_isBlank_of_isDigit h, fun heq => absurd h (by rw [heq]; decide)⟩
  cases v with
  | null => exact ⟨_, _, rfl, rfl, by decide⟩
  | bool value => cases value <;> exact ⟨_, _, rfl, rfl, by decide⟩
  | int n =>
    rw [chars, intChars]
    by_cases hneg : n.val < 0
    · rw [if_pos hneg]
      exact ⟨_, _, rfl, rfl, by decide⟩
    · obtain ⟨c, cs, hdigits, hc⟩ := exists_toDigits n.val.natAbs
      rw [if_neg hneg, hdigits]
      exact ⟨c, cs, rfl, hdigit hc⟩
  | float x =>
    obtain ⟨c, cs, htext, hc | rfl⟩ := NumeralFor.starts formed
    · exact ⟨c, cs, htext, hdigit hc⟩
    · exact ⟨'-', cs, htext, rfl, by decide⟩
  | string s => exact ⟨_, _, rfl, rfl, by decide⟩
  | array elements => exact ⟨_, _, rfl, rfl, by decide⟩
  | object members => exact ⟨_, _, rfl, rfl, by decide⟩

theorem closing_cons {c : Char} (h : c = ',' ∨ c = ']' ∨ c = '}') (rest : List Char) :
    Closing (c :: rest) := by
  rintro _ ⟨⟩
  exact h

theorem elementsChars_false (v : Json) (rest : List Json) :
    elementsChars false (v :: rest) = ',' :: elementsChars true (v :: rest) := rfl

theorem membersChars_false (member : String × Json) (rest : List (String × Json)) :
    membersChars false (member :: rest) = ',' :: membersChars true (member :: rest) := rfl

theorem length_le_escaped (cs : List Char) : cs.length ≤ (cs.flatMap escape).length := by
  induction cs with
  | nil => exact Nat.le_refl 0
  | cons c cs ih =>
    have hsome : 0 < (escape c).length := by
      rcases escape_cases c with ⟨h, -⟩ | ⟨tail, h, -⟩ <;> rw [h] <;> exact Nat.succ_pos _
    rw [List.flatMap_cons, List.length_append, List.length_cons]
    omega

theorem membersChars_append (key : String) (v : Json) (members : List (String × Json))
    (rest : List Char) :
    membersChars true ((key, v) :: members) ++ rest =
      '"' :: (key.toList.flatMap escape ++
        '"' :: ':' :: (v.chars ++ (membersChars false members ++ rest))) := by
  simp [membersChars, quotedChars]

theorem elementsChars_append (v : Json) (elements : List Json) (rest : List Char) :
    elementsChars true (v :: elements) ++ rest =
      v.chars ++ (elementsChars false elements ++ rest) := by
  simp [elementsChars]

theorem lengths_of_element {f : Binary64 → Binary64} {v : Json} {elements : List Json}
    {steps : Nat} (formed : v.Formed fun x => NumeralFor x (f x))
    (enough : (elementsChars true (v :: elements)).length < steps) :
    ∃ k, steps = k + 2 ∧ v.chars.length ≤ k + 1 ∧
      (elementsChars false elements).length < k + 1 := by
  obtain ⟨c, cs, hchars, -⟩ := head_chars formed
  have hsome : 0 < v.chars.length := hchars ▸ Nat.succ_pos _
  have htext := elementsChars_append v elements []
  simp only [List.append_nil] at htext
  rw [htext, List.length_append] at enough
  exact ⟨steps - 2, by omega, by omega, by omega⟩

theorem lengths_of_member {key : String} {v : Json} {members : List (String × Json)} {steps : Nat}
    (enough : (membersChars true ((key, v) :: members)).length < steps) :
    ∃ k, steps = k + 2 ∧ key.toList.length < k + 1 ∧ v.chars.length ≤ k + 1 ∧
      (membersChars false members).length < k + 1 := by
  have hkey := length_le_escaped key.toList
  have htext := membersChars_append key v members []
  simp only [List.append_nil] at htext
  rw [htext] at enough
  simp only [List.length_cons, List.length_append] at enough
  exact ⟨steps - 2, by omega, by omega, by omega, by omega⟩

/-! ## Whole values -/

section Written

variable {steps room : Nat} {rest : List Char}

theorem readValue_int (n : WordInt) (closing : Closing rest) :
    readValue (steps + 1) room (intChars n.val ++ rest) = .ok (.int n, rest) := by
  have hread := readNumber_toDigits (decide (n.val < 0)) (n := n.val.natAbs)
    (by have := n.lower; have := n.upper; rw [maxWord]; omega) closing
  rw [integer_natAbs] at hread
  rw [intChars]
  by_cases hneg : n.val < 0
  · rw [decide_eq_true hneg] at hread
    rw [if_pos hneg]
    exact hread
  · obtain ⟨c, cs, hdigits, hc⟩ := exists_toDigits n.val.natAbs
    rw [decide_eq_false hneg, hdigits] at hread
    rw [if_neg hneg, hdigits, List.cons_append, readValue_digit steps room hc]
    exact hread

theorem readValue_string {s : String} (enough : s.toList.length < steps) :
    readValue (steps + 1) room (quotedChars s ++ rest) = .ok (.string s, rest) := by
  have hread := readString_quoted enough rest
  have htext : quotedChars s ++ rest = '"' :: (s.toList.flatMap escape ++ '"' :: rest) := by
    simp [quotedChars]
  have hquote : skipBlanks ('"' :: (s.toList.flatMap escape ++ '"' :: rest)) =
      '"' :: (s.toList.flatMap escape ++ '"' :: rest) := skipBlanks_of_head rfl _
  rw [htext, readValue, hquote]
  simp only [hread]

namespace ReadsBack

variable {value w : Json} {left : List Char} {read : Except Fault (Json × List Char)} {m n : Nat}

theorem of_flat (h : read = .ok (value, rest)) : ReadsBack 0 room value rest read :=
  ⟨fun _ => h, fun deep => absurd deep (Nat.not_lt_zero room)⟩

/-- A part and what follows it are read back together if the one that is too deep is noticed. -/
theorem followed {first : Except Fault (Json × List Char)} (part : ReadsBack m room w left first)
    (fails : ∀ {fault}, first = .error fault → read = .error fault)
    (goesOn : first = .ok (w, left) → ReadsBack n room value rest read) :
    ReadsBack (max m n) room value rest read := by
  by_cases hroom : m ≤ room
  · have hrest := goesOn (part.ok hroom)
    exact ⟨fun h => hrest.ok (Nat.le_trans (Nat.le_max_right m n) h),
      fun h => hrest.deep (by omega)⟩
  · obtain ⟨fault, hfault, hcause⟩ := part.deep (Nat.not_le.1 hroom)
    exact ⟨fun h => absurd (Nat.le_trans (Nat.le_max_left m n) h) hroom,
      fun _ => ⟨fault, fails hfault, hcause⟩⟩

/-- A bracket needs room of its own. -/
theorem opened {c : Char} {text : List Char} (blank : isBlank c = false)
    (opens : c = '[' ∨ c = '{')
    (inside : ∀ room, ReadsBack n room value rest (readValue (steps + 1) (room + 1) (c :: text))) :
    ReadsBack (n + 1) room value rest (readValue (steps + 1) room (c :: text)) := by
  cases room with
  | zero =>
    refine ⟨fun h => absurd h (Nat.not_succ_le_zero n), fun _ => ?_⟩
    have hopen : skipBlanks (c :: text) = c :: text := skipBlanks_of_head blank _
    rw [readValue, hopen]
    rcases opens with rfl | rfl
    · exact ⟨_, rfl, rfl⟩
    · exact ⟨_, rfl, rfl⟩
  | succ room =>
    exact ⟨fun h => (inside room).ok (Nat.le_of_succ_le_succ h),
      fun h => (inside room).deep (Nat.lt_of_succ_lt_succ h)⟩

end ReadsBack

end Written

section Values

variable {f : Binary64 → Binary64}

-- The recursion follows the value. The steps have to be as many as there are characters only so
-- that no part runs out of them, and what is behind the value only has to end a number.
mutual

/-- What is written of a value is read back, if there is room for its brackets. -/
theorem readValue_chars :
    (v : Json) → (v.Formed fun x => NumeralFor x (f x)) → ∀ {steps}, v.chars.length ≤ steps + 1 →
      ∀ room {rest}, Closing rest →
        ReadsBack v.depth room (v.mapFloats f) rest (readValue (steps + 1) room (v.chars ++ rest))
  | .null, _, _, _, _, _, _ => .of_flat rfl
  | .bool true, _, _, _, _, _, _ => .of_flat rfl
  | .bool false, _, _, _, _, _, _ => .of_flat rfl
  | .int n, _, steps, _, room, rest, closing => .of_flat (readValue_int n closing)
  | .float x, formed, steps, _, room, rest, closing =>
    .of_flat (NumeralFor.reads formed steps room rest closing)
  | .string s, _, steps, enough, room, rest, closing => by
    have hlength := length_le_escaped s.toList
    have hquoted : (s.toList.flatMap escape).length + 2 ≤ steps + 1 := by
      simpa [chars, quotedChars] using enough
    exact .of_flat (readValue_string (by omega))
  | .array [], _, _, _, _, _, _ => .opened rfl (.inl rfl) fun _ => .of_flat rfl
  | .array (v :: elements), formed, steps, enough, room, rest, closing => by
    have hlength : (elementsChars true (v :: elements)).length < steps := by
      have : (elementsChars true (v :: elements)).length + 2 ≤ steps + 1 := by
        simpa [chars] using enough
      omega
    have htext : (Json.array (v :: elements)).chars ++ rest =
        '[' :: (elementsChars true (v :: elements) ++ ']' :: rest) := by
      simp [chars]
    obtain ⟨c, cs, hchars, hblank, hmore⟩ := head_chars formed.1
    rw [htext]
    refine .opened rfl (.inl rfl) fun room => ?_
    have hback := readElements_chars (v :: elements) formed (List.cons_ne_nil _ _) hlength room []
      rest
    rw [elementsChars_append, hchars, List.cons_append] at hback ⊢
    rw [readValue_open steps room hblank hmore]
    exact hback
  | .object [], _, _, _, _, _, _ => .opened rfl (.inr rfl) fun _ => .of_flat rfl
  | .object ((key, v) :: members), formed, steps, enough, room, rest, closing => by
    have hlength : (membersChars true ((key, v) :: members)).length < steps := by
      have htwo : (membersChars true ((key, v) :: members)).length + 2 ≤ steps + 1 := by
        simpa [chars] using enough
      omega
    have htext : (Json.object ((key, v) :: members)).chars ++ rest =
        '{' :: (membersChars true ((key, v) :: members) ++ '}' :: rest) := by
      simp [chars]
    rw [htext, membersChars_append]
    refine .opened rfl (.inr rfl) fun room => ?_
    have hback := readMembers_chars ((key, v) :: members) formed.2 (List.cons_ne_nil _ _) hlength
      room [] (membersChars_append key v members ('}' :: rest))
    have hsorted : ((mapMembers f ((key, v) :: members)).map (·.1)).Pairwise (· < ·) :=
      (keys_mapMembers f _).symm ▸ formed.1
    rw [List.append_nil, ofReversedMembers_reverse hsorted] at hback
    exact hback

theorem readElements_chars :
    (elements : List Json) → (ElementsFormed (fun x => NumeralFor x (f x)) elements) →
      elements ≠ [] → ∀ {steps}, (elementsChars true elements).length < steps → ∀ room done rest,
        ReadsBack (elementsDepth elements) room (.array (done.reverse ++ mapElements f elements))
          rest (readElements steps room done (elementsChars true elements ++ ']' :: rest))
  | [], _, hsome, steps, enough, room, done, rest => absurd rfl hsome
  | [v], formed, _, steps, enough, room, done, rest => by
    obtain ⟨steps, rfl, hlength, -⟩ := lengths_of_element formed.1 enough
    have hpart := readValue_chars v formed.1 hlength room (closing_cons (.inr (.inl rfl)) rest)
    rw [elementsChars_append]
    refine hpart.followed readElements_fault fun hv => .of_flat ?_
    exact (readElements_last hv).trans (by rw [List.reverse_cons]; rfl)
  | v :: w :: elements, formed, _, steps, enough, room, done, rest => by
    obtain ⟨c, cs, hchars, hblank, hmore⟩ := head_chars formed.2.1
    obtain ⟨steps, rfl, hlength, hlater⟩ := lengths_of_element formed.1 enough
    have hrest := readElements_chars (w :: elements) formed.2 (List.cons_ne_nil _ _)
      (Nat.lt_of_succ_lt hlater) room (v.mapFloats f :: done) rest
    have hpart := readValue_chars v formed.1 hlength room
      (closing_cons (.inl rfl) (elementsChars true (w :: elements) ++ ']' :: rest))
    rw [elementsChars_append, elementsChars_false, List.cons_append]
    refine hpart.followed readElements_fault fun hv => ?_
    rw [elementsChars_append, hchars] at hv hrest ⊢
    rw [readElements_more hblank hmore hv]
    rw [List.reverse_cons, List.append_assoc] at hrest
    exact hrest

theorem readMembers_chars :
    (members : List (String × Json)) → (MembersFormed (fun x => NumeralFor x (f x)) members) →
      members ≠ [] → ∀ {steps}, (membersChars true members).length < steps →
        ∀ room done {rest text}, membersChars true members ++ '}' :: rest = '"' :: text →
        ReadsBack (membersDepth members) room
          (ofReversedMembers ((mapMembers f members).reverse ++ done)) rest
          (readMembers steps room done text)
  | [], _, hsome, _, _, _, _, _, _, _ => absurd rfl hsome
  | [(key, v)], formed, _, steps, enough, room, done, rest, text, htext => by
    rw [membersChars_append] at htext
    obtain ⟨steps, rfl, hkey, hlength, -⟩ := lengths_of_member enough
    have hread := readString_quoted hkey (':' :: (v.chars ++ '}' :: rest))
    have hpart := readValue_chars v formed.1 hlength room (closing_cons (.inr (.inr rfl)) rest)
    rw [← (List.cons.inj htext).2]
    refine hpart.followed (readMembers_fault hread) fun hv => .of_flat ?_
    exact readMembers_last hread hv
  | (key, v) :: w :: members, formed, _, steps, enough, room, done, rest, text, htext => by
    obtain ⟨later, hlater⟩ : ∃ later,
        membersChars true (w :: members) ++ '}' :: rest = '"' :: later :=
      ⟨_, membersChars_append w.1 w.2 members ('}' :: rest)⟩
    rw [membersChars_append, membersChars_false, List.cons_append, hlater] at htext
    obtain ⟨steps, rfl, hkey, hlength, hmore⟩ := lengths_of_member enough
    have hread := readString_quoted hkey (':' :: (v.chars ++ ',' :: '"' :: later))
    have hpart := readValue_chars v formed.1 hlength room (closing_cons (.inl rfl) ('"' :: later))
    have hrest := readMembers_chars (w :: members) formed.2 (List.cons_ne_nil _ _)
      (Nat.lt_of_succ_lt hmore) room ((key, v.mapFloats f) :: done) hlater
    rw [← (List.cons.inj htext).2]
    refine hpart.followed (readMembers_fault hread) fun hv => ?_
    rw [readMembers_more hread hv]
    simpa [mapMembers] using hrest

end

/-- A text that is written of a value is read, exactly if the value is not too deep. -/
theorem readText_chars {v : Json} (formed : v.Formed fun x => NumeralFor x (f x)) :
    (v.depth ≤ nestingLimit → readText v.chars = .ok (v.mapFloats f)) ∧
      (nestingLimit < v.depth →
        ∃ fault, readText v.chars = .error fault ∧ fault.cause = .nestingLimit) := by
  have henough : v.chars.length ≤ 2 * v.chars.length + 1 + 1 := by omega
  have hend : Closing [] := fun _ h => absurd h (by simp)
  have hback := readValue_chars v formed henough nestingLimit hend
  rw [List.append_nil] at hback
  refine ⟨fun h => ?_, fun h => ?_⟩
  · rw [readText, hback.ok h]
    rfl
  · obtain ⟨fault, hfault, hcause⟩ := hback.deep h
    rw [readText, hfault]
    exact ⟨fault, rfl, hcause⟩

/-- **A text that is written of a value is read back**, exactly if the value is not too deep. -/
theorem parse_chars {v : Json} (formed : v.Formed fun x => NumeralFor x (f x)) {text : String}
    (written : text.toList = v.chars) :
    (v.depth ≤ nestingLimit → parse text = .ok (v.mapFloats f)) ∧
      (nestingLimit < v.depth →
        ∃ error, parse text = .error error ∧ error.cause = .nestingLimit) := by
  obtain ⟨hok, hdeep⟩ := readText_chars formed
  rw [← written] at hok hdeep
  refine ⟨fun h => ?_, fun h => ?_⟩
  · simp only [parse, hok h]
    rfl
  · obtain ⟨fault, hfault, hcause⟩ := hdeep h
    simp only [parse, hfault]
    exact ⟨_, rfl, hcause⟩

end Values

end EventBatching.Json
