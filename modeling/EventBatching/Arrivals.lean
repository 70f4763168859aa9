/-!
# Arrivals

What has arrived and was not taken yet, in the order of arrival. To take in one more, or to take the
earliest, costs the same on average however many there are, and their number is at hand. What is
said about arrivals is said about the list of them, the earliest first.

* `Arrivals.push` takes in one more, and `Arrivals.takeFirst?` takes the earliest.
* `Arrivals.toList` lists all of them.
* `Arrivals.toList_push`, `Arrivals.toList_of_takeFirst?` and `Arrivals.length_toList` tie the list
  to the operations and to the number.
-/

namespace EventBatching

/-- Things that arrived one after another. -/
structure Arrivals (α : Type) where
  /-- The first part of the things, the earliest first. -/
  early : List α
  /-- The other things, the latest first. -/
  late : List α
  /-- How many there are. -/
  size : Nat
  /-- The number is the number of the things. -/
  size_eq : size = early.length + late.length

namespace Arrivals

variable {α : Type}

/-! ## Looking -/

/-- The things, the earliest first. -/
def toList (s : Arrivals α) : List α := s.early ++ s.late.reverse

/-- Whether there is nothing. -/
def isEmpty (s : Arrivals α) : Bool := s.size == 0

/-! ## Coming and going -/

/-- Nothing has arrived. -/
def empty : Arrivals α := ⟨[], [], 0, rfl⟩

/-- One more thing arrives. -/
def push (s : Arrivals α) (a : α) : Arrivals α :=
  ⟨s.early, a :: s.late, s.size + 1, by simp [s.size_eq, Nat.add_assoc]⟩

/-- More things arrive, one after another. -/
def append (s : Arrivals α) (as : List α) : Arrivals α := as.foldl push s

/-- The things of a list have arrived. -/
def ofList (as : List α) : Arrivals α := ⟨as, [], as.length, rfl⟩

/-- The earliest thing, and what is left without it. -/
def takeFirst? : Arrivals α → Option (α × Arrivals α)
  | ⟨a :: early, late, n, size_eq⟩ =>
    some (a, ⟨early, late, n - 1, by simp only [List.length_cons] at size_eq; omega⟩)
  | ⟨[], late, _, _⟩ =>
    match late.reverse with
    | a :: rest => some (a, ofList rest)
    | [] => none

instance : Inhabited (Arrivals α) := ⟨empty⟩

instance [Repr α] : Repr (Arrivals α) := ⟨fun s n => reprPrec s.toList n⟩

/-! ## Arrivals as a list -/

@[simp] theorem toList_empty : (empty : Arrivals α).toList = [] := rfl

@[simp] theorem toList_push (s : Arrivals α) (a : α) : (s.push a).toList = s.toList ++ [a] := by
  simp [toList, push]

@[simp] theorem toList_append (s : Arrivals α) (as : List α) :
    (s.append as).toList = s.toList ++ as := by
  induction as generalizing s with
  | nil => simp [append]
  | cons a as ih =>
    have step : s.append (a :: as) = (s.push a).append as := rfl
    rw [step, ih, toList_push]
    simp

@[simp] theorem toList_ofList (as : List α) : (ofList as).toList = as := by simp [ofList, toList]

@[simp] theorem length_toList (s : Arrivals α) : s.toList.length = s.size := by
  simp [toList, s.size_eq]

@[simp] theorem isEmpty_toList (s : Arrivals α) : s.toList.isEmpty = s.isEmpty := by
  cases h : s.toList with
  | nil => simp [isEmpty, ← length_toList, h]
  | cons a as => simp [isEmpty, ← length_toList, h]

/-- What is taken is the first of the list, and the rest of the list is left. -/
theorem toList_of_takeFirst? {s rest : Arrivals α} {a : α} (h : s.takeFirst? = some (a, rest)) :
    s.toList = a :: rest.toList := by
  obtain ⟨early, late, n, size_eq⟩ := s
  cases early with
  | cons b early =>
    obtain ⟨rfl, rfl⟩ := by simpa [takeFirst?] using h
    simp [toList]
  | nil =>
    simp only [takeFirst?] at h
    split at h
    · next reversed =>
      obtain ⟨rfl, rfl⟩ := by simpa using h
      simp [toList, reversed, ofList]
    · simp at h

/-- Something can be taken unless there is nothing. -/
theorem takeFirst?_eq_none_iff {s : Arrivals α} : s.takeFirst? = none ↔ s.toList = [] := by
  obtain ⟨early, late, n, size_eq⟩ := s
  cases early with
  | cons b early => simp [takeFirst?, toList]
  | nil =>
    simp only [takeFirst?]
    split
    · next reversed => simp [toList, reversed]
    · next reversed => simp [toList, reversed]

end Arrivals

end EventBatching
