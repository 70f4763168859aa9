import EventBatching.Number.Binary64

/-!
# JSON values

Event payloads are JSON values. An integer is kept exactly when 64 bits can hold it, signed or
unsigned; every other number is a binary floating point number. The members of an object are kept in
the order of their keys, one member a key, so that a value does not remember the order in which its
members were written.
-/

namespace EventBatching

/-- An integer that a signed or an unsigned 64-bit word holds. -/
structure WordInt where
  /-- The integer. -/
  val : Int
  /-- It is not below the least signed word. -/
  lower : -(0x8000000000000000 : Int) ≤ val
  /-- It is below the end of the unsigned words. -/
  upper : val < (0x10000000000000000 : Int)
  deriving DecidableEq

instance : Repr WordInt := ⟨fun n => reprPrec n.val⟩

/-- A JSON value. -/
inductive Json where
  /-- The null value. -/
  | null
  /-- A truth value. -/
  | bool (value : Bool)
  /-- An integer of at most 64 bits. -/
  | int (value : WordInt)
  /-- Any other number. -/
  | float (value : Binary64)
  /-- A text. -/
  | string (value : String)
  /-- A list of values. -/
  | array (elements : List Json)
  /-- Members by key, in the order of the keys. -/
  | object (members : List (String × Json))
  deriving Repr, Inhabited

namespace Json

/-- Object members with one more member in its place by key. A key that is there already keeps the
value that it has. -/
def insertMember (key : String) (value : Json) : List (String × Json) → List (String × Json)
  | [] => [(key, value)]
  | (k, v) :: rest =>
    if key = k then (k, v) :: rest
    else if key < k then (key, value) :: (k, v) :: rest
    else (k, v) :: insertMember key value rest

/-- The object with the members that were read, given last to first: of the members with one key the
last one read counts. -/
def ofReversedMembers (members : List (String × Json)) : Json :=
  .object (members.foldl (fun kept (key, value) => insertMember key value kept) [])

mutual

/-- How many arrays and objects are open at the innermost point of a value. -/
def depth : Json → Nat
  | .array elements => elementsDepth elements + 1
  | .object members => membersDepth members + 1
  | _ => 0

/-- The greatest depth among the elements of an array. -/
def elementsDepth : List Json → Nat
  | [] => 0
  | v :: rest => max v.depth (elementsDepth rest)

/-- The greatest depth among the values of an object. -/
def membersDepth : List (String × Json) → Nat
  | [] => 0
  | (_, v) :: rest => max v.depth (membersDepth rest)

end

end Json

end EventBatching
