/-!
# Similarity of words

How much alike two words are, from nought to one. A character of the one matches the same character
of the other if that does not stand much further on or back and has no match yet. What counts is the
share of characters with a match in either word, and the share of the matches that are in order.

* `Similarity.score` is how much alike two words are.
* `Similarity.closest?` picks the word that was likely meant.
-/

namespace EventBatching.Similarity

/-! ## Matches -/

/-- How much further on or back a match may stand in words of these lengths. -/
def reach (a b : Nat) : Nat := max a b / 2 - 1

/-- The characters of a word, each with whether it has a match. -/
abbrev Marked := List (Char × Bool)

/-- Matches a character with the first one between two places that has no match yet. -/
def mark? (c : Char) (first last : Nat) (word : Marked) : Option Marked :=
  (((word.take last).drop first).findIdx? (· == (c, false))).map fun i =>
    word.set (first + i) (c, true)

/-- Matches characters with their places, as long as the other word has the same ones within reach:
the characters with a match, and the other word. -/
def matched (reach : Nat) : List (Char × Nat) → Marked → List Char × Marked
  | [], word => ([], word)
  | (c, i) :: rest, word =>
    match mark? c (i - reach) (i + reach + 1) word with
    | none => matched reach rest word
    | some word =>
      let (cs, word) := matched reach rest word
      (c :: cs, word)

/-- Half the number of places at which two lists of characters differ. -/
def swaps (a b : List Char) : Nat := ((a.zip b).filter fun (x, y) => x != y).length / 2

/-! ## Scores -/

/-- The quotient of two numbers. -/
def ratio (a b : Nat) : Float := a.toFloat / b.toFloat

/-- How much alike two words are. -/
def score (a b : String) : Float :=
  let reach := reach a.length b.length
  let (cs, word) := matched reach a.toList.zipIdx (b.toList.map fun c => (c, false))
  let count := cs.length
  if a.isEmpty && b.isEmpty then 1
  else if count == 0 then 0
  else
    let ordered := count - swaps cs ((word.filter (·.2)).map (·.1))
    (ratio count a.length + ratio count b.length + ratio ordered count) / 3

/-- The score above which words are taken for alike. -/
def threshold : Float := 0.7

/-- The candidate that is most like a word, and the last of those that are equally so; none if no
candidate is like it. -/
def closest? (word : String) (candidates : List String) : Option String :=
  let better (best : Option (Float × String)) (candidate : String) : Option (Float × String) :=
    let s := score word candidate
    if threshold < s && best.all (·.1 ≤ s) then some (s, candidate) else best
  (candidates.foldl better none).map (·.2)

end EventBatching.Similarity
