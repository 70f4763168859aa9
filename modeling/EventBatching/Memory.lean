/-!
# Memory

No piece of memory is larger than half of what 64-bit addresses can name. A program that asks for
more than that at once cannot go on: the request panics. A smaller piece may still be more than the
machine has. Such a request ends the whole process without a word; when that happens depends on the
machine, and it is left out.

* `Memory.pieceLimit` is the greatest size of a piece, and `Memory.overflow` is what is said of a
  request for more.
-/

namespace EventBatching.Memory

/-- The greatest size of a piece of memory in bytes. -/
def pieceLimit : Nat := 0x7FFFFFFFFFFFFFFF

/-- Whether there can be a piece of memory of a size in bytes. -/
def holds (size : Nat) : Bool := size ≤ pieceLimit

/-- What a program says that stops over a request for too large a piece. -/
def overflow : String := "capacity overflow"

end EventBatching.Memory
