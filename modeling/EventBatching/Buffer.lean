/-!
# Buffers

A buffer collects the bytes that are written to it. It may have room for a number of bytes only;
what does not fit is lost, and the writer learns that.
-/

namespace EventBatching

/-- Bytes that were written, and the room that is left. -/
structure Buffer where
  /-- The bytes written so far. -/
  bytes : ByteArray := ByteArray.empty
  /-- How many more bytes fit; no limit if there is none. -/
  room : Option Nat := none

namespace Buffer

/-- Whether so many bytes fit. -/
def fits (b : Buffer) (count : Nat) : Bool := b.room.all (count ≤ ·)

/-- Appends bytes as far as there is room for them. -/
def append (b : Buffer) (bytes : ByteArray) : Buffer :=
  match b.room with
  | none => { b with bytes := b.bytes ++ bytes }
  | some room =>
    { bytes := b.bytes ++ bytes.extract 0 (min room bytes.size), room := some (room - bytes.size) }

end Buffer

end EventBatching
