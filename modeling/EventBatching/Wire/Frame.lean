import EventBatching.Wire.Codec
import EventBatching.Buffer

/-!
# Frames

A message travels as a frame: the length of its body in four bytes, the most significant first, and
then the body. A body has a greatest length; a frame that announces more is taken for garbage before
its body is read, and a message that needs more is not written at all. This models herald's
`write_message` and `try_read_message`.

* `Source` is a stream of bytes that is read from the front and may fail at some place.
* `Wire.readMessage?` reads one message; a stream that ends before or inside the length is at its
  end.
* `Wire.writeMessage` writes one message into a buffer.
-/

namespace EventBatching

/-! ## Reading bytes -/

/-- A source of bytes that fails at a place. -/
structure SourceFailure where
  /-- The number of bytes that can be read before it fails. -/
  offset : Nat
  /-- What it fails with. -/
  message : String
  deriving Repr, DecidableEq

/-- A stream of bytes with a place in it. -/
structure Source where
  /-- All bytes of the stream. -/
  bytes : ByteArray
  /-- How many have been read. -/
  position : Nat := 0
  /-- Where the stream fails, if it does. -/
  failure : Option SourceFailure := none

namespace Source

/-- Why a number of bytes cannot be read. -/
inductive Shortage where
  /-- The stream ends. -/
  | ended
  /-- The stream fails. -/
  | failed (message : String)
  deriving Repr, DecidableEq

/-- The number of bytes that can be read in all, and why not more. -/
def reach (s : Source) : Nat × Shortage :=
  match s.failure with
  | some f =>
    if f.offset ≤ s.bytes.size then (f.offset, .failed f.message) else (s.bytes.size, .ended)
  | none => (s.bytes.size, .ended)

/-- Reads exactly `count` bytes. If there are fewer, all of them are read before the shortage is
noticed. -/
def readExact (s : Source) (count : Nat) : Except Shortage ByteArray × Source :=
  let (reach, shortage) := s.reach
  if s.position + count ≤ reach then
    (.ok (s.bytes.extract s.position (s.position + count)),
      { s with position := s.position + count })
  else (.error shortage, { s with position := max s.position reach })

end Source

namespace Wire

/-! ## Reading messages -/

/-- The greatest length of a body. -/
def frameLimit : Nat := 16 * 1024 * 1024

/-- The length that four bytes announce, the most significant first. -/
def frameLength (bytes : ByteArray) : Nat := ofLittleEndian bytes.data.toList.reverse

/-- The four bytes that announce a length. -/
def lengthBytes (n : Nat) : ByteArray := (littleEndian 4 n).reverse.toByteArray

/-- Why no message could be read. -/
inductive ReadFault where
  /-- A frame announces too long a body. -/
  | frameTooLong (length : Nat)
  /-- The stream ends inside a body. -/
  | bodyCut
  /-- The stream fails. -/
  | sourceFailed (message : String)
  /-- The body is no message. -/
  | malformed (fault : DecodeFault)
  /-- The stream ends where a message is due. -/
  | noMessage
  deriving Repr, DecidableEq

/-- Why no message could be read, in words. -/
def ReadFault.message : ReadFault → String
  | .frameTooLong length => s!"frame of {length} bytes exceeds limit of {frameLimit}"
  | .bodyCut => "failed to fill whole buffer"
  | .sourceFailed message => message
  | .malformed fault => fault.message
  | .noMessage => "connection closed before a message was received"

/-- What a reader says that cannot go on after a fault; none if it can. -/
def ReadFault.panic? : ReadFault → Option String
  | .malformed fault => fault.panic?
  | _ => none

variable {α : Type} [Message α]

/-- Reads a message. There is none if the stream ends before the length of its frame is complete. -/
def readMessage? (source : Source) : Except ReadFault (Option α) × Source :=
  match source.readExact 4 with
  | (.error .ended, source) => (.ok none, source)
  | (.error (.failed message), source) => (.error (.sourceFailed message), source)
  | (.ok bytes, source) =>
    let length := frameLength bytes
    if frameLimit < length then (.error (.frameTooLong length), source)
    else
      match source.readExact length with
      | (.error .ended, source) => (.error .bodyCut, source)
      | (.error (.failed message), source) => (.error (.sourceFailed message), source)
      | (.ok body, source) =>
        match Message.decode body with
        | .ok m => (.ok (some m), source)
        | .error fault => (.error (.malformed fault), source)

/-- Reads a message that is due. -/
def readMessage (source : Source) : Except ReadFault α × Source :=
  match readMessage? source with
  | (.ok (some m), source) => (.ok m, source)
  | (.ok none, source) => (.error .noMessage, source)
  | (.error fault, source) => (.error fault, source)

/-- What was read from a stream. -/
structure Reading (α : Type) where
  /-- The messages, each with the number of bytes read when it was complete. -/
  messages : List (α × Nat)
  /-- Why the reading ended; none at the end of the stream. -/
  fault : Option ReadFault
  /-- What is left of the stream. -/
  source : Source

/-- Reads messages one after another, at most `steps` of them. Where a message is `due`, the end of
the stream is a fault. -/
def readAllIn (due : Bool) : (steps : Nat) → Source → Reading α
  | 0, source => ⟨[], none, source⟩
  | steps + 1, source =>
    match readMessage? source with
    | (.ok none, source) => ⟨[], if due then some .noMessage else none, source⟩
    | (.error fault, source) => ⟨[], some fault, source⟩
    | (.ok (some m), source) =>
      let later := readAllIn due steps source
      { later with messages := (m, source.position) :: later.messages }

/-- Reads messages until the stream ends or a message cannot be read. Every message takes at least
four bytes, which bounds their number. -/
def readAll (due : Bool) (source : Source) : Reading α :=
  readAllIn due (source.bytes.size / 4 + 1) source

/-! ## Writing messages -/

/-- Why a message was not written. -/
inductive WriteFault where
  /-- The body is too long. Nothing was written. -/
  | messageTooLong (length : Nat)
  /-- There was not enough room. What fitted was written. -/
  | noRoom
  deriving Repr, DecidableEq

/-- Why a message was not written, in words. -/
def WriteFault.message : WriteFault → String
  | .messageTooLong length => s!"message of {length} bytes exceeds limit of {frameLimit}"
  | .noRoom => "failed to write whole buffer"

/-- The frame of a body. -/
def frame (body : ByteArray) : ByteArray := lengthBytes body.size ++ body

/-- The frame of a message, if its body is not too long. -/
def encodeFrame (m : α) : Except WriteFault ByteArray :=
  let body := Message.encode m
  if frameLimit < body.size then .error (.messageTooLong body.size) else .ok (frame body)

/-- Writes a message. -/
def writeMessage (b : Buffer) (m : α) : Except WriteFault Unit × Buffer :=
  match encodeFrame m with
  | .error fault => (.error fault, b)
  | .ok bytes => (if b.fits bytes.size then .ok () else .error .noRoom, b.append bytes)

end Wire

end EventBatching
