import EventBatching.Memory
import EventBatching.Wire.Message
import EventBatching.Wire.Varint

/-!
# Message bodies

A body is the index of the message among its kind, followed by the fields of the message. A text is
its number of bytes followed by the bytes. Bytes of a body after the message are ignored. This is
the encoding that herald's `write_message` and `try_read_message` use for a body.

* `Wire.Message` is the class of things that travel in bodies, requests and responses.
-/

namespace EventBatching.Wire

/-! ## Fields -/

/-- The form of a text. -/
def encodeText (s : String) : ByteArray := Varint.encode s.utf8ByteSize ++ s.toUTF8

/-- Reads a text and gives the place after it. The memory for it is taken before its bytes are read,
so that a length of 2^63 or more is a fault of its own. A smaller length for which the machine has
no memory ends the process; here there is always enough for it. -/
def decodeText (body : ByteArray) (start : Nat) : Except DecodeFault (String × Nat) :=
  match Varint.decode .u64 body start with
  | .error fault => .error fault
  | .ok (length, next) =>
    if !Memory.holds length then .error .textTooLong
    else
      match takeBytes length body next with
      | .error fault => .error fault
      | .ok (bytes, next) =>
        match Utf8.decode bytes with
        | .ok s => .ok (s, next)
        | .error fault => .error (.invalidText fault)

/-- The form of a counter. -/
def encodeWord (n : UInt64) : ByteArray := Varint.encode n.toNat

/-- Reads a counter and gives the place after it. -/
def decodeWord (body : ByteArray) (start : Nat) : Except DecodeFault (UInt64 × Nat) :=
  match Varint.decode .u64 body start with
  | .error fault => .error fault
  | .ok (n, next) => .ok (UInt64.ofNat n, next)

/-- Reads the index of a message, which must be below `variants`, and gives the place after it. -/
def decodeVariant (variants : Nat) (body : ByteArray) : Except DecodeFault (Nat × Nat) :=
  match Varint.decode .u32 body 0 with
  | .error fault => .error fault
  | .ok (index, next) =>
    if index < variants then .ok (index, next) else .error (.unknownVariant index variants)

/-! ## Messages -/

/-- Things that travel in bodies. -/
class Message (α : Type) where
  /-- The body of a message. -/
  encode : α → ByteArray
  /-- Reads the message at the start of a body. -/
  decode : ByteArray → Except DecodeFault α

/-- The form of an event: its category and its payload. -/
def encodeSubmission (s : Submission) : ByteArray := encodeText s.category ++ encodeText s.payload

/-- Reads an event. -/
def decodeSubmission (body : ByteArray) (start : Nat) : Except DecodeFault Submission := do
  let (category, next) ← decodeText body start
  let (payload, _) ← decodeText body next
  return ⟨category, payload⟩

/-- The form of the counters, in the order in which they are reported. -/
def encodeStatus (s : Status) : ByteArray :=
  encodeWord s.accepted ++ encodeWord s.dropped ++ encodeWord s.batchesFlushed ++
    encodeWord s.batchesSent ++ encodeWord s.sendRejected ++ encodeWord s.sendFailed

/-- Reads the counters. -/
def decodeStatus (body : ByteArray) (start : Nat) : Except DecodeFault Status := do
  let (accepted, next) ← decodeWord body start
  let (dropped, next) ← decodeWord body next
  let (batchesFlushed, next) ← decodeWord body next
  let (batchesSent, next) ← decodeWord body next
  let (sendRejected, next) ← decodeWord body next
  let (sendFailed, _) ← decodeWord body next
  return ⟨accepted, dropped, batchesFlushed, batchesSent, sendRejected, sendFailed⟩

/-- The body of a request. -/
def encodeRequest : Request → ByteArray
  | .submit s => Varint.encode 0 ++ encodeSubmission s
  | .ping => Varint.encode 1
  | .status => Varint.encode 2

/-- Reads a request. -/
def decodeRequest (body : ByteArray) : Except DecodeFault Request :=
  match decodeVariant 3 body with
  | .error fault => .error fault
  | .ok (0, next) => (decodeSubmission body next).map .submit
  | .ok (1, _) => .ok .ping
  | .ok (_, _) => .ok .status

/-- The body of a response. -/
def encodeResponse : Response → ByteArray
  | .accepted => Varint.encode 0
  | .pong => Varint.encode 1
  | .status s => Varint.encode 2 ++ encodeStatus s
  | .error message => Varint.encode 3 ++ encodeText message

/-- Reads a response. -/
def decodeResponse (body : ByteArray) : Except DecodeFault Response :=
  match decodeVariant 4 body with
  | .error fault => .error fault
  | .ok (0, _) => .ok .accepted
  | .ok (1, _) => .ok .pong
  | .ok (2, next) => (decodeStatus body next).map .status
  | .ok (_, next) => (decodeText body next).map fun (message, _) => .error message

instance : Message Request := ⟨encodeRequest, decodeRequest⟩

instance : Message Response := ⟨encodeResponse, decodeResponse⟩

/-! ## Faults in words -/

/-- What a reader says that cannot go on after a fault; none if it can. -/
def DecodeFault.panic? : DecodeFault → Option String
  | .textTooLong => some Memory.overflow
  | _ => none

/-- What is wrong with a body, in words. -/
def DecodeFault.message : DecodeFault → String
  | .unexpectedEnd additional => s!"UnexpectedEnd \x7b additional: {additional} \x7d"
  | .tooWide expected found =>
    s!"InvalidIntegerType \x7b expected: {expected.name}, found: {found.name} \x7d"
  | .unknownVariant index variants =>
    let cause := s!"invalid value: integer `{index}`, expected variant index 0 <= i < {variants}"
    s!"OtherString(\"{cause}\")"
  | .invalidText fault =>
    let length := match fault.defect with
      | .broken length => s!"Some({length})"
      | .unfinished => "None"
    let place := s!"valid_up_to: {fault.validUpTo}, error_len: {length}"
    s!"Utf8 \x7b inner: Utf8Error \x7b {place} \x7d \x7d: {fault.message}"
  | .textTooLong => Memory.overflow

end EventBatching.Wire
