/-!
# Text for a terminal

A terminal takes some characters of a text for orders: the control characters, and the sequences
that begin with an escape character. Who reads the plain text sees none of them, apart from the
control characters that are blanks. A sequence reaches up to its last character, or to the next
escape or cancel character; one that is not complete is left out as well. Blanks do not belong into
most sequences. There a blank is seen and ends the sequence, or else interrupts it.

* `Position.next` follows sequences from character to character.
* `Terminal.plain` is what is seen of a text.
-/

namespace EventBatching.Terminal

/-! ## Characters -/

/-- The character that begins a sequence. -/
def escapeChar : Char := '\x1b'

/-- The bell. -/
def bell : Char := '\x07'

/-- The delete character, the last one of ASCII. -/
def delete : Char := '\x7f'

/-- Whether a character ends any sequence. -/
def isCancel (c : Char) : Bool := c == '\x18' || c == '\x1a'

/-- Whether a character separates others. -/
def isBlank (c : Char) : Bool := c == ' ' || c == '\t' || c == '\n' || c == '\x0c' || c == '\r'

/-- Whether a character is a control character. -/
def isControl (c : Char) : Bool := c < ' ' || c == delete

/-- Whether a character is ASCII. -/
def isAscii (c : Char) : Bool := c ≤ delete

/-- The byte that ends the strings for a terminal. -/
def terminator : UInt8 := 0x9c

/-- Whether a character holds the byte that ends strings, or is only that byte. -/
def terminates (c : Char) : Bool := (String.utf8EncodeChar c).contains terminator

/-! ## Sequences -/

/-- Where a reader is in a sequence. -/
inductive Position where
  /-- Outside of all sequences. -/
  | outside
  /-- Behind an escape character. -/
  | escape
  /-- In a sequence that the first character from the digits on ends. -/
  | short
  /-- In a control sequence, which the first character from the at sign on ends. -/
  | control
  /-- At the beginning of a string for a device. -/
  | deviceStart
  /-- In the parameters of a string for a device. -/
  | deviceParameters
  /-- Behind the parameters of a string for a device. -/
  | deviceMarks
  /-- In the body of a string. -/
  | string
  /-- In a string for the system, which a bell ends. -/
  | system
  deriving Repr, DecidableEq

namespace Position

/-- The position after an ASCII character that follows an escape character. -/
def afterEscape (c : Char) : Position :=
  if isControl c then .escape
  else if c ≤ '/' then .short
  else if c == '[' then .control
  else if c == ']' then .system
  else if c == 'P' then .deviceStart
  else if c == 'X' || c == '^' || c == '_' then .string
  else .outside

/-- The position after an ASCII character that neither begins nor cancels a sequence. -/
def afterAscii (c : Char) : Position → Position
  | .outside => .outside
  | .escape => afterEscape c
  | .short => if isControl c || c ≤ '/' then .short else .outside
  | .control => if c < '@' || c == delete then .control else .outside
  | .deviceStart =>
    if isControl c then .deviceStart
    else if c ≤ '/' then .deviceMarks
    else if c ≤ '?' then .deviceParameters
    else .string
  | .deviceParameters =>
    if isControl c then .deviceParameters
    else if c ≤ '/' then .deviceMarks
    else if c ≤ ';' then .deviceParameters
    else .string
  | .deviceMarks => if isControl c || c ≤ '/' then .deviceMarks else .string
  | .string => .string
  | .system => if c == bell then .outside else .system

/-- The position after a character that is not seen. -/
def next (p : Position) (c : Char) : Position :=
  if c == escapeChar then .escape
  else if isCancel c then .outside
  else if isAscii c then afterAscii c p
  else if p = .string && terminates c then .outside
  else p

/-- Whether a character is seen. -/
def shows (p : Position) (c : Char) : Bool :=
  match p with
  | .outside => isBlank c || !isControl c
  | .escape | .short | .control => isBlank c && c != ' '
  | _ => false

end Position

/-! ## Texts -/

/-- What a blank does to a sequence that it does not belong into. -/
inductive Blanks where
  /-- It ends the sequence. -/
  | endSequence
  /-- It interrupts the sequence, which goes on at the next control character unless a character
  beyond ASCII comes before that. -/
  | interrupt
  deriving Repr, DecidableEq

/-- What a reader does. -/
inductive Mode where
  /-- To skip, from a position on. -/
  | hidden (p : Position)
  /-- To see, with the position in a sequence that was interrupted. -/
  | visible (p : Position)
  deriving Repr, DecidableEq

/-- Whether a character is seen, and what a reader does after it. -/
def Mode.read (blanks : Blanks) (c : Char) : Mode → Bool × Mode
  | .hidden p =>
    if p.shows c then (true, .visible (if blanks = .interrupt then p else .outside))
    else (false, .hidden (p.next c))
  | .visible p =>
    if Position.outside.shows c then (true, .visible (if isAscii c then p else .outside))
    else (false, .hidden (p.next c))

/-- What is seen of characters. -/
def plainFrom (blanks : Blanks) : Mode → List Char → List Char
  | _, [] => []
  | m, c :: rest =>
    let (seen, m) := m.read blanks c
    if seen then c :: plainFrom blanks m rest else plainFrom blanks m rest

/-- What is seen of a text. -/
def plain (blanks : Blanks) (text : String) : String :=
  String.ofList (plainFrom blanks (.hidden .outside) text.toList)

end EventBatching.Terminal
