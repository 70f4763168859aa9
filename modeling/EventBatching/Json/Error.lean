/-!
# Faults in JSON text

A text that is not JSON is refused with a cause and a place. The place is a number of bytes, which
is shown as a line and a column: lines are counted from one, and the column is the number of bytes
after the last line feed.

* `Json.Fault` is what a reader reports while it only knows what is left of the text.
* `Json.ParseError` is the same fault with its line and column.
-/

namespace EventBatching.Json

/-- Why a text is not JSON. -/
inductive Cause where
  /-- The text ends where a value is due or inside one that is no text. -/
  | endInValue
  /-- The text ends inside an array. -/
  | endInArray
  /-- The text ends inside an object. -/
  | endInObject
  /-- The text ends inside a string. -/
  | endInString
  /-- A byte that starts no value. -/
  | expectedValue
  /-- A wrong byte inside `null`, `true` or `false`. -/
  | expectedIdent
  /-- No colon after a key. -/
  | expectedColon
  /-- Neither a comma nor the end of the array after an element. -/
  | expectedElementEnd
  /-- Neither a comma nor the end of the object after a member. -/
  | expectedMemberEnd
  /-- A comma before the end of an array or object. -/
  | trailingComma
  /-- A key that is no string. -/
  | keyNotString
  /-- Something after the value. -/
  | trailingCharacters
  /-- A malformed number. -/
  | invalidNumber
  /-- A number too large for 64-bit floating point. -/
  | numberOutOfRange
  /-- An unknown escape, or one without four hexadecimal digits. -/
  | invalidEscape
  /-- An escaped surrogate that is not the first of a pair. -/
  | loneSurrogate
  /-- A leading surrogate without a second escape. -/
  | unpairedSurrogate
  /-- A raw control character inside a string. -/
  | controlCharacter
  /-- Too many arrays and objects inside each other. -/
  | nestingLimit
  deriving Repr, DecidableEq

/-- The wording of a cause. -/
def Cause.message : Cause → String
  | endInValue => "EOF while parsing a value"
  | endInArray => "EOF while parsing a list"
  | endInObject => "EOF while parsing an object"
  | endInString => "EOF while parsing a string"
  | expectedValue => "expected value"
  | expectedIdent => "expected ident"
  | expectedColon => "expected `:`"
  | expectedElementEnd => "expected `,` or `]`"
  | expectedMemberEnd => "expected `,` or `\x7d`"
  | trailingComma => "trailing comma"
  | keyNotString => "key must be a string"
  | trailingCharacters => "trailing characters"
  | invalidNumber => "invalid number"
  | numberOutOfRange => "number out of range"
  | invalidEscape => "invalid escape"
  | loneSurrogate => "lone leading surrogate in hex escape"
  | unpairedSurrogate => "unexpected end of hex escape"
  | controlCharacter => "control character (\\u0000-\\u001F) found while parsing a string"
  | nestingLimit => "recursion limit exceeded"

/-- A fault as a reader sees it: what was left of the text when it was found, and how many bytes of
that belong to the place it is reported at. A byte that is only looked at counts like one that was
taken. -/
structure Fault where
  /-- Why the text is refused. -/
  cause : Cause
  /-- What was left of the text. -/
  rest : List Char
  /-- How many bytes of `rest` lie before the reported place. -/
  ahead : Nat
  deriving Repr, DecidableEq

/-- A fault with its place in the text. -/
structure ParseError where
  /-- Why the text is refused. -/
  cause : Cause
  /-- The line, counted from one. -/
  line : Nat
  /-- The number of bytes since the last line feed. -/
  column : Nat
  deriving Repr, DecidableEq

/-- The fault and its place as one text. -/
def ParseError.message (e : ParseError) : String :=
  s!"{e.cause.message} at line {e.line} column {e.column}"

/-- The size of a text in bytes. -/
def utf8Size (cs : List Char) : Nat := cs.foldr (fun c size => c.utf8Size + size) 0

/-- Line and column after `count` bytes of a text, starting from a given line and column. -/
def position : List Char → (count line column : Nat) → Nat × Nat
  | [], _, line, column => (line, column)
  | c :: rest, count, line, column =>
    if count = 0 then (line, column)
    else if c = '\n' then position rest (count - 1) (line + 1) 0
    else if count < c.utf8Size then (line, column + count)
    else position rest (count - c.utf8Size) line (column + c.utf8Size)

/-- The fault with its place in `text`, the text that was read from the start. A place beyond the
end is the end. -/
def Fault.locate (fault : Fault) (text : List Char) : ParseError :=
  let total := utf8Size text
  let count := min total (total - utf8Size fault.rest + fault.ahead)
  let (line, column) := position text count 1 0
  ⟨fault.cause, line, column⟩

end EventBatching.Json
