import EventBatching.Json.Number

/-!
# Reading JSON text

A reader takes what is left of the text and gives a value together with what is left after it, or
the first fault. Arrays and objects may be open inside each other up to a limit, which is a
parameter of the readers: it goes down by one for every bracket.

* `Json.readString` reads the rest of a string after its opening quote.
* `Json.readValue` reads one value.
* `Json.readText` bounds the steps of both by the length of the text, so that they never run out.
* `Json.parse` reads a whole text.
-/

namespace EventBatching.Json

/-! ## Blanks and words -/

/-- The characters that may stand between tokens. -/
def isBlank (c : Char) : Bool := c == ' ' || c == '\t' || c == '\n' || c == '\r'

/-- What is left after the blanks at the start. -/
def skipBlanks (text : List Char) : List Char := text.dropWhile isBlank

/-- Reads the remaining letters of a word that stands for a value. -/
def readWord (value : Json) : (letters text : List Char) → Except Fault (Json × List Char)
  | [], text => .ok (value, text)
  | _ :: _, [] => .error ⟨.endInValue, [], 0⟩
  | letter :: letters, c :: rest =>
    if c = letter then readWord value letters rest else .error ⟨.expectedIdent, c :: rest, 1⟩

/-! ## Strings -/

/-- The value of a hexadecimal digit of either case. -/
def hexDigit? (c : Char) : Option Nat :=
  if c.isDigit then some (c.toNat - '0'.toNat)
  else if 'a' ≤ c ∧ c ≤ 'f' then some (c.toNat - 'a'.toNat + 10)
  else if 'A' ≤ c ∧ c ≤ 'F' then some (c.toNat - 'A'.toNat + 10)
  else none

/-- The number that four hexadecimal digits at the start of a text stand for, and what follows. -/
def hexUnit? : List Char → Option (Nat × List Char)
  | a :: b :: c :: d :: rest => do
    let a ← hexDigit? a
    let b ← hexDigit? b
    let c ← hexDigit? c
    let d ← hexDigit? d
    return (((a * 16 + b) * 16 + c) * 16 + d, rest)
  | _ => none

/-- Reads the four digits of an escape by number. Four bytes are taken for digits before they are
looked at. -/
def readUnit (text : List Char) : Except Fault (Nat × List Char) :=
  match hexUnit? text with
  | some unit => .ok unit
  | none =>
    if utf8Size (text.take 4) < 4 then .error ⟨.endInString, [], 0⟩
    else .error ⟨.invalidEscape, text, 4⟩

/-- The first halves of surrogate pairs. -/
def isLeading (unit : Nat) : Bool := 0xD800 ≤ unit && unit ≤ 0xDBFF

/-- The second halves of surrogate pairs. -/
def isTrailing (unit : Nat) : Bool := 0xDC00 ≤ unit && unit ≤ 0xDFFF

/-- The character that a surrogate pair stands for. -/
def pairedChar (leading trailing : Nat) : Char :=
  Char.ofNat (0x10000 + (leading - 0xD800) * 0x400 + (trailing - 0xDC00))

/-- Reads the second half of a surrogate pair, which is an escape of its own. -/
def readTrailing (leading : Nat) (text : List Char) : Except Fault (Char × List Char) :=
  match text with
  | [] => .error ⟨.endInString, [], 0⟩
  | ['\\'] => .error ⟨.endInString, [], 0⟩
  | '\\' :: 'u' :: rest =>
    match readUnit rest with
    | .error fault => .error fault
    | .ok (unit, rest) =>
      if isTrailing unit then .ok (pairedChar leading unit, rest)
      else .error ⟨.loneSurrogate, rest, 0⟩
  | '\\' :: rest => .error ⟨.unpairedSurrogate, rest, 1⟩
  | rest => .error ⟨.unpairedSurrogate, rest, 1⟩

/-- Reads an escape by number after its letter. -/
def readNumbered (text : List Char) : Except Fault (Char × List Char) :=
  match readUnit text with
  | .error fault => .error fault
  | .ok (unit, rest) =>
    if isTrailing unit then .error ⟨.loneSurrogate, rest, 0⟩
    else if isLeading unit then readTrailing unit rest
    else .ok (Char.ofNat unit, rest)

/-- Reads an escape after its backslash. -/
def readEscape (text : List Char) : Except Fault (Char × List Char) :=
  match text with
  | [] => .error ⟨.endInString, [], 0⟩
  | '"' :: rest => .ok ('"', rest)
  | '\\' :: rest => .ok ('\\', rest)
  | '/' :: rest => .ok ('/', rest)
  | 'b' :: rest => .ok ('\x08', rest)
  | 'f' :: rest => .ok ('\x0c', rest)
  | 'n' :: rest => .ok ('\n', rest)
  | 'r' :: rest => .ok ('\r', rest)
  | 't' :: rest => .ok ('\t', rest)
  | 'u' :: rest => readNumbered rest
  | rest => .error ⟨.invalidEscape, rest, 1⟩

/-- Reads the rest of a string in at most `steps` steps and appends it to `out`. -/
def readStringTo : (steps : Nat) → (out : String) → List Char → Except Fault (String × List Char)
  | 0, _, text => .error ⟨.endInString, text, 0⟩
  | _ + 1, _, [] => .error ⟨.endInString, [], 0⟩
  | steps + 1, out, c :: rest =>
    if c = '"' then .ok (out, rest)
    else if c = '\\' then
      match readEscape rest with
      | .error fault => .error fault
      | .ok (escaped, rest) => readStringTo steps (out.push escaped) rest
    else if c.toNat < 0x20 then .error ⟨.controlCharacter, c :: rest, 1⟩
    else readStringTo steps (out.push c) rest

/-- Reads the rest of a string after its opening quote. One step more than there are characters left
is always enough. -/
def readString (steps : Nat) (text : List Char) : Except Fault (String × List Char) :=
  readStringTo steps "" text

/-! ## Values -/

/-- How many arrays and objects may be open inside each other. -/
def nestingLimit : Nat := 127

mutual

/-- Reads a value in at most `steps` steps, where `room` more brackets may be opened. -/
def readValue : (steps room : Nat) → List Char → Except Fault (Json × List Char)
  | 0, _, text => .error ⟨.endInValue, text, 0⟩
  | steps + 1, room, text =>
    match skipBlanks text with
    | [] => .error ⟨.endInValue, [], 1⟩
    | c :: rest =>
      match c with
      | 'n' => readWord .null ['u', 'l', 'l'] rest
      | 't' => readWord (.bool true) ['r', 'u', 'e'] rest
      | 'f' => readWord (.bool false) ['a', 'l', 's', 'e'] rest
      | '-' => readNumber true rest
      | '"' =>
        match readString steps rest with
        | .error fault => .error fault
        | .ok (s, rest) => .ok (.string s, rest)
      | '[' =>
        match room with
        | 0 => .error ⟨.nestingLimit, '[' :: rest, 1⟩
        | room + 1 =>
          match skipBlanks rest with
          | [] => .error ⟨.endInArray, [], 1⟩
          | ']' :: rest => .ok (.array [], rest)
          | rest => readElements steps room [] rest
      | '{' =>
        match room with
        | 0 => .error ⟨.nestingLimit, '{' :: rest, 1⟩
        | room + 1 =>
          match skipBlanks rest with
          | [] => .error ⟨.endInObject, [], 1⟩
          | '}' :: rest => .ok (.object [], rest)
          | '"' :: rest => readMembers steps room [] rest
          | rest => .error ⟨.keyNotString, rest, 1⟩
      | _ =>
        if c.isDigit then readNumber false (c :: rest) else .error ⟨.expectedValue, c :: rest, 1⟩

/-- Reads an element of an array and those that follow it, in front of the elements already read,
which are given last to first. -/
def readElements :
    (steps room : Nat) → (elements : List Json) → List Char → Except Fault (Json × List Char)
  | 0, _, _, text => .error ⟨.endInArray, text, 0⟩
  | steps + 1, room, elements, text =>
    match readValue steps room text with
    | .error fault => .error fault
    | .ok (value, rest) =>
      match skipBlanks rest with
      | [] => .error ⟨.endInArray, [], 1⟩
      | ']' :: rest => .ok (.array (value :: elements).reverse, rest)
      | ',' :: rest =>
        match skipBlanks rest with
        | [] => .error ⟨.endInValue, [], 1⟩
        | ']' :: rest => .error ⟨.trailingComma, ']' :: rest, 1⟩
        | rest => readElements steps room (value :: elements) rest
      | rest => .error ⟨.expectedElementEnd, rest, 1⟩

/-- Reads a member of an object after the opening quote of its key, and the members that follow it.
The members already read are given last to first. -/
def readMembers :
    (steps room : Nat) → (members : List (String × Json)) → List Char →
      Except Fault (Json × List Char)
  | 0, _, _, text => .error ⟨.endInObject, text, 0⟩
  | steps + 1, room, members, text =>
    match readString steps text with
    | .error fault => .error fault
    | .ok (key, rest) =>
      match skipBlanks rest with
      | [] => .error ⟨.endInObject, [], 1⟩
      | ':' :: rest =>
        match readValue steps room rest with
        | .error fault => .error fault
        | .ok (value, rest) =>
          match skipBlanks rest with
          | [] => .error ⟨.endInObject, [], 1⟩
          | '}' :: rest => .ok (ofReversedMembers ((key, value) :: members), rest)
          | ',' :: rest =>
            match skipBlanks rest with
            | [] => .error ⟨.endInValue, [], 1⟩
            | '"' :: rest => readMembers steps room ((key, value) :: members) rest
            | '}' :: rest => .error ⟨.trailingComma, '}' :: rest, 1⟩
            | rest => .error ⟨.keyNotString, rest, 1⟩
          | rest => .error ⟨.expectedMemberEnd, rest, 1⟩
      | rest => .error ⟨.expectedColon, rest, 1⟩

end

/-- Reads a text that is one value with blanks around it. -/
def readText (text : List Char) : Except Fault Json :=
  match readValue (2 * text.length + 2) nestingLimit text with
  | .error fault => .error fault
  | .ok (value, rest) =>
    match skipBlanks rest with
    | [] => .ok value
    | rest => .error ⟨.trailingCharacters, rest, 1⟩

/-- Reads a whole text as JSON. -/
def parse (text : String) : Except ParseError Json :=
  let chars := text.toList
  (readText chars).mapError (·.locate chars)

end EventBatching.Json
