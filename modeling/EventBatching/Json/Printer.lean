import EventBatching.Json.Basic
import EventBatching.Number.Shortest

/-!
# Writing JSON text

A value is written without blanks. In a string only the quote, the backslash and the characters
below the space are escaped; everything else stands as it is. The writer appends to a text that it
is given, so that a large value is written in one pass.

* `Json.quote` is a string with its quotes.
* `Json.push` appends a value to a text, and `Json.print` is the text of a value.
-/

namespace EventBatching.Json

/-- A hexadecimal digit, in lower case. -/
def hexDigit (n : Nat) : Char := if n < 10 then Char.ofNat (48 + n) else Char.ofNat (87 + n)

/-- How a character is written inside a string. -/
def escape (c : Char) : List Char :=
  if c = '"' then ['\\', '"']
  else if c = '\\' then ['\\', '\\']
  else if c = '\x08' then ['\\', 'b']
  else if c = '\t' then ['\\', 't']
  else if c = '\n' then ['\\', 'n']
  else if c = '\x0c' then ['\\', 'f']
  else if c = '\r' then ['\\', 'r']
  else if c.toNat < 0x20 then
    ['\\', 'u', '0', '0', hexDigit (c.toNat / 16), hexDigit (c.toNat % 16)]
  else [c]

/-- Appends characters to a text. -/
def pushChars (out : String) (chars : List Char) : String := chars.foldl String.push out

/-- Appends a string with its quotes to a text. -/
def pushQuoted (out : String) (s : String) : String :=
  (s.toList.foldl (fun out c => pushChars out (escape c)) (out.push '"')).push '"'

/-- A string with its quotes. -/
def quote (s : String) : String := pushQuoted "" s

mutual

/-- Appends the text of a value. -/
def push (out : String) : Json → String
  | .null => out ++ "null"
  | .bool true => out ++ "true"
  | .bool false => out ++ "false"
  | .int n => out ++ toString n.val
  | .float x => pushChars out x.text
  | .string s => pushQuoted out s
  | .array elements => (pushElements (out.push '[') true elements).push ']'
  | .object members => (pushMembers (out.push '{') true members).push '}'

/-- Appends elements with commas between them. -/
def pushElements (out : String) (first : Bool) : List Json → String
  | [] => out
  | v :: rest => pushElements (push (if first then out else out.push ',') v) false rest

/-- Appends members with commas between them. -/
def pushMembers (out : String) (first : Bool) : List (String × Json) → String
  | [] => out
  | (key, v) :: rest =>
    let start := if first then out else out.push ','
    pushMembers (push ((pushQuoted start key).push ':') v) false rest

end

/-- The text of a value. -/
def print (v : Json) : String := push "" v

/-- The text of a list of values. -/
def printList (elements : List Json) : String := print (.array elements)

end EventBatching.Json
