/-!
# Blanks

The characters that only separate others, whatever the script, texts without them at their ends, and
the lines of a text.

* `Blank.trim` removes the blanks at both ends.
* `Blank.lines` are the lines of a text.
-/

namespace EventBatching.Blank

/-- Whether a character is a blank. -/
def isBlank (c : Char) : Bool :=
  let n := c.toNat
  (9 ≤ n && n ≤ 13) || n == 0x20 || n == 0x85 || n == 0xA0 || n == 0x1680 ||
    (0x2000 ≤ n && n ≤ 0x200A) || n == 0x2028 || n == 0x2029 || n == 0x202F || n == 0x205F ||
    n == 0x3000

/-- A list of characters without the blanks at its end. -/
def trimEnd (cs : List Char) : List Char := (cs.reverse.dropWhile isBlank).reverse

/-- A list of characters without the blanks at its ends. -/
def trimChars (cs : List Char) : List Char := trimEnd (cs.dropWhile isBlank)

/-- A text without the blanks at its ends. -/
def trim (s : String) : String := String.ofList (trimChars s.toList)

/-- A line in reverse without a carriage return at its end. -/
def withoutReturn : List Char → List Char
  | '\r' :: rest => rest
  | begun => begun

/-- The lines of what follows a line that was begun, whose characters are given in reverse. -/
def linesFrom (begun : List Char) : List Char → List String
  | [] => if begun.isEmpty then [] else [String.ofList begun.reverse]
  | c :: rest =>
    if c = '\n' then String.ofList (withoutReturn begun).reverse :: linesFrom [] rest
    else linesFrom (c :: begun) rest

/-- The lines of a text. A carriage return before a line break belongs to it. A line break at the
end of the text begins no further line. -/
def lines (s : String) : List String := linesFrom [] s.toList

end EventBatching.Blank
