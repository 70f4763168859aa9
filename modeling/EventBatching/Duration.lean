/-!
# Durations as text

Durations are counted in microseconds. A duration is shown in the largest of seconds, milliseconds
and microseconds of which it holds at least one, with as many decimals as it needs.
-/

namespace EventBatching.Duration

/-- Microseconds in a millisecond. -/
def perMilli : Nat := 1000

/-- Microseconds in a second. -/
def perSecond : Nat := 1000000

/-- The decimals of `part / 10 ^ places` after the point, without zeros at the end. -/
def decimals (places part : Nat) : List Char :=
  let digits := Nat.toDigits 10 part
  let filled := List.replicate (places - digits.length) '0' ++ digits
  (filled.reverse.dropWhile (· == '0')).reverse

/-- A whole number of units and a rest of `places` decimals. -/
def inUnit (places : Nat) (unit : String) (micros : Nat) : String :=
  let fraction := decimals places (micros % Nat.pow 10 places)
  let whole := toString (micros / Nat.pow 10 places)
  if fraction.isEmpty then whole ++ unit else whole ++ "." ++ String.ofList fraction ++ unit

/-- A duration in its largest unit. -/
def text (micros : Nat) : String :=
  if perSecond ≤ micros then inUnit 6 "s" micros
  else if perMilli ≤ micros then inUnit 3 "ms" micros
  else if 0 < micros then inUnit 0 "µs" micros
  else "0ns"

end EventBatching.Duration
