/-!
# Durations

Lengths of time in nanoseconds, and their text in messages: the largest of the units second,
millisecond, microsecond and nanosecond that is not longer than the duration, with as many places
as it takes and no zeros at the end.
-/

namespace InferenceFleet

/-- A length of time in nanoseconds. -/
abbrev Duration := Nat

namespace Duration

/-- Whole seconds. -/
def ofSeconds (n : Nat) : Duration := n * 1000000000

/-- Whole milliseconds. -/
def ofMillis (n : Nat) : Duration := n * 1000000

/-- The least of some lengths of time. -/
def least? : List Duration → Option Duration
  | [] => none
  | d :: rest => some (rest.foldl min d)

/-- The places of a fraction `n / 10 ^ width`, without zeros at its end. -/
def places (width n : Nat) : List Char :=
  let digits := Nat.toDigits 10 n
  let padded := List.replicate (width - digits.length) '0' ++ digits
  (padded.reverse.dropWhile (· == '0')).reverse

/-- A number of units of `10 ^ width` nanoseconds each. -/
def inUnits (width : Nat) (unit : String) (d : Duration) : String :=
  let fraction := d % Nat.pow 10 width
  let whole := String.ofList (Nat.toDigits 10 (d / Nat.pow 10 width))
  if fraction = 0 then whole ++ unit
  else whole ++ "." ++ String.ofList (places width fraction) ++ unit

/-- The text of a duration in a message. -/
def text (d : Duration) : String :=
  if 1000000000 ≤ d then inUnits 9 "s" d
  else if 1000000 ≤ d then inUnits 6 "ms" d
  else if 1000 ≤ d then inUnits 3 "µs" d
  else inUnits 0 "ns" d

end Duration

end InferenceFleet
