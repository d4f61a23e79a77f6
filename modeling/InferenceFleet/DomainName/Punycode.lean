import InferenceFleet.Text.Digits

/-!
# Punycode

Any text as a text of ASCII characters. The ASCII characters come first, and a hyphen if there are
any. Then the others are described in increasing order of code points: for each of them a number
tells how many steps it is away from the one before, where a step goes to the next place in the
text, and from the last place to the first with the next code point. Numbers are written with 36
digits, the lowest first, and end with a digit below a threshold, which adapts to the size of the
numbers so far.
-/

namespace InferenceFleet.Punycode

open Text (maxWord32)

/-- The value of a digit. -/
def digit? (c : Char) : Option Nat :=
  if 'a' ≤ c ∧ c ≤ 'z' then some (c.toNat - 'a'.toNat)
  else if 'A' ≤ c ∧ c ≤ 'Z' then some (c.toNat - 'A'.toNat)
  else if '0' ≤ c ∧ c ≤ '9' then some (c.toNat - '0'.toNat + 26)
  else none

/-- The digit of a value. -/
def digit (value : Nat) : Char :=
  if value < 26 then Char.ofNat ('a'.toNat + value) else Char.ofNat ('0'.toNat + (value - 26))

/-- The threshold of the digit at a position; positions are counted in steps of 36. -/
def threshold (bias position : Nat) : Nat := min 26 (max 1 (position - bias))

theorem threshold_pos (bias position : Nat) : 1 ≤ threshold bias position := by
  simp only [threshold]; omega

/-- The bias for numbers of the size of `delta`, on top of `bias`. -/
def biasFrom (bias delta : Nat) : Nat :=
  if 455 < delta then biasFrom (bias + 36) (delta / 35) else bias + 36 * delta / (delta + 38)
termination_by delta
decreasing_by exact Nat.div_lt_self (by omega) (by omega)

/-- The bias after a number, once the text has `count` characters. -/
def biasAfter (number count : Nat) (isFirst : Bool) : Nat :=
  let damped := if isFirst then number / 700 else number / 2
  biasFrom 0 (damped + damped / count)

/-- The bias of the first number. -/
def firstBias : Nat := 72

/-- A text that is being read, and the number that is open. -/
structure Reading where
  text : List Char
  /-- The code point that was put in last. -/
  code : Nat
  /-- The place after it. -/
  place : Nat
  bias : Nat
  /-- The place together with the open number. -/
  total : Nat
  /-- What one counts at the next digit. -/
  weight : Nat
  /-- The position of the next digit. -/
  position : Nat

/-- Puts a character in, after its number. -/
def Reading.insert? (r : Reading) (total : Nat) : Option Reading :=
  let count := r.text.length + 1
  let code := r.code + total / count
  let place := total % count
  if code.isValidChar then
    some
      { text := r.text.take place ++ Char.ofNat code :: r.text.drop place
        code := code
        place := place + 1
        bias := biasAfter (total - r.place) count (r.place == 0)
        total := place + 1
        weight := 1
        position := 36 }
  else none

/-- Reads a digit. Numbers of more than 32 bits are refused. -/
def Reading.digit? (r : Reading) (c : Char) : Option Reading :=
  match Punycode.digit? c with
  | none => none
  | some value =>
      let total := r.total + value * r.weight
      let limit := threshold r.bias r.position
      if maxWord32 < total then none
      else if value < limit then r.insert? total
      else if maxWord32 < r.weight * (36 - limit) then none
      else
        some { r with
          total := total, weight := r.weight * (36 - limit), position := r.position + 36 }

/-- Splits what stands before the last hyphen, if that is anything, from the digits. -/
def splitDigits (cs : List Char) : List Char × List Char :=
  match cs.reverse.dropWhile (· ≠ '-') with
  | _ :: before@(_ :: _) => (before.reverse, (cs.reverse.takeWhile (· ≠ '-')).reverse)
  | _ => ([], cs)

/-- The text that is written as a list of ASCII characters. -/
def decode? (cs : List Char) : Option (List Char) :=
  let (plain, digits) := splitDigits cs
  match digits.foldlM Reading.digit? ⟨plain, 0x80, 0, firstBias, 0, 1, 36⟩ with
  | some r => if r.position = 36 then some r.text else none
  | none => none

/-- The digits of a number, from a position on. -/
def number (bias position n : Nat) : List Char :=
  let limit := threshold bias position
  if n < limit then [digit n]
  else
    digit (limit + (n - limit) % (36 - limit))
      :: number bias (position + 36) ((n - limit) / (36 - limit))
termination_by n
decreasing_by
  have hpos := threshold_pos bias position
  exact Nat.lt_of_le_of_lt (Nat.div_le_self _ _) (by omega)

/-- A text that is being written: the digits so far, the steps since the last number, the bias,
and how many characters were described. -/
structure Writing where
  digits : List Char
  steps : Nat
  bias : Nat
  count : Nat

/-- Passes a character on the way through the text for a code point; `plain` is the number of
ASCII characters. -/
def Writing.pass (plain code : Nat) (w : Writing) (c : Char) : Writing :=
  if c.toNat < code then { w with steps := w.steps + 1 }
  else if c.toNat = code then
    { digits := w.digits ++ number w.bias 36 w.steps
      steps := 0
      bias := biasAfter w.steps (w.count + 1) (w.count == plain)
      count := w.count + 1 }
  else w

/-- Goes through the text once for every code point, in increasing order; `next` is the one after
the last. -/
def writeFrom (cs : List Char) (plain next : Nat) (w : Writing) : List Nat → Writing
  | [] => w
  | code :: rest =>
      let w := { w with steps := w.steps + (code - next) * (w.count + 1) }
      let w := cs.foldl (Writing.pass plain code) w
      writeFrom cs plain (code + 1) { w with steps := w.steps + 1 } rest

/-- Writes a text with ASCII characters. -/
def encode (cs : List Char) : List Char :=
  let plain := cs.filter fun c => c.toNat < 0x80
  let others := (cs.filter fun c => 0x80 ≤ c.toNat).map Char.toNat
  let codes := (others.mergeSort fun a b => a ≤ b).eraseReps
  let w := writeFrom cs plain.length 0x80 ⟨[], 0, firstBias, plain.length⟩ codes
  plain ++ (if plain.isEmpty then [] else ['-']) ++ w.digits

end InferenceFleet.Punycode
