import InferenceFleet.Decimal.Reading
import InferenceFleet.Document.Tree
import InferenceFleet.Toml.Moment

/-!
# Numbers of TOML

Whole numbers of 64 bits in decimal with an optional sign, or without one in hexadecimal, octal
or binary behind a mark; and binary64 numbers, written with a fraction, an exponent or both, or
as `inf` or `nan`. Single underscores may stand between digits, and a decimal number has no
leading zero. A numeral too large for binary64 is refused unless it is negative. What starts like
a moment is one.
-/

namespace InferenceFleet.Toml

/-- Digits at the head of a list after a first one, each perhaps behind an underscore; nothing if
an underscore is not followed by a digit. -/
def moreDigits? (digit? : Char → Option Nat) : List Char → Option (List Nat × List Char)
  | [] => some ([], [])
  | '_' :: rest =>
      match rest with
      | [] => none
      | c :: rest =>
          match digit? c with
          | some d => (moreDigits? digit? rest).map fun (ds, rest) => (d :: ds, rest)
          | none => none
  | c :: rest =>
      match digit? c with
      | some d => (moreDigits? digit? rest).map fun (ds, rest) => (d :: ds, rest)
      | none => some ([], c :: rest)

/-- At least one digit at the head of a list. -/
def digits? (digit? : Char → Option Nat) : List Char → Option (List Nat × List Char)
  | [] => none
  | c :: rest => do
      let d ← digit? c
      let (ds, rest) ← moreDigits? digit? rest
      some (d :: ds, rest)

/-- A sign at the head of a list, if there is one: whether it is a minus. -/
def readSign : List Char → Bool × List Char
  | '-' :: rest => (true, rest)
  | '+' :: rest => (false, rest)
  | cs => (false, cs)

/-- The whole part of a decimal number: a zero, or digits that do not start with one. -/
def readWhole? : List Char → Option (List Nat × List Char)
  | '0' :: rest => some ([0], rest)
  | cs => digits? Text.digit? cs

/-- A fraction, if there is one. -/
def readFractionDigits? : List Char → Option (Option (List Nat) × List Char)
  | '.' :: rest => (digits? Text.digit? rest).map fun (ds, rest) => (some ds, rest)
  | cs => some (none, cs)

/-- An exponent, if there is one. -/
def readExponent? (cs : List Char) : Option (Option Int × List Char) :=
  match cs with
  | 'e' :: rest | 'E' :: rest =>
      let (negative, rest) := readSign rest
      (digits? Text.digit? rest).map fun (ds, rest) =>
        let n : Int := Text.ofDigits 10 0 ds
        (some (if negative then -n else n), rest)
  | cs => some (none, cs)

/-- A whole number, if it fits. -/
def wholeTree? (negative : Bool) (n : Nat) : Option Tree :=
  if negative then if n ≤ Text.maxSigned64 + 1 then some (.integer (-(n : Int))) else none
  else if n ≤ Text.maxSigned64 then some (.integer n)
  else none

/-- A binary64 number, if it is not too large. -/
def numberTree? (negative : Bool) (magnitude : Float) : Option Tree :=
  if negative then some (.number (.ofFloat (-magnitude)))
  else if magnitude.isInf then none
  else some (.number (.ofFloat magnitude))

/-- A decimal number. -/
def readDecimal? (cs : List Char) : Option (Tree × List Char) := do
  let (negative, cs) := readSign cs
  let (whole, cs) ← readWhole? cs
  let (fraction, cs) ← readFractionDigits? cs
  let (exponent, cs) ← readExponent? cs
  let tree ← match fraction, exponent with
    | none, none => wholeTree? negative (Text.ofDigits 10 0 whole)
    | fraction, exponent =>
        let fraction := fraction.getD []
        let coefficient := Text.ofDigits 10 (Text.ofDigits 10 0 whole) fraction
        numberTree? negative (Decimal.nearest coefficient (exponent.getD 0 - fraction.length))
  some (tree, cs)

/-- A whole number in a base, behind its mark. -/
def readInBase? (base : Nat) (cs : List Char) : Option (Tree × List Char) := do
  let digit? (c : Char) := (Text.hexDigit? c).filter (· < base)
  let (digits, rest) ← digits? digit? cs
  let tree ← wholeTree? false (Text.ofDigits base 0 digits)
  some (tree, rest)

/-- One of the two numbers that are spelled out. -/
def readSpelled? (cs : List Char) : Option (Tree × List Char) :=
  let (negative, cs) := readSign cs
  let signed (x : Float) : Tree := .number (.ofFloat (if negative then -x else x))
  match cs with
  | 'i' :: 'n' :: 'f' :: rest => some (signed (1.0 / 0.0), rest)
  | 'n' :: 'a' :: 'n' :: rest => some (signed (0.0 / 0.0), rest)
  | _ => none

/-- The name of the field that holds a moment. -/
def momentField : String := "$__toml_private_datetime"

/-- A number or a moment at the head of a list of characters. -/
def readNumber? (cs : List Char) : Option (Tree × List Char) :=
  match readMoment? cs with
  | some (m, rest) => some (.record [(momentField, .text m.text)], rest)
  | none =>
      match readSpelled? cs, cs with
      | some result, _ => some result
      | none, '0' :: 'x' :: rest => readInBase? 16 rest
      | none, '0' :: 'o' :: rest => readInBase? 8 rest
      | none, '0' :: 'b' :: rest => readInBase? 2 rest
      | none, cs => readDecimal? cs

end InferenceFleet.Toml
