import InferenceFleet.Decimal.Reading
import InferenceFleet.Document.Tree

/-!
# Numerals of JSON text

A numeral is an optional minus sign, whole digits without a leading zero, an optional fraction of
at least one digit, and an optional exponent. Without fraction and exponent it is a whole number
if it fits 64 bits; the one whole numeral that is read as binary64 is `-0`, which keeps its sign.
Every other numeral is read by collecting digits in a 64-bit word and scaling it; it has no value
if the result is too large.
-/

namespace InferenceFleet.Json

/-- A numeral as it is written. -/
structure Numeral where
  negative : Bool
  whole : List Nat
  fraction : Option (List Nat)
  exponent : Option Int

namespace Numeral

/-- Digits collected in a 64-bit word, and how many places the word was shifted by. -/
structure Collected where
  word : Nat
  places : Int
  full : Bool

/-- One more whole digit; a digit that does not fit ends the collection, and it and every later
whole digit count as a place. -/
def Collected.addWhole (acc : Collected) (d : Nat) : Collected :=
  if acc.full ∨ Text.maxWord64 < acc.word * 10 + d then
    { acc with places := acc.places + 1, full := true }
  else { acc with word := acc.word * 10 + d }

/-- One more fraction digit; a digit that does not fit ends the collection. -/
def Collected.addFraction (acc : Collected) (d : Nat) : Collected :=
  if acc.full ∨ Text.maxWord64 < acc.word * 10 + d then { acc with full := true }
  else { acc with word := acc.word * 10 + d, places := acc.places - 1 }

/-- The binary64 value, if it is not too large. -/
def number? (n : Numeral) : Option Binary64 :=
  let whole := n.whole.foldl Collected.addWhole ⟨0, 0, false⟩
  let all := (n.fraction.getD []).foldl Collected.addFraction { whole with full := false }
  (Decimal.scaled all.word (all.places + n.exponent.getD 0)).map fun x =>
    .ofFloat (if n.negative then -x else x)

/-- What the numeral stands for. -/
def tree (n : Numeral) : Tree :=
  let value := Text.ofDigits 10 0 n.whole
  let whole? : Option Tree :=
    if n.fraction.isSome ∨ n.exponent.isSome then none
    else if n.negative then
      if 0 < value ∧ value ≤ Text.maxSigned64 + 1 then some (.integer (-(value : Int))) else none
    else if value ≤ Text.maxWord64 then some (.integer value)
    else none
  match whole? with
  | some t => t
  | none => (n.number?.map Tree.number).getD .unreadable

end Numeral

/-- Whether digits are those of a whole number: there are some, and no zero before others. -/
def isWhole : List Nat → Bool
  | [] => false
  | 0 :: _ :: _ => false
  | _ => true

/-- A fraction at the head of a list of characters, if one starts there. -/
def readFraction? : List Char → Option (Option (List Nat) × List Char)
  | '.' :: rest =>
      match Decimal.spanDigits rest with
      | ([], _) => none
      | (digits, rest) => some (some digits, rest)
  | cs => some (none, cs)

/-- The sign of an exponent, and what follows it. -/
def exponentSign : List Char → Int × List Char
  | '-' :: rest => (-1, rest)
  | '+' :: rest => (1, rest)
  | cs => (1, cs)

/-- An exponent at the head of a list of characters, if one starts there. -/
def readExponent? (cs : List Char) : Option (Option Int × List Char) :=
  if cs.head? = some 'e' ∨ cs.head? = some 'E' then
    let (sign, rest) := exponentSign cs.tail
    match Decimal.spanDigits rest with
    | ([], _) => none
    | (digits, rest) => some (some (sign * Text.ofDigits 10 0 digits), rest)
  else some (none, cs)

/-- A numeral behind its sign at the head of a list of characters. -/
def readUnsigned? (negative : Bool) (cs : List Char) : Option (Numeral × List Char) :=
  let (whole, cs) := Decimal.spanDigits cs
  if isWhole whole then do
    let (fraction, cs) ← readFraction? cs
    let (exponent, cs) ← readExponent? cs
    some (⟨negative, whole, fraction, exponent⟩, cs)
  else none

/-- A numeral at the head of a list of characters. -/
def readNumeral? : List Char → Option (Numeral × List Char)
  | '-' :: rest => readUnsigned? true rest
  | cs => readUnsigned? false cs

end InferenceFleet.Json
