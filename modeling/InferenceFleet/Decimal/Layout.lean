import InferenceFleet.Decimal.Shortest

/-!
# Layouts of decimal text

How the digits of a shortest decimal are set: positionally or with an exponent, with or without
a fractional zero. A `Layout` is one choice of these; the two layouts of this library are that of
JSON text and that of messages.
-/

namespace InferenceFleet.Decimal

/-- The choices that fix the text of a finite number. -/
structure Layout where
  /-- Which of two equally near shortest decimals is written. -/
  tie : Tie
  /-- The powers of ten of the first digit that are written positionally; `none` is all of them. -/
  positional : Option (Int × Int)
  /-- Whether a positional whole number ends in `.0`. -/
  fractionalZero : Bool

/-- The layout of JSON text: ties go to the even digit, `0.00001` and `1000000000000000.0` are
the last positional powers, and a whole number keeps one fractional zero. -/
def Layout.json : Layout := ⟨.toEven, some (-5, 15), true⟩

/-- The layout of messages: ties go up, never an exponent, and no fractional zero. -/
def Layout.message : Layout := ⟨.up, none, false⟩

/-- The digits of a natural number. -/
def digitsOf (n : Nat) : List Char :=
  Nat.toDigits 10 n

/-- A decimal written without an exponent. -/
def positionalText (fractionalZero : Bool) (d : Scaled) : List Char :=
  let digits := digitsOf d.coefficient
  if 0 ≤ d.exponent then
    digits ++ List.replicate d.exponent.toNat '0' ++ (if fractionalZero then ['.', '0'] else [])
  else
    let places := (-d.exponent).toNat
    if places < digits.length then
      digits.take (digits.length - places) ++ '.' :: digits.drop (digits.length - places)
    else
      '0' :: '.' :: List.replicate (places - digits.length) '0' ++ digits

/-- A decimal written with one digit before the point and a signed exponent. -/
def exponentText (lead : Int) (d : Scaled) : List Char :=
  let sign := if 0 ≤ lead then '+' else '-'
  let mantissa := match digitsOf d.coefficient with
    | first :: [] => [first]
    | first :: rest => first :: '.' :: rest
    | [] => ['0']
  mantissa ++ 'e' :: sign :: digitsOf lead.natAbs

/-- The text of a finite number that is not zero, without its sign. -/
def Layout.unsigned (layout : Layout) (x : Binary64) : List Char :=
  let d := shortest layout.tie x
  let lead := d.exponent + (digitCount d.coefficient : Int) - 1
  match layout.positional with
  | none => positionalText layout.fractionalZero d
  | some (least, greatest) =>
      if least ≤ lead ∧ lead ≤ greatest then positionalText layout.fractionalZero d
      else exponentText lead d

/-- The text of a finite number; zero keeps its sign. -/
def Layout.finite (layout : Layout) (x : Binary64) : String :=
  let sign := if Binary64.isNegative x then ['-'] else []
  let body :=
    if Binary64.magnitude x = 0 then
      if layout.fractionalZero then ['0', '.', '0'] else ['0']
    else layout.unsigned x
  String.ofList (sign ++ body)

/-- The text of any number in a message: `NaN` has no sign, an infinity keeps its own. -/
def messageText (x : Binary64) : String :=
  if Binary64.isFinite x then Layout.message.finite x
  else if Binary64.magnitude x = Binary64.infinityPattern then
    if Binary64.isNegative x then "-inf" else "inf"
  else "NaN"

end InferenceFleet.Decimal
