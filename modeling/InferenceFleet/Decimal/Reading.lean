import InferenceFleet.Text.Digits

/-!
# Reading decimals

The value of a decimal as a binary64 number, in two ways. `nearest` is the correctly rounded
value, whatever the number of digits. `scaled` is the value that comes from collecting digits in
a 64-bit word and then scaling that word by powers of ten in binary64 arithmetic; it is what JSON
text means here and differs from the nearest value in the last bit of some long numerals.

The grammar of free-standing numerals (an optional sign, then digits with an optional point and
an optional exponent, or a spelled infinity or NaN) is `readFloat?`.
-/

namespace InferenceFleet.Decimal

/-- The binary64 number nearest to `coefficient * 10 ^ exponent`. Exponents far outside the range
of the format are decided by size alone. -/
def nearest (coefficient : Nat) (exponent : Int) : Float :=
  if coefficient = 0 then 0.0
  else
    let lead := (Nat.toDigits 10 coefficient).length + exponent
    if 400 < lead then 1.0 / 0.0
    else if lead < -400 then 0.0
    else if 0 ≤ exponent then Float.ofScientific coefficient false exponent.toNat
    else Float.ofScientific coefficient true (-exponent).toNat

/-- The binary64 number nearest to `10 ^ k`, for `k` up to 308. -/
def powerOfTen (k : Nat) : Float :=
  nearest 1 k

/-- Scales by `10 ^ exponent`: one multiplication, or divisions of at most 308 places each.
`none` if the value is too large. -/
def scaleBy : Nat → Float → Int → Option Float
  | 0, x, _ => some x
  | fuel + 1, x, exponent =>
      if exponent.natAbs ≤ 308 then
        if 0 ≤ exponent then
          let y := x * powerOfTen exponent.toNat
          if y.isInf then none else some y
        else some (x / powerOfTen exponent.natAbs)
      else if x == 0.0 then some x
      else if 0 ≤ exponent then none
      else scaleBy fuel (x / powerOfTen 308) (exponent + 308)

/-- The value of a word of digits scaled by a power of ten; a value too large is no value. Six
divisions by `10 ^ 308` exhaust every number. -/
def scaled (word : Nat) (exponent : Int) : Option Float :=
  scaleBy 8 (UInt64.ofNat word).toFloat (max exponent (-2000))

/-- The digits at the head of a list, and what follows them. -/
def spanDigits (cs : List Char) : List Nat × List Char :=
  (cs.takeWhile Char.isDigit |>.map fun c => c.toNat - '0'.toNat, cs.dropWhile Char.isDigit)

/-- A signed whole exponent that fills the rest of a numeral. -/
def readExponent? (cs : List Char) : Option Int :=
  let (negative, body) := match cs with
    | '-' :: rest => (true, rest)
    | '+' :: rest => (false, rest)
    | cs => (false, cs)
  match spanDigits body with
  | ([], _) => none
  | (_, _ :: _) => none
  | (digits, []) =>
      let n := Text.ofDigits 10 0 digits
      some (if negative then -(n : Int) else n)

/-- The magnitude of a numeral without sign: digits, at most one point among them, at least one
digit, and an optional exponent. -/
def readMagnitude? (cs : List Char) : Option Float :=
  let (whole, rest) := spanDigits cs
  let (fraction, rest) := match rest with
    | '.' :: rest => spanDigits rest
    | rest => ([], rest)
  if whole.isEmpty && fraction.isEmpty then none
  else
    let coefficient := Text.ofDigits 10 (Text.ofDigits 10 0 whole) fraction
    match rest with
    | [] => some (nearest coefficient (-(fraction.length : Int)))
    | e :: rest =>
        if e = 'e' ∨ e = 'E' then
          (readExponent? rest).map fun n => nearest coefficient (n - fraction.length)
        else none

/-- A free-standing numeral, or one of `inf`, `infinity` and `nan` in any case. -/
def readFloat? (cs : List Char) : Option Float :=
  let (negative, body) := match cs with
    | '-' :: rest => (true, rest)
    | '+' :: rest => (false, rest)
    | cs => (false, cs)
  let spelled := String.ofList (body.map Char.toLower)
  let magnitude? :=
    if spelled = "inf" ∨ spelled = "infinity" then some (1.0 / 0.0 : Float)
    else if spelled = "nan" then some (0.0 / 0.0 : Float)
    else readMagnitude? body
  magnitude?.map fun x => if negative then -x else x

end InferenceFleet.Decimal
