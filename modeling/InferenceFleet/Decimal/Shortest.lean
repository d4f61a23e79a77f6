import InferenceFleet.Binary64.Basic

/-!
# Shortest decimals

The decimal with the fewest digits that reads back as a given binary64 number, and among those
the one nearest to it. All arithmetic is on natural numbers. The number is `significand` times a
power of two; the reals that round to it form an interval around it, whose ends belong to it
exactly if the significand is even. On the grid of `n`-digit decimals only the two neighbours of
the number have to be tried, and the first `n` with a neighbour inside the interval gives the
answer. A `Tie` says which of two equally near neighbours is taken.
-/

namespace InferenceFleet.Decimal

/-- Which of two equally near decimals is taken. -/
inductive Tie
  /-- The larger one. -/
  | up
  /-- The one whose last digit is even. -/
  | toEven
  deriving DecidableEq

/-- A positive decimal: the digits of `coefficient`, scaled by `10 ^ exponent`. -/
structure Scaled where
  coefficient : Nat
  exponent : Int
  deriving DecidableEq

/-- A power of a base, one if the exponent is negative. -/
def power (base : Nat) (e : Int) : Nat := Nat.pow base e.toNat

/-- The order of `a * 10 ^ e` and `b * 2 ^ s`. -/
def compareScaled (a : Nat) (e : Int) (b : Nat) (s : Int) : Ordering :=
  compare (a * power 10 e * power 2 (-s)) (b * power 2 s * power 10 (-e))

/-- The number of decimal digits. -/
def digitCount (n : Nat) : Nat :=
  (Nat.toDigits 10 n).length

/-- The least `k` in `[k₀, k₀ + fuel]` with `den ≤ num * 10 ^ k`. -/
def leadingZeros (num den : Nat) : Nat → Nat → Nat
  | 0, k => k
  | fuel + 1, k => if den ≤ num * Nat.pow 10 k then k else leadingZeros num den fuel (k + 1)

/-- The power of ten of the first digit of `m * 2 ^ q`, for `m` not zero. -/
def leadingPower (m : Nat) (q : Int) : Int :=
  let num := m * power 2 q
  let den := power 2 (-q)
  if den ≤ num then (digitCount (num / den) : Int) - 1 else -(leadingZeros num den 400 0 : Int)

/-- The interval of reals that round to a number, in units of a quarter of its last place. -/
structure Cell where
  low : Nat
  value : Nat
  high : Nat
  unit : Int
  closed : Bool

/-- The cell of a finite number that is not zero. -/
def Cell.of (x : Binary64) : Cell :=
  let m := Binary64.significand x
  { low := 4 * m - (if Binary64.isBinadeFloor x then 1 else 2)
    value := 4 * m
    high := 4 * m + 2
    unit := Binary64.exponent x - 2
    closed := m % 2 == 0 }

/-- Whether `c * 10 ^ e` rounds to the number of the cell. -/
def Cell.holds (cell : Cell) (c : Nat) (e : Int) : Bool :=
  match compareScaled c e cell.low cell.unit, compareScaled c e cell.high cell.unit with
  | .gt, .lt => true
  | .eq, _ => cell.closed
  | _, .eq => cell.closed
  | _, _ => false

/-- The largest multiple of `10 ^ e` that is at most the number of the cell. -/
def Cell.floorAt (cell : Cell) (e : Int) : Nat :=
  (cell.value * power 2 cell.unit * power 10 (-e)) / (power 2 (-cell.unit) * power 10 e)

/-- Of the two neighbours `c` and `c + 1`, the one nearer to the number of the cell. -/
def Cell.nearer (cell : Cell) (tie : Tie) (c : Nat) (e : Int) : Nat :=
  match compareScaled (2 * c + 1) e (2 * cell.value) cell.unit with
  | .gt => c
  | .lt => c + 1
  | .eq =>
      match tie with
      | .up => c + 1
      | .toEven => if c % 2 = 0 then c else c + 1

/-- The best decimal on the grid of `10 ^ e`, if one of the two neighbours is in the cell. -/
def Cell.onGrid? (cell : Cell) (tie : Tie) (e : Int) : Option Scaled :=
  let c := cell.floorAt e
  match cell.holds c e && c != 0, cell.holds (c + 1) e with
  | true, true => some ⟨cell.nearer tie c e, e⟩
  | true, false => some ⟨c, e⟩
  | false, true => some ⟨c + 1, e⟩
  | false, false => none

/-- The first grid with a hit, from `n` digits on; seventeen digits always hit. -/
def Cell.firstHit (cell : Cell) (tie : Tie) (lead : Int) : Nat → Nat → Scaled
  | 0, n => ⟨cell.floorAt (lead - n + 1), lead - n + 1⟩
  | fuel + 1, n =>
      match cell.onGrid? tie (lead - n + 1) with
      | some hit => hit
      | none => cell.firstHit tie lead fuel (n + 1)

/-- A decimal without zeros at the end of its coefficient. -/
def Scaled.strip : Nat → Scaled → Scaled
  | 0, d => d
  | fuel + 1, d =>
      if d.coefficient ≠ 0 ∧ d.coefficient % 10 = 0 then
        strip fuel ⟨d.coefficient / 10, d.exponent + 1⟩
      else d

/-- The shortest decimal of a finite number that is not zero. -/
def shortest (tie : Tie) (x : Binary64) : Scaled :=
  let lead := leadingPower (Binary64.significand x) (Binary64.exponent x)
  Scaled.strip 20 ((Cell.of x).firstHit tie lead 17 1)

end InferenceFleet.Decimal
