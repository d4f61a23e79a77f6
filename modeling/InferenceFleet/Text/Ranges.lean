import InferenceFleet.Text.Blank
import InferenceFleet.Text.Digits
import InferenceFleet.Text.Pieces

/-!
# Tables of code points

Look-up by halving in tables whose keys increase, and the two kinds of rows that most tables have:
ranges of code points, and runs of code points that are mapped alike. Long tables are written as
texts: rows between blanks, each of them hexadecimal numbers with dots in between.
-/

namespace InferenceFleet.Text

/-- The last index in `[lo, hi)` whose key is at most `n`, by halving. -/
def lastAtMost {α : Type} (key : α → Nat) (table : Array α) (n : Nat) : Nat → Nat → Nat → Nat
  | 0, lo, _ => lo
  | fuel + 1, lo, hi =>
      if hi ≤ lo + 1 then lo
      else
        let mid := (lo + hi) / 2
        match table[mid]? with
        | none => lo
        | some row =>
            if key row ≤ n then lastAtMost key table n fuel mid hi
            else lastAtMost key table n fuel lo mid

/-- The only row of an increasing table that can hold `n`. -/
def row? {α : Type} (key : α → Nat) (table : Array α) (n : Nat) : Option α :=
  table[lastAtMost key table n table.size 0 table.size]?

/-- Membership in a table of ranges. -/
def inRanges (table : Array (Nat × Nat)) (c : Char) : Bool :=
  match row? Prod.fst table c.toNat with
  | some (first, last) => first ≤ c.toNat && c.toNat ≤ last
  | none => false

/-- A run of code points from `first` to `last`, `step` apart, mapped to `target` and the code
points after it at the same distances. -/
structure Run where
  first : Nat
  last : Nat
  step : Nat
  target : Nat

/-- What a table of runs maps a character to. -/
def mapped? (table : Array Run) (c : Char) : Option Char :=
  match row? Run.first table c.toNat with
  | some run =>
      let distance := c.toNat - run.first
      if run.first ≤ c.toNat ∧ c.toNat ≤ run.last ∧ distance % run.step = 0 then
        some (Char.ofNat (run.target + distance))
      else none
  | none => none

/-- The rows that a list of characters holds. -/
def rowsOfChars (written : List Char) : List (List Nat) :=
  let rows := (pieces isBlank written).filter fun row => !row.isEmpty
  rows.map fun row =>
    (pieces (· == '.') row).map fun number => ofDigits 16 0 (number.filterMap hexDigit?)

/-- The rows of a written table. -/
def rowsOf (written : String) : List (List Nat) :=
  rowsOfChars written.toList

/-- A table that is written as a literal has its rows read off the characters of the literal, which
is how a look-up in a long table is evaluated. -/
theorem rowsOf_ofList (written : List Char) :
    rowsOf (String.ofList written) = rowsOfChars written := by
  rw [rowsOf, String.toList_ofList]

/-- A table of ranges; a row of one number is a range of one code point. -/
def rangesOf (written : String) : Array (Nat × Nat) :=
  ((rowsOf written).filterMap fun row =>
    match row with
    | [only] => some (only, only)
    | [first, last] => some (first, last)
    | _ => none).toArray

/-- A table of runs; a row of two numbers is a run of one code point. -/
def runsOf (written : String) : Array Run :=
  ((rowsOf written).filterMap fun row =>
    match row with
    | [only, target] => some ⟨only, only, 1, target⟩
    | [first, last, step, target] => some ⟨first, last, step, target⟩
    | _ => none).toArray

end InferenceFleet.Text
