import InferenceFleet.Binary64.Basic

/-!
# Document trees

What the readers of this library produce and its writers consume: scalars, lists, and records
whose fields keep their order and may repeat a key. Whole numbers and binary64 numbers are told
apart. A scalar that is well formed as text but has no value (a numeral out of range, half of a
surrogate pair) is `unreadable`: it may stand where nothing looks at it and is refused everywhere
else.
-/

namespace InferenceFleet

/-- A document, whatever the format it was read from. -/
inductive Tree where
  | null
  | bool (value : Bool)
  | integer (value : Int)
  | number (value : Binary64)
  | text (value : String)
  | list (items : List Tree)
  | record (fields : List (String × Tree))
  | unreadable
  deriving Inhabited

namespace Tree

/-- The last value under a key. -/
def field? (key : String) : List (String × Tree) → Option Tree
  | [] => none
  | (k, value) :: rest =>
      match field? key rest with
      | some later => some later
      | none => if k = key then some value else none

/-- The fields with each key once, at its first place and with its last value. -/
def lastWins : List (String × Tree) → List (String × Tree)
  | [] => []
  | (k, value) :: rest =>
      (k, (field? k rest).getD value) :: (lastWins rest).filter (fun f => f.1 ≠ k)

mutual
/-- The tree as a value of its own: nested at most `depth` deep, with nothing unreadable in it,
and with the last value of every repeated key. -/
def generic? (depth : Nat) : Tree → Option Tree
  | .unreadable => none
  | .list items =>
      match depth with
      | 0 => none
      | depth + 1 => (genericItems? depth items).map .list
  | .record fields =>
      match depth with
      | 0 => none
      | depth + 1 => (genericFields? depth fields).map fun fs => .record (lastWins fs)
  | .null => some .null
  | .bool b => some (.bool b)
  | .integer n => some (.integer n)
  | .number x => some (.number x)
  | .text s => some (.text s)

/-- The items of a list as values of their own. -/
def genericItems? (depth : Nat) : List Tree → Option (List Tree)
  | [] => some []
  | item :: rest => do
      let item ← generic? depth item
      let rest ← genericItems? depth rest
      some (item :: rest)

/-- The fields of a record as values of their own. -/
def genericFields? (depth : Nat) : List (String × Tree) → Option (List (String × Tree))
  | [] => some []
  | (key, value) :: rest => do
      let value ← generic? depth value
      let rest ← genericFields? depth rest
      some ((key, value) :: rest)
end

end Tree

end InferenceFleet
