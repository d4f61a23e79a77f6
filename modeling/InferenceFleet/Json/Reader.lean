import InferenceFleet.Json.Numeral
import InferenceFleet.Json.Quoted

/-!
# Reading JSON text

The grammar of JSON, strictly: four blanks, no comments, no trailing commas, nothing after the
value. Reading keeps every field in its place, repeated keys included, and marks what has no
value as unreadable, so that it depends on the use whether that matters. The fuel of the mutual
readers is twice the number of characters: every two steps consume one.
-/

namespace InferenceFleet.Json

/-- The blanks of the format. -/
def isBlank (c : Char) : Bool :=
  c == ' ' || c == '\n' || c == '\t' || c == '\r'

/-- The list without the blanks it starts with. -/
def skipBlanks (cs : List Char) : List Char :=
  cs.dropWhile isBlank

/-- The rest of a list after a given beginning. -/
def after? : List Char → List Char → Option (List Char)
  | [], cs => some cs
  | _ :: _, [] => none
  | a :: as, c :: cs => if a = c then after? as cs else none

/-- A word of the grammar and the tree it stands for. -/
def readWord? (cs : List Char) : Option (Tree × List Char) :=
  match cs with
  | 'n' :: rest => (after? ['u', 'l', 'l'] rest).map fun rest => (.null, rest)
  | 't' :: rest => (after? ['r', 'u', 'e'] rest).map fun rest => (.bool true, rest)
  | 'f' :: rest => (after? ['a', 'l', 's', 'e'] rest).map fun rest => (.bool false, rest)
  | _ => none

/-- A record, or nothing readable if one of its keys is not. -/
def recordOf (fields : List (Option String × Tree)) : Tree :=
  match fields.mapM (fun f => f.1.map fun key => (key, f.2)) with
  | some fields => .record fields
  | none => .unreadable

mutual
/-- A value at the head of a list of characters, after blanks. -/
def readValue? : Nat → List Char → Option (Tree × List Char)
  | 0, _ => none
  | fuel + 1, cs =>
      match skipBlanks cs with
      | [] => none
      | '"' :: rest => do
          let (chars, rest) ← readQuoted? fuel rest
          some (((textOf? chars).map Tree.text).getD .unreadable, rest)
      | '[' :: rest =>
          match skipBlanks rest with
          | ']' :: rest => some (.list [], rest)
          | rest => do
              let (items, rest) ← readItems? fuel rest
              some (.list items, rest)
      | '{' :: rest =>
          match skipBlanks rest with
          | '}' :: rest => some (.record [], rest)
          | rest => do
              let (fields, rest) ← readFields? fuel rest
              some (recordOf fields, rest)
      | c :: rest =>
          if c = '-' ∨ c.isDigit then do
            let (numeral, rest) ← readNumeral? (c :: rest)
            some (numeral.tree, rest)
          else readWord? (c :: rest)

/-- The items of a list that is not empty, and the bracket that ends it. -/
def readItems? : Nat → List Char → Option (List Tree × List Char)
  | 0, _ => none
  | fuel + 1, cs => do
      let (item, rest) ← readValue? fuel cs
      match skipBlanks rest with
      | ']' :: rest => some ([item], rest)
      | ',' :: rest => do
          let (items, rest) ← readItems? fuel rest
          some (item :: items, rest)
      | _ => none

/-- The fields of a record that is not empty, and the brace that ends it. -/
def readFields? : Nat → List Char → Option (List (Option String × Tree) × List Char)
  | 0, _ => none
  | fuel + 1, cs =>
      match skipBlanks cs with
      | '"' :: rest => do
          let (chars, rest) ← readQuoted? fuel rest
          match skipBlanks rest with
          | ':' :: rest => do
              let (value, rest) ← readValue? fuel rest
              match skipBlanks rest with
              | '}' :: rest => some ([(textOf? chars, value)], rest)
              | ',' :: rest => do
                  let (fields, rest) ← readFields? fuel rest
                  some ((textOf? chars, value) :: fields, rest)
              | _ => none
          | _ => none
      | _ => none
end

/-- The tree of a whole text, as it is written. -/
def read? (s : String) : Option Tree :=
  let cs := s.toList
  match readValue? (2 * cs.length + 2) cs with
  | some (tree, rest) => if (skipBlanks rest).isEmpty then some tree else none
  | none => none

/-- The deepest nesting of a text that is read as a value of its own. -/
def maxDepth : Nat := 127

/-- The tree of a whole text as a value of its own: bounded in depth, readable throughout, and with
the last value of every repeated key. -/
def readGeneric? (s : String) : Option Tree :=
  (read? s).bind (Tree.generic? maxDepth)

end InferenceFleet.Json
