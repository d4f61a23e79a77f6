import InferenceFleet.Toml.Numeral
import InferenceFleet.Toml.Table
import InferenceFleet.Toml.Text

/-!
# Keys and values of TOML

A key is a list of names, bare or quoted, with points between them. A value is a scalar, a list,
or a table on one line. Lists may be broken over lines, may hold comments, and may end in a comma;
tables on one line may not. Values nest to a bounded depth and keys have a bounded length.
-/

namespace InferenceFleet.Toml

/-- The bound on the depth of values and on the length of keys; both stay below it. -/
def maxDepth : Nat := 80

/-- The characters of bare names. -/
def isBare (c : Char) : Bool :=
  ('a' ≤ c && c ≤ 'z') || ('A' ≤ c && c ≤ 'Z') || ('0' ≤ c && c ≤ '9') || c == '-' || c == '_'

/-- One name of a key. -/
def readName? (cs : List Char) : Option (String × List Char) :=
  match cs with
  | '"' :: rest =>
      (readBasic? (rest.length + 1) rest).map fun (name, rest) => (String.ofList name, rest)
  | '\'' :: rest => (readLiteral? rest).map fun (name, rest) => (String.ofList name, rest)
  | cs =>
      match cs.takeWhile isBare with
      | [] => none
      | name => some (String.ofList name, cs.dropWhile isBare)

/-- The names of a key, with blanks around each; the fuel bounds their number. -/
def readNames? : Nat → List Char → Option (List String × List Char)
  | 0, _ => none
  | fuel + 1, cs => do
      let (name, rest) ← readName? (skipBlanks cs)
      match skipBlanks rest with
      | '.' :: rest => do
          let (names, rest) ← readNames? fuel rest
          some (name :: names, rest)
      | rest => some ([name], rest)

/-- A key, with blanks around it. -/
def readKey? (cs : List Char) : Option (List String × List Char) :=
  readNames? (maxDepth - 1) cs

/-- The rest of a list after a given beginning. -/
def after? : List Char → List Char → Option (List Char)
  | [], cs => some cs
  | _ :: _, [] => none
  | a :: as, c :: cs => if a = c then after? as cs else none

/-- A value that is no list and no table. -/
def readScalar? (cs : List Char) : Option (Tree × List Char) :=
  match cs with
  | [] => none
  | c :: rest =>
      if c = '"' ∨ c = '\'' then
        (readQuoted? (c :: rest)).map fun (text, rest) => (.text text, rest)
      else if c = 't' then (after? ['r', 'u', 'e'] rest).map fun rest => (.bool true, rest)
      else if c = 'f' then (after? ['a', 'l', 's', 'e'] rest).map fun rest => (.bool false, rest)
      else readNumber? (c :: rest)

mutual
/-- A value at the head of a list of characters, with room for `depth` levels below it. -/
def readValue? : Nat → Nat → List Char → Option (Tree × List Char)
  | 0, _, _ => none
  | fuel + 1, depth, cs =>
      match cs, depth with
      | '[' :: _, 0 => none
      | '{' :: _, 0 => none
      | '[' :: rest, depth + 1 => do
          let (items, rest) ← readItems? fuel depth rest
          some (.list items, rest)
      | '{' :: rest, depth + 1 =>
          match skipBlanks rest with
          | '}' :: rest => some (.record [], rest)
          | rest => do
              let (fields, rest) ← readFields? fuel depth [] rest
              some (fields.toTree, rest)
      | cs, _ => readScalar? cs

/-- The items of a list, and the bracket that ends it. -/
def readItems? : Nat → Nat → List Char → Option (List Tree × List Char)
  | 0, _, _ => none
  | fuel + 1, depth, cs =>
      match skipSpace false cs with
      | ']' :: rest => some ([], rest)
      | cs => do
          let (item, rest) ← readValue? fuel depth cs
          match skipSpace false rest with
          | ']' :: rest => some ([item], rest)
          | ',' :: rest => do
              let (items, rest) ← readItems? fuel depth rest
              some (item :: items, rest)
          | _ => none

/-- The fields of a table on one line that is not empty, after those read before, and the brace
that ends it. -/
def readFields? : Nat → Nat → Fields → List Char → Option (Fields × List Char)
  | 0, _, _, _ => none
  | fuel + 1, depth, fields, cs => do
      let (key, rest) ← readKey? cs
      match rest with
      | '=' :: rest => do
          let (value, rest) ← readValue? fuel depth (skipBlanks rest)
          let fields ← fields.add value true key
          match skipBlanks rest with
          | '}' :: rest => some (fields, rest)
          | ',' :: rest => readFields? fuel depth fields rest
          | _ => none
      | _ => none
end

/-- A value at the head of a list of characters, after blanks. -/
def readWholeValue? (cs : List Char) : Option (Tree × List Char) :=
  readValue? (2 * cs.length + 2) (maxDepth - 1) (skipBlanks cs)

end InferenceFleet.Toml
