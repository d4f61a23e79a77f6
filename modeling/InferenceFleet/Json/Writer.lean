import InferenceFleet.Decimal.Layout
import InferenceFleet.Document.Tree
import InferenceFleet.Json.Quoted

/-!
# Writing JSON text

Two settings of the same tree: compact, without a blank, and indented by two blanks a level with
one item or field a line. Empty lists and records are closed on the spot in both. A number that
is not finite is written as `null`.
-/

namespace InferenceFleet.Json

/-- A whole number. -/
def integerText (n : Int) : List Char :=
  if n < 0 then '-' :: Nat.toDigits 10 n.natAbs else Nat.toDigits 10 n.natAbs

/-- A binary64 number. -/
def numberText (x : Binary64) : List Char :=
  if x.isFinite then (Decimal.Layout.json.finite x).toList else ['n', 'u', 'l', 'l']

/-- A tree without parts. -/
def scalarText : Tree → List Char
  | .bool true => ['t', 'r', 'u', 'e']
  | .bool false => ['f', 'a', 'l', 's', 'e']
  | .integer n => integerText n
  | .number x => numberText x
  | .text s => quote s
  | _ => ['n', 'u', 'l', 'l']

mutual
/-- A tree without any blank. -/
def compactChars : Tree → List Char
  | .list [] => ['[', ']']
  | .list (item :: items) => '[' :: (compactChars item ++ compactItems items)
  | .record [] => ['{', '}']
  | .record (field :: fields) => '{' :: (compactField field ++ compactFields fields)
  | scalar => scalarText scalar

/-- The later items of a list, each after a comma, and the closing bracket. -/
def compactItems : List Tree → List Char
  | [] => [']']
  | item :: items => ',' :: (compactChars item ++ compactItems items)

/-- A key and its value. -/
def compactField : String × Tree → List Char
  | (key, value) => quote key ++ ':' :: compactChars value

/-- The later fields of a record, each after a comma, and the closing brace. -/
def compactFields : List (String × Tree) → List Char
  | [] => ['}']
  | field :: fields => ',' :: (compactField field ++ compactFields fields)
end

/-- A new line at a level. -/
def newline (level : Nat) : List Char :=
  '\n' :: List.replicate (2 * level) ' '

mutual
/-- A tree with one item or field a line, at a level of indentation. -/
def indentedChars (level : Nat) : Tree → List Char
  | .list [] => ['[', ']']
  | .list (item :: items) =>
      '[' :: (newline (level + 1) ++ indentedChars (level + 1) item ++ indentedItems level items)
  | .record [] => ['{', '}']
  | .record (field :: fields) =>
      '{' :: (newline (level + 1) ++ indentedField level field ++ indentedFields level fields)
  | scalar => scalarText scalar

/-- The later items of a list at a level, and the closing bracket. -/
def indentedItems (level : Nat) : List Tree → List Char
  | [] => newline level ++ [']']
  | item :: items =>
      ',' :: (newline (level + 1) ++ indentedChars (level + 1) item ++ indentedItems level items)

/-- A key and its value, inside a record at a level. -/
def indentedField (level : Nat) : String × Tree → List Char
  | (key, value) => quote key ++ ':' :: ' ' :: indentedChars (level + 1) value

/-- The later fields of a record at a level, and the closing brace. -/
def indentedFields (level : Nat) : List (String × Tree) → List Char
  | [] => newline level ++ ['}']
  | field :: fields =>
      ',' :: (newline (level + 1) ++ indentedField level field ++ indentedFields level fields)
end

/-- The compact text of a tree. -/
def compact (t : Tree) : String :=
  String.ofList (compactChars t)

/-- The indented text of a tree. -/
def indented (t : Tree) : String :=
  String.ofList (indentedChars 0 t)

end InferenceFleet.Json
