/-!
# Pieces of a text

A list of characters cut at every character that divides it. There is one piece more than there
are dividers; pieces may be empty.
-/

namespace InferenceFleet.Text

/-- The pieces between dividers; `piece` is the one that is open, in reverse. -/
def piecesFrom (divides : Char → Bool) (piece : List Char) : List Char → List (List Char)
  | [] => [piece.reverse]
  | c :: rest =>
      if divides c then piece.reverse :: piecesFrom divides [] rest
      else piecesFrom divides (c :: piece) rest

/-- The pieces of a list of characters between dividers. -/
def pieces (divides : Char → Bool) (cs : List Char) : List (List Char) :=
  piecesFrom divides [] cs

end InferenceFleet.Text
