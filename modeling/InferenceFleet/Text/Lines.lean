/-!
# Lines of a text

A line ends at a line feed; a carriage return just before it belongs to the ending. What follows
the last line feed is a line only if it is not empty. A carriage return elsewhere is an ordinary
character.
-/

namespace InferenceFleet.Text

/-- The line without the carriage return at its end. -/
def dropReturn (line : List Char) : List Char :=
  match line.reverse with
  | '\r' :: rest => rest.reverse
  | _ => line

/-- The lines of a list of characters; `current` holds the open line in reverse. -/
def linesFrom (current : List Char) : List Char → List (List Char)
  | [] => if current.isEmpty then [] else [current.reverse]
  | '\n' :: rest => dropReturn current.reverse :: linesFrom [] rest
  | c :: rest => linesFrom (c :: current) rest

/-- The lines of a text, without their endings. -/
def lines (s : String) : List (List Char) :=
  linesFrom [] s.toList

end InferenceFleet.Text
