import InferenceFleet.DomainName.Direction.Table

/-!
# Directions in domain names

A domain name with letters that are written from right to left can be shown so that its parts
seem to belong elsewhere. Its labels therefore keep to one direction each: the first character
is a letter and sets the direction, the last one is a letter of the same direction or a digit, and
a label from right to left has digits of one kind only.
-/

namespace InferenceFleet.DomainName

/-- The direction in which a character is written, or how it takes one. -/
inductive Direction
  | leftToRight
  | rightToLeft
  | europeanDigit
  | arabicDigit
  /-- A mark, which follows what it is attached to. -/
  | attached
  /-- A sign that may stand inside a label. -/
  | neutral
  | separator
  deriving DecidableEq

/-- The direction of a character. -/
def Direction.of (c : Char) : Direction :=
  if Text.inRanges rightToLeftRanges c then .rightToLeft
  else if Text.inRanges europeanDigitRanges c then .europeanDigit
  else if Text.inRanges arabicDigitRanges c then .arabicDigit
  else if Text.inRanges attachedRanges c then .attached
  else if Text.inRanges neutralRanges c then .neutral
  else if Text.inRanges separatorRanges c then .separator
  else .leftToRight

/-- Whether a character makes a name one that is written from right to left. The first such
character is Hebrew. -/
def isRightToLeft (c : Char) : Bool :=
  0x590 ≤ c.toNat && (Text.inRanges rightToLeftRanges c || Text.inRanges arabicDigitRanges c)

/-- The direction of the last character that is no mark. -/
def lastDirection? (directions : List Direction) : Option Direction :=
  (directions.reverse.dropWhile (· == .attached)).head?

/-- Whether a label keeps to one direction. -/
def keepsDirection (label : List Char) : Bool :=
  let directions := label.map Direction.of
  match directions with
  | [] => true
  | .leftToRight :: _ =>
      directions.all [.leftToRight, .europeanDigit, .neutral, .attached].contains
        && (lastDirection? directions).any [.leftToRight, .europeanDigit].contains
  | .rightToLeft :: _ =>
      directions.all [.rightToLeft, .arabicDigit, .europeanDigit, .neutral, .attached].contains
        && (lastDirection? directions).any
          [.rightToLeft, .europeanDigit, .arabicDigit].contains
        && !(directions.contains .europeanDigit && directions.contains .arabicDigit)
  | _ => false

end InferenceFleet.DomainName
