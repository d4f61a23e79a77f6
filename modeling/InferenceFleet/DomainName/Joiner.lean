import InferenceFleet.DomainName.Joiner.Table
import InferenceFleet.Text.Canonical

/-!
# Joiners in domain names

Two invisible characters tell neighbouring letters to be joined or not. In a domain name they may
stand only where they can make a difference: after a mark that suppresses a vowel, or, for the one
that parts letters, between two letters that would be joined without it.
-/

namespace InferenceFleet.DomainName

/-- The character that parts letters. -/
def nonJoiner : Char := '\u200C'

/-- The character that joins letters. -/
def joiner : Char := '\u200D'

/-- Whether a character is a mark. -/
def isMark (c : Char) : Bool := 0x300 ≤ c.toNat && Text.inRanges marks c

/-- Whether a character is a mark that suppresses a vowel. -/
def isVirama (c : Char) : Bool := Text.Canonical.classOf c == 9

/-- The first character that joined letters do not reach over. -/
def neighbour? (cs : List Char) : Option Char :=
  (cs.dropWhile (Text.inRanges transparent)).head?

/-- Whether a character fits between what precedes it, last character first, and what follows. -/
def fitsBetween (before : List Char) (c : Char) (rest : List Char) : Bool :=
  if c == joiner then before.head?.any isVirama
  else if c == nonJoiner then
    before.head?.any isVirama
      || ((neighbour? before).any (Text.inRanges joinsAfter)
        && (neighbour? rest).any (Text.inRanges joinsBefore))
  else true

/-- Whether every joiner in a list of characters fits; `before` is what precedes it, last
character first. -/
def joinersFit (before : List Char) : List Char → Bool
  | [] => true
  | c :: rest => fitsBetween before c rest && joinersFit (c :: before) rest

end InferenceFleet.DomainName
