import InferenceFleet.DomainName.Mapping.Table

/-!
# Characters in domain names

What becomes of a character when a domain name is looked up: letters are taken in lower case,
variants of a character as the character itself, invisible characters are left out, and a name
with certain others is refused.
-/

namespace InferenceFleet.DomainName

/-- The several characters that a character is replaced by. -/
def expanded? (c : Char) : Option (List Char) :=
  match Text.row? Expansion.code expanded c.toNat with
  | some e => if e.code = c.toNat then some (e.parts.map Char.ofNat) else none
  | none => none

/-- What becomes of a character; nothing if a name that holds it is refused. -/
def mapped? (c : Char) : Option (List Char) :=
  if c.toNat < 0x80 then some [c.toLower]
  else if Text.inRanges refused c then none
  else if Text.inRanges ignored c then some []
  else
    match Text.mapped? replaced c with
    | some d => some [d]
    | none => some ((expanded? c).getD [c])

/-- Whether a character stays as it is. -/
def isKept (c : Char) : Bool := mapped? c == some [c]

end InferenceFleet.DomainName
