import InferenceFleet.DomainName.Direction
import InferenceFleet.DomainName.Joiner
import InferenceFleet.DomainName.Mapping
import InferenceFleet.DomainName.Punycode

/-!
# Domain names in ASCII

The ASCII form of a domain name, under which it is looked up. The characters of the name are
mapped and composed, and its labels are what stands between the dots. A label that is not ASCII
is written in Punycode after `xn--`; one that starts with `xn--` already stands for what it says
in Punycode, and that has to be a label that is written in this way. A name is refused if one of
its labels is not sound.
-/

namespace InferenceFleet.DomainName

/-- Whether all characters are ASCII. -/
def isAscii (cs : List Char) : Bool := cs.all fun c => c.toNat < 0x80

/-- What a label in Punycode starts with. -/
def punycodeMark : List Char := "xn--".toList

/-- The length of the longest text that is read as Punycode. -/
def longestCode : Nat := 2000

/-- The length of the longest label that is written in Punycode. -/
def longestLabel : Nat := 1000

/-- The label that is written in Punycode. -/
def decoded? (code : List Char) : Option (List Char) :=
  if !isAscii code || code.isEmpty || code.getLast? == some '-'
      || decide (longestCode < code.length) then none
  else
    (Punycode.decode? code).filter fun label =>
      label.all (fun c => isKept c && c != '.') && Text.composed label == label

/-- The label that a label stands for. -/
def label? (written : List Char) : Option (List Char) :=
  if punycodeMark.isPrefixOf written then decoded? (written.drop punycodeMark.length)
  else some written

/-- The labels of a name. -/
def labels? (name : List Char) : Option (List (List Char)) := do
  let mapped ← name.mapM mapped?
  (Text.pieces (· == '.') (Text.composed mapped.flatten)).mapM label?

/-- ASCII characters that no name of a host holds. -/
def isForbidden (c : Char) : Bool :=
  c.toNat ≤ 0x20 || c.toNat == 0x7F || "\"#%/:<>?@[\\]^`\x7b|\x7d".toList.contains c

/-- Whether a label can be part of a name. -/
def isSound (label : List Char) : Bool :=
  !label.any isForbidden && !label.head?.any isMark && joinersFit [] label
    && (isAscii label || decide (label.length ≤ longestLabel))

/-- Whether labels make up a name. -/
def isName (labels : List (List Char)) : Bool :=
  labels.all isSound && (!labels.any (·.any isRightToLeft) || labels.all keepsDirection)

/-- The ASCII form of a label. -/
def asciiLabel (label : List Char) : List Char :=
  if isAscii label then label else punycodeMark ++ Punycode.encode label

/-- The ASCII form of a name, unless it is refused. -/
def ascii? (name : List Char) : Option (List Char) :=
  ((labels? name).filter isName).map fun labels => ['.'].intercalate (labels.map asciiLabel)

end InferenceFleet.DomainName
