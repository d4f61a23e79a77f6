import InferenceFleet.Peer.Address

/-!
# What a command line says

A command line gives values to named fields, some of which can be given more than once. Every value
is a text that the field accepts. What was said is kept in the order in which it was.
-/

namespace InferenceFleet.CommandLine

/-- Something that a command line can say. -/
inductive Field
  | config
  | peersFile
  | strict
  | noLocal
  | logLevel
  | interval
  | seed
  | host
  | port
  | name
  | id
  | prompt
  | role
  | category
  | exclude
  | prefer
  | address
  | timeout
  deriving DecidableEq

/-- The whole seconds that a text gives. -/
def seconds? (s : String) : Option Nat := Text.readNat? Text.maxWord64 s

/-- The port that a text gives; zero may be written with a minus sign. -/
def port? (s : String) : Option UInt16 :=
  match s.toList with
  | '-' :: rest => (Text.readUnsigned? 0 rest).map fun _ => 0
  | _ => (Text.readNat? Text.maxWord16 s).map .ofNat

/-- The address that a text gives. -/
def address? (s : String) : Option Address := (Address.parse s).toOption

namespace Field

/-- Whether a text is a value of a field. -/
def accepts (s : String) : Field → Bool
  | .config | .peersFile => s ≠ ""
  | .interval | .timeout => (seconds? s).isSome
  | .port => (port? s).isSome
  | .seed | .address => (address? s).isSome
  | _ => true

/-- Whether a field can be given more than once. -/
def isRepeatable : Field → Bool
  | .seed | .exclude | .prefer => true
  | _ => false

end Field

/-- What was said, in order. -/
abbrev Said := List (Field × String)

namespace Said

/-- The values of a field. -/
def texts (s : Said) (f : Field) : List String := (s.filter fun b => b.1 = f).map Prod.snd

/-- The value of a field; the last one counts. -/
def text? (s : Said) (f : Field) : Option String := (s.texts f).getLast?

/-- Whether a field was given. -/
def has (s : Said) (f : Field) : Bool := (s.text? f).isSome

/-- What is said with one more value, unless the field does not accept it, or was given and cannot
be given again. -/
def record? (s : Said) (f : Field) (value : String) : Option Said :=
  if f.accepts value && (f.isRepeatable || !s.has f) then some (s ++ [(f, value)]) else none

end Said

end InferenceFleet.CommandLine
