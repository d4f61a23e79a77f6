import InferenceFleet.Decimal.Reading
import InferenceFleet.Document.Tree

/-!
# Decoding document trees

How typed values are taken out of trees. A record type is declared by its *members*, in order,
each with the names it goes by. A record in a document names some of them, each at most once;
names it does not declare are ignored. It may also be written as a list of its members' values,
of which the last ones may be missing. A value of an enumeration is its name, or a record of that
name alone with nothing in it. The formats differ in two points: whether a list may be longer
than the members, and what "nothing" is.
-/

namespace InferenceFleet

/-- The formats that documents come in. -/
inductive Format
  | json
  | toml
  deriving DecidableEq

namespace Format

/-- Whether a record written as a list may have more items than members. -/
def allowsSurplus : Format → Bool
  | .json => false
  | .toml => true

/-- The trees that carry nothing. -/
def isNothing : Format → Tree → Bool
  | .json, .null => true
  | .toml, .list [] => true
  | .toml, .record [] => true
  | _, _ => false

end Format

/-- A declared member: its name, and other names for it. -/
structure Member where
  name : String
  aliases : List String

/-- A member with one name. -/
def Member.only (name : String) : Member := ⟨name, []⟩

namespace Tree

/-- A text. -/
def text? : Tree → Option String
  | .text s => some s
  | _ => none

/-- A truth value. -/
def bool? : Tree → Option Bool
  | .bool b => some b
  | _ => none

/-- A whole number from zero to a bound. -/
def word? (bound : Nat) : Tree → Option Nat
  | .integer n => if 0 ≤ n ∧ n ≤ bound then some n.toNat else none
  | _ => none

/-- A number; a whole one is rounded to the nearest binary64 number. -/
def number? : Tree → Option Binary64
  | .number x => some x
  | .integer n =>
      let magnitude := Decimal.nearest n.natAbs 0
      some (.ofFloat (if n < 0 then -magnitude else magnitude))
  | _ => none

/-- A list of values. -/
def list? {α : Type} (item? : Tree → Option α) : Tree → Option (List α)
  | .list items => items.mapM item?
  | _ => none

/-- Every field of a record, in order, as a binding. -/
def bindings? {α : Type} (value? : Tree → Option α) : Tree → Option (List (String × α))
  | .record fields => fields.mapM fun (key, value) => (value? value).map fun v => (key, v)
  | _ => none

/-- A value, or none written as null. -/
def option? {α : Type} (value? : Tree → Option α) : Tree → Option (Option α)
  | .null => some none
  | t => (value? t).map some

/-- The name of a value of an enumeration. -/
def enumerator? (format : Format) : Tree → Option String
  | .text name => some name
  | .record [(name, payload)] => if format.isNothing payload then some name else none
  | _ => none

/-- The member that goes by a name. -/
def memberName? (members : List Member) (key : String) : Option String :=
  (members.find? fun m => m.name == key || m.aliases.contains key).map Member.name

/-- The declared fields of a record, under the names of their members. -/
def members? (format : Format) (members : List Member) : Tree → Option (List (String × Tree))
  | .record fields =>
      let known := fields.filterMap fun (key, value) => (memberName? members key).map (·, value)
      if (known.map Prod.fst).Nodup then some known else none
  | .list items =>
      if format.allowsSurplus || decide (items.length ≤ members.length) then
        some ((members.map Member.name).zip items)
      else none
  | _ => none

/-- A member that has to be there. -/
def required? {α : Type} (value? : Tree → Option α) (name : String)
    (fields : List (String × Tree)) : Option α :=
  (fields.lookup name).bind value?

/-- A member that stands for a default if it is not there. -/
def defaulting? {α : Type} (value? : Tree → Option α) (default : α) (name : String)
    (fields : List (String × Tree)) : Option α :=
  match fields.lookup name with
  | some value => value? value
  | none => some default

/-- A member that may be missing or null. -/
def optional? {α : Type} (value? : Tree → Option α) (name : String)
    (fields : List (String × Tree)) : Option (Option α) :=
  defaulting? (option? value?) none name fields

end Tree

end InferenceFleet
