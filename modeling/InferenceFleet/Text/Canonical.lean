import InferenceFleet.Text.Canonical.Table

/-!
# Canonical composition

Texts that look the same can be written with composed characters or with their parts. The composed
form of a text is the one with every character composed that can be: all characters are taken
apart, the marks after a character are put in the order of their classes, and then each mark is
joined to the character before it where the two have a composite and nothing stands in between
that would keep them apart.
-/

namespace InferenceFleet.Text

namespace Canonical

/-- The first syllable of Hangul. -/
def firstSyllable : Nat := 0xAC00

/-- The code points before the first leading consonant, the first vowel and the first trailing
consonant; a trailing consonant may be missing, so that the one before the first counts. -/
def leadBase : Nat := 0x1100

/-- The first vowel. -/
def vowelBase : Nat := 0x1161

/-- The code point before the first trailing consonant. -/
def tailBase : Nat := 0x11A7

/-- The number of syllables with a given leading consonant. -/
def perLead : Nat := 21 * 28

/-- The parts of a syllable; nothing for other characters. -/
def syllableParts? (c : Char) : Option (List Char) :=
  let place := c.toNat - firstSyllable
  if firstSyllable ≤ c.toNat ∧ place < 19 * perLead then
    let lead := Char.ofNat (leadBase + place / perLead)
    let vowel := Char.ofNat (vowelBase + place % perLead / 28)
    let tail := if place % 28 = 0 then [] else [Char.ofNat (tailBase + place % 28)]
    some (lead :: vowel :: tail)
  else none

/-- The syllable of a leading consonant and a vowel, or of a syllable and a trailing consonant. -/
def syllable? (first second : Char) : Option Char :=
  let lead := first.toNat - leadBase
  let vowel := second.toNat - vowelBase
  let place := first.toNat - firstSyllable
  let tail := second.toNat - tailBase
  if leadBase ≤ first.toNat ∧ lead < 19 ∧ vowelBase ≤ second.toNat ∧ vowel < 21 then
    some (Char.ofNat (firstSyllable + lead * perLead + vowel * 28))
  else if firstSyllable ≤ first.toNat ∧ place < 19 * perLead ∧ place % 28 = 0
      ∧ tailBase < second.toNat ∧ tail < 28 then
    some (Char.ofNat (first.toNat + tail))
  else none

/-- The class of a mark; zero for all other characters. -/
def classOf (c : Char) : Nat :=
  match row? ClassRange.first classes c.toNat with
  | some range => if range.first ≤ c.toNat ∧ c.toNat ≤ range.last then range.combining else 0
  | none => 0

/-- The two characters that a character is composed of. -/
def split? (c : Char) : Option (Char × Char) :=
  match row? Composite.whole composites c.toNat with
  | some k => if k.whole = c.toNat then some (Char.ofNat k.first, Char.ofNat k.second) else none
  | none => none

/-- What a character is always replaced by. -/
def replaced? (c : Char) : Option (List Char) :=
  match row? Replacement.code replacements c.toNat with
  | some r => if r.code = c.toNat then some (r.parts.map Char.ofNat) else none
  | none => none

/-- The parts of a character that is composed in at most so many steps. -/
def partsIn : Nat → Char → List Char
  | 0, c => [c]
  | steps + 1, c =>
      match split? c with
      | some (first, second) => partsIn steps first ++ [second]
      | none => (replaced? c).getD [c]

/-- The characters that a character is made of; no character is composed in more than three
steps. -/
def partsOf (c : Char) : List Char :=
  (syllableParts? c).getD (partsIn 4 c)

/-- Puts a mark before the marks of higher classes that end a list, which is in reverse. -/
def settle (c : Char) : List Char → List Char
  | [] => [c]
  | d :: rest =>
      if classOf c ≠ 0 ∧ classOf c < classOf d then d :: settle c rest else c :: d :: rest

/-- The list with the marks after each character in the order of their classes. -/
def ordered (cs : List Char) : List Char :=
  (cs.foldl (fun done c => settle c done) []).reverse

/-- The composites by their parts, as one number for both. -/
def byParts : Array (Nat × Nat) :=
  ((composites.toList.map fun k => (k.first * 0x110000 + k.second, k.whole)).mergeSort
    fun a b => a.1 ≤ b.1).toArray

/-- The character that is composed of two others. -/
def join? (first second : Char) : Option Char :=
  let key := first.toNat * 0x110000 + second.toNat
  (syllable? first second).or
    (match row? Prod.fst byParts key with
    | some (parts, whole) => if parts = key then some (Char.ofNat whole) else none
    | none => none)

/-- A text that is being composed: what is done, in reverse, and the last character that is no
mark with the marks after it, in reverse, that were not joined to it. -/
structure Composition where
  done : List Char
  base : Option Char
  marks : List Char

/-- All of a text that is being composed, in reverse. -/
def Composition.all (p : Composition) : List Char :=
  p.marks ++ p.base.toList ++ p.done

/-- Whether the marks that were not joined keep a character from the base. -/
def Composition.blocks (p : Composition) (c : Char) : Bool :=
  match p.marks with
  | [] => false
  | mark :: _ => decide (classOf c ≤ classOf mark)

/-- Adds the next character. -/
def Composition.add (p : Composition) (c : Char) : Composition :=
  let joined := match p.base with
    | some base => if p.blocks c then none else join? base c
    | none => none
  match joined with
  | some whole => { p with base := some whole }
  | none =>
      if classOf c = 0 then ⟨p.all, some c, []⟩
      else
        match p.base with
        | some _ => { p with marks := c :: p.marks }
        | none => { p with done := c :: p.done }

/-- The list with everything joined that can be. -/
def joined (cs : List Char) : List Char :=
  (cs.foldl Composition.add ⟨[], none, []⟩).all.reverse

end Canonical

/-- The composed form of a list of characters. Below the first mark there is nothing to do. -/
def composed (cs : List Char) : List Char :=
  if cs.all fun c => c.toNat < 0x300 then cs
  else Canonical.joined (Canonical.ordered (cs.flatMap Canonical.partsOf))

end InferenceFleet.Text
