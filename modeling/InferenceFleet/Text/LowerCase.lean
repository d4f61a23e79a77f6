import InferenceFleet.Text.LowerCase.Table
import InferenceFleet.Text.Ranges

/-!
# Lower case

The lower case of a text under the full Unicode rules: every character by its simple mapping,
`İ` by `i` and a combining dot, and a capital sigma by the final form of the small one exactly
when a cased character stands before it and none after it, characters without case of their own
(accents, apostrophes) being passed over. Folding that touches ASCII letters only, which is how
host names are compared, is here as well.
-/

namespace InferenceFleet.Text

namespace LowerCase

/-- A cased character, among those that are not passed over. -/
def isCased (c : Char) : Bool :=
  inRanges cased c

/-- A character that a search for a cased neighbour passes over. -/
def isIgnorable (c : Char) : Bool :=
  inRanges ignorable c

/-- The simple lower-case mapping of one character. -/
def simple (c : Char) : Char :=
  if c.toNat < 0x80 then c.toLower else (mapped? mappings c).getD c

/-- Whether the first character that is not passed over is cased. -/
def meetsCased (cs : List Char) : Bool :=
  match cs.dropWhile isIgnorable with
  | c :: _ => isCased c
  | [] => false

/-- Whether a capital sigma takes its final form; `before` is what precedes it, last character
first. -/
def isFinal (before after : List Char) : Bool :=
  meetsCased before && !meetsCased after

/-- The lower case of one character; only a capital sigma asks whether it is final. -/
def ofChar (final : Bool) (c : Char) : List Char :=
  if c = 'Σ' then [if final then 'ς' else 'σ']
  else if c = 'İ' then ['i', '\u0307']
  else [simple c]

/-- The lower case of a list of characters; `before` is what precedes it, last character first. -/
def ofChars (before : List Char) : List Char → List Char
  | [] => []
  | c :: rest => ofChar (isFinal before rest) c ++ ofChars (c :: before) rest

@[simp]
theorem ofChars_nil (before : List Char) : ofChars before [] = [] :=
  rfl

theorem ofChars_cons (before : List Char) (c : Char) (rest : List Char) :
    ofChars before (c :: rest) = ofChar (isFinal before rest) c ++ ofChars (c :: before) rest :=
  rfl

end LowerCase

/-- The text in lower case. -/
def lowerCase (s : String) : String :=
  String.ofList (LowerCase.ofChars [] s.toList)

/-- The text with its ASCII letters in lower case and all else unchanged. -/
def foldAscii (s : String) : String :=
  String.ofList (s.toList.map Char.toLower)

/-- Equality up to the case of ASCII letters. -/
def sameUpToAsciiCase (s t : String) : Bool :=
  foldAscii s == foldAscii t

theorem sameUpToAsciiCase_iff {s t : String} :
    sameUpToAsciiCase s t = true ↔ foldAscii s = foldAscii t := by
  simp [sameUpToAsciiCase]

@[simp]
theorem sameUpToAsciiCase_refl (s : String) : sameUpToAsciiCase s s = true := by
  simp [sameUpToAsciiCase]

theorem sameUpToAsciiCase_comm (s t : String) :
    sameUpToAsciiCase s t = sameUpToAsciiCase t s := by
  rw [Bool.eq_iff_iff, sameUpToAsciiCase_iff, sameUpToAsciiCase_iff]
  exact eq_comm

theorem sameUpToAsciiCase_trans {s t u : String} (hst : sameUpToAsciiCase s t = true)
    (htu : sameUpToAsciiCase t u = true) : sameUpToAsciiCase s u = true := by
  rw [sameUpToAsciiCase_iff] at *
  exact hst.trans htu

/-- Whether a list of characters stands somewhere in another, without gaps. -/
def occursIn (needle : List Char) : List Char → Bool
  | [] => needle.isEmpty
  | c :: cs => needle.isPrefixOf (c :: cs) || occursIn needle cs

/-- Whether `needle` stands somewhere in `text`. -/
def containsText (text needle : String) : Bool :=
  occursIn needle.toList text.toList

/-- Occurring is being what stands between some beginning and some end. -/
theorem occursIn_iff {needle text : List Char} :
    occursIn needle text = true ↔ ∃ before after, text = before ++ (needle ++ after) := by
  induction text with
  | nil =>
      simp only [occursIn, List.isEmpty_iff]
      constructor
      · rintro rfl
        exact ⟨[], [], rfl⟩
      · rintro ⟨before, after, h⟩
        exact (List.append_eq_nil_iff.1 (List.append_eq_nil_iff.1 h.symm).2).1
  | cons c cs ih =>
      simp only [occursIn, Bool.or_eq_true, List.isPrefixOf_iff_prefix, ih]
      constructor
      · rintro (⟨after, h⟩ | ⟨before, after, h⟩)
        · exact ⟨[], after, h.symm⟩
        · exact ⟨c :: before, after, by rw [h]; rfl⟩
      · rintro ⟨before, after, h⟩
        cases before with
        | nil => exact .inl ⟨after, h.symm⟩
        | cons b before =>
            injection h with _ htail
            exact .inr ⟨before, after, htail⟩

end InferenceFleet.Text
