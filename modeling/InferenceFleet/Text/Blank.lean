/-!
# Blank characters

The characters with the `White_Space` property of the Unicode standard, and what is defined by
them: cutting blanks off both ends of a text, the words of a text, and texts that hold nothing
but blanks. Everything is stated on lists of characters; the functions on `String` only unpack
and repack.
-/

namespace InferenceFleet.Text

/-- A character with the property `White_Space`. -/
def isBlank (c : Char) : Bool :=
  let n := c.toNat
  (9 ≤ n && n ≤ 13) || n == 0x20 || n == 0x85 || n == 0xA0 || n == 0x1680
    || (0x2000 ≤ n && n ≤ 0x200A) || n == 0x2028 || n == 0x2029 || n == 0x202F
    || n == 0x205F || n == 0x3000

/-- The list without the blanks it starts with. -/
def skipBlanks (cs : List Char) : List Char :=
  cs.dropWhile isBlank

/-- The list without the blanks at its two ends. -/
def trimChars (cs : List Char) : List Char :=
  (skipBlanks (skipBlanks cs).reverse).reverse

/-- The text without the blanks at its two ends. -/
def trim (s : String) : String :=
  String.ofList (trimChars s.toList)

/-- A text of blanks only; the empty text is one. -/
def isBlankText (s : String) : Bool :=
  s.toList.all isBlank

/-- The first word of a list of characters: what stands before the first blank, once leading blanks
are skipped. -/
def firstWord? (cs : List Char) : Option (List Char) :=
  match (skipBlanks cs).takeWhile (fun c => !isBlank c) with
  | [] => none
  | word => some word

/-- A list that does not start with a blank keeps its head. -/
theorem skipBlanks_cons_of_not {c : Char} {cs : List Char} (hc : isBlank c = false) :
    skipBlanks (c :: cs) = c :: cs := by
  simp [skipBlanks, hc]

/-- Skipping twice is skipping once. -/
@[simp]
theorem skipBlanks_skipBlanks (cs : List Char) : skipBlanks (skipBlanks cs) = skipBlanks cs := by
  induction cs with
  | nil => rfl
  | cons c cs ih =>
      cases hc : isBlank c with
      | true => simpa [skipBlanks, List.dropWhile_cons, hc] using ih
      | false => rw [skipBlanks_cons_of_not hc, skipBlanks_cons_of_not hc]

end InferenceFleet.Text
