import InferenceFleet.Text.Display.Table
import InferenceFleet.Text.Ranges

/-!
# Display of texts

A text between quotation marks, as it stands in a summary of some value. Quotation marks and
backslashes are escaped, four control characters have escapes of their own, and whatever has no
glyph of its own is spelled out by its code point in hexadecimal.
-/

namespace InferenceFleet.Text

/-- Whether a character is spelled out by its code point. -/
def isSpelledOut (c : Char) : Bool :=
  if c.toNat < 0x80 then c.toNat < 0x20 || c.toNat == 0x7F
  else inRanges spelledOut c

/-- The display of one character. -/
def displayChar (c : Char) : List Char :=
  match c with
  | '"' => ['\\', '"']
  | '\\' => ['\\', '\\']
  | '\n' => ['\\', 'n']
  | '\r' => ['\\', 'r']
  | '\t' => ['\\', 't']
  | '\x00' => ['\\', '0']
  | c =>
      if isSpelledOut c then
        '\\' :: 'u' :: '{' :: (Nat.toDigits 16 c.toNat ++ ['}'])
      else [c]

/-- A text between quotation marks. -/
def display (s : String) : String :=
  String.ofList ('"' :: (s.toList.flatMap displayChar ++ ['"']))

end InferenceFleet.Text
