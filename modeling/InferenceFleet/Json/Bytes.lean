import InferenceFleet.Json.Reader

/-!
# Reading JSON from bytes

A document that comes as bytes need not be UTF-8 throughout: text that is skipped is never decoded.
Bytes are shown as characters for the reader of texts, and a byte that belongs to no character as a
mark that the reader takes for what such a byte is. Between quotation marks the mark spells half a
surrogate pair, so that a text that is kept has no value and a text that is skipped does no harm.
Anywhere else it is no JSON.
-/

namespace InferenceFleet.Json

/-- How a byte that belongs to no character is shown. The letter in front keeps the escape apart
from the text before it: from a backslash, from digits and from the first half of a pair. -/
def strayMark : List Char := ['x', '\\', 'u', 'd', 'c', '8', '0']

/-- The character that bytes begin with, of which none has more than four. -/
def firstChar? (bytes : List UInt8) : Option Char :=
  (bytes.take 4).toByteArray.utf8DecodeChar? 0

/-- The characters of bytes. The fuel bounds the number of bytes. -/
def decodeBytes : Nat → List UInt8 → List Char
  | 0, _ => []
  | _ + 1, [] => []
  | fuel + 1, byte :: rest =>
      match firstChar? (byte :: rest) with
      | some c => c :: decodeBytes fuel ((byte :: rest).drop c.utf8Size)
      | none => strayMark ++ decodeBytes fuel rest

/-- The characters that bytes are shown as. -/
def charsOf (bytes : List UInt8) : List Char :=
  decodeBytes bytes.length bytes

/-- The tree of a document that comes as bytes. -/
def readBytes? (bytes : ByteArray) : Option Tree :=
  read? (String.ofList (charsOf bytes.data.toList))

end InferenceFleet.Json
