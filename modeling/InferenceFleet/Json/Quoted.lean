import InferenceFleet.Text.Digits

/-!
# Quoted text of JSON

Writing escapes the quotation mark, the backslash and the control characters, the latter by
their short escapes where there is one and by four lower-case hexadecimal digits else. Reading
accepts every escape of the format in either case. An escaped half of a surrogate pair is well
formed but stands for no character; a text that holds one has no value.
-/

namespace InferenceFleet.Json

/-- A hexadecimal digit in lower case. -/
def hexChar (n : Nat) : Char :=
  if n < 10 then Char.ofNat ('0'.toNat + n) else Char.ofNat ('a'.toNat + (n - 10))

/-- One character as it is written between quotation marks. -/
def escape (c : Char) : List Char :=
  if c = '"' then ['\\', '"']
  else if c = '\\' then ['\\', '\\']
  else if c = '\n' then ['\\', 'n']
  else if c = '\r' then ['\\', 'r']
  else if c = '\t' then ['\\', 't']
  else if c = '\x08' then ['\\', 'b']
  else if c = '\x0c' then ['\\', 'f']
  else if c.toNat < 0x20 then
    ['\\', 'u', '0', '0', hexChar (c.toNat / 16), hexChar (c.toNat % 16)]
  else [c]

/-- A text between quotation marks. -/
def quote (s : String) : List Char :=
  '"' :: (s.toList.flatMap escape ++ ['"'])

/-- Four hexadecimal digits at the head of a list. -/
def hex4? : List Char → Option (Nat × List Char)
  | a :: b :: c :: d :: rest => do
      let a ← Text.hexDigit? a
      let b ← Text.hexDigit? b
      let c ← Text.hexDigit? c
      let d ← Text.hexDigit? d
      some (((a * 16 + b) * 16 + c) * 16 + d, rest)
  | _ => none

/-- The character of a one-letter escape. -/
def shortEscape? (c : Char) : Option Char :=
  if c = '"' ∨ c = '\\' ∨ c = '/' then some c
  else if c = 'b' then some '\x08'
  else if c = 'f' then some '\x0c'
  else if c = 'n' then some '\n'
  else if c = 'r' then some '\r'
  else if c = 't' then some '\t'
  else none

/-- The first half of a surrogate pair. -/
def isHighHalf (n : Nat) : Bool := 0xD800 ≤ n && n < 0xDC00

/-- The second half of a surrogate pair. -/
def isLowHalf (n : Nat) : Bool := 0xDC00 ≤ n && n < 0xE000

/-- The character of a surrogate pair. -/
def pairChar (high low : Nat) : Char :=
  Char.ofNat (0x10000 + (high - 0xD800) * 0x400 + (low - 0xDC00))

/-- What one escape of four digits stands for, given the code that it spells and what follows:
a character, a pair with the escape after it, or nothing. -/
def codeEscape (code : Nat) (rest : List Char) : Option Char × List Char :=
  if isHighHalf code then
    match rest with
    | '\\' :: 'u' :: after =>
        match hex4? after with
        | some (low, after) =>
            if isLowHalf low then (some (pairChar code low), after) else (none, rest)
        | none => (none, rest)
    | _ => (none, rest)
  else if isLowHalf code then (none, rest)
  else (some (Char.ofNat code), rest)

/-- The characters up to the closing quotation mark, `none` among them for half a pair, and what
follows the mark. The fuel bounds the number of characters. -/
def readQuoted? : Nat → List Char → Option (List (Option Char) × List Char)
  | 0, _ => none
  | _ + 1, [] => none
  | fuel + 1, c :: rest =>
      if c = '"' then some ([], rest)
      else if c = '\\' then
        match rest with
        | 'u' :: rest => do
            let (code, rest) ← hex4? rest
            let (char?, rest) := codeEscape code rest
            let (tail, rest) ← readQuoted? fuel rest
            some (char? :: tail, rest)
        | e :: rest => do
            let char ← shortEscape? e
            let (tail, rest) ← readQuoted? fuel rest
            some (some char :: tail, rest)
        | [] => none
      else if c.toNat < 0x20 then none
      else do
        let (tail, rest) ← readQuoted? fuel rest
        some (some c :: tail, rest)

/-- The text of characters none of which is half a pair. -/
def textOf? (cs : List (Option Char)) : Option String :=
  (cs.mapM id).map String.ofList

end InferenceFleet.Json
