import InferenceFleet.Text.Digits

/-!
# Characters and quoted text of TOML

The blanks, line breaks and comments of the format, and its four kinds of quoted text: basic and
literal, on one line or on several. Basic text has escapes, literal text has none. Text on several
lines drops a line break right after the opening quotes, writes every other one as a line feed,
and may end in up to two quotes of its own; in its basic kind a backslash at the end of a line
drops the break and all blanks and breaks after it.
-/

namespace InferenceFleet.Toml

/-- The blanks within a line. -/
def isBlank (c : Char) : Bool := c == ' ' || c == '\t'

/-- The list without the blanks it starts with. -/
def skipBlanks (cs : List Char) : List Char := cs.dropWhile isBlank

/-- What follows a line break at the head of a list. -/
def afterBreak? : List Char → Option (List Char)
  | '\n' :: rest => some rest
  | '\r' :: '\n' :: rest => some rest
  | _ => none

/-- The characters that comments and quoted text may hold as they are: all but the control
characters of ASCII; the tab is not counted as one. -/
def isPlain (c : Char) : Bool :=
  c == '\t' || (0x20 ≤ c.toNat && c.toNat ≠ 0x7F)

/-- The list without a comment that it starts with. -/
def skipComment : List Char → List Char
  | '#' :: rest => rest.dropWhile isPlain
  | cs => cs

/-- What follows the end of a line, on which nothing but blanks and a comment may be left. -/
def afterLine? (cs : List Char) : Option (List Char) :=
  match skipComment (skipBlanks cs) with
  | [] => some []
  | cs => afterBreak? cs

/-- The list without the blanks and line breaks it starts with. -/
def skipLines : List Char → List Char
  | [] => []
  | '\r' :: '\n' :: rest => skipLines rest
  | c :: rest => if isBlank c || c == '\n' then skipLines rest else c :: rest

/-- The list without the blanks, line breaks and comments it starts with; it may start within a
comment. -/
def skipSpace (inComment : Bool) : List Char → List Char
  | [] => []
  | '\r' :: '\n' :: rest => skipSpace false rest
  | c :: rest =>
      if c == '\n' then skipSpace false rest
      else if inComment then
        if isPlain c then skipSpace true rest else c :: rest
      else if isBlank c then skipSpace false rest
      else if c == '#' then skipSpace true rest
      else c :: rest

/-- The character that an escape of a number of hexadecimal digits stands for. -/
def readCode? (width : Nat) (cs : List Char) : Option (Char × List Char) := do
  let digits ← (cs.take width).mapM Text.hexDigit?
  let code := Text.ofDigits 16 0 digits
  if digits.length = width ∧ code.isValidChar then some (Char.ofNat code, cs.drop width)
  else none

/-- The character that an escape stands for, given what follows the backslash. -/
def readEscape? : List Char → Option (Char × List Char)
  | 'b' :: rest => some ('\x08', rest)
  | 't' :: rest => some ('\t', rest)
  | 'n' :: rest => some ('\n', rest)
  | 'f' :: rest => some ('\x0c', rest)
  | 'r' :: rest => some ('\r', rest)
  | '"' :: rest => some ('"', rest)
  | '\\' :: rest => some ('\\', rest)
  | 'u' :: rest => readCode? 4 rest
  | 'U' :: rest => readCode? 8 rest
  | _ => none

/-- Basic text on one line, up to its closing quote; the fuel bounds the number of characters. -/
def readBasic? : Nat → List Char → Option (List Char × List Char)
  | 0, _ => none
  | _ + 1, [] => none
  | fuel + 1, c :: rest =>
      if c = '"' then some ([], rest)
      else if c = '\\' then do
        let (char, rest) ← readEscape? rest
        let (tail, rest) ← readBasic? fuel rest
        some (char :: tail, rest)
      else if isPlain c then do
        let (tail, rest) ← readBasic? fuel rest
        some (c :: tail, rest)
      else none

/-- The characters of literal text on one line. -/
def isLiteral (c : Char) : Bool := isPlain c && c ≠ '\''

/-- Literal text on one line, up to its closing quote. -/
def readLiteral? (cs : List Char) : Option (List Char × List Char) :=
  match cs.dropWhile isLiteral with
  | '\'' :: rest => some (cs.takeWhile isLiteral, rest)
  | _ => none

/-- The end of text on several lines, at the first of three quotes or more: the quotes that still
belong to the text, and what follows the closing ones. -/
def closing? (quote : Char) (cs : List Char) : Option (List Char × List Char) :=
  let run := (cs.takeWhile (· == quote)).length
  if 3 ≤ run then some (List.replicate (min 2 (run - 3)) quote, cs.drop (min 5 run)) else none

/-- What follows a line break that a backslash drops, given what follows the backslash. -/
def afterContinuation? (cs : List Char) : Option (List Char) :=
  (afterBreak? (skipBlanks cs)).map skipLines

/-- Text on several lines, up to its closing quotes; the fuel bounds the number of characters. -/
def readLines? (quote : Char) (escapes : Bool) : Nat → List Char → Option (List Char × List Char)
  | 0, _ => none
  | fuel + 1, cs =>
      match closing? quote cs, cs with
      | some result, _ => some result
      | none, [] => none
      | none, c :: rest =>
          if escapes ∧ c = '\\' then
            match afterContinuation? rest with
            | some rest => readLines? quote escapes fuel rest
            | none => do
                let (char, rest) ← readEscape? rest
                let (tail, rest) ← readLines? quote escapes fuel rest
                some (char :: tail, rest)
          else
            match afterBreak? (c :: rest) with
            | some rest => do
                let (tail, rest) ← readLines? quote escapes fuel rest
                some ('\n' :: tail, rest)
            | none =>
                if isPlain c then do
                  let (tail, rest) ← readLines? quote escapes fuel rest
                  some (c :: tail, rest)
                else none

/-- Quoted text of any kind, from its opening quote on. -/
def readQuoted? (cs : List Char) : Option (String × List Char) := do
  let fuel := cs.length + 1
  let (text, rest) ← match cs with
    | '"' :: '"' :: '"' :: rest => readLines? '"' true fuel ((afterBreak? rest).getD rest)
    | '\'' :: '\'' :: '\'' :: rest => readLines? '\'' false fuel ((afterBreak? rest).getD rest)
    | '"' :: rest => readBasic? fuel rest
    | '\'' :: rest => readLiteral? rest
    | _ => none
  some (String.ofList text, rest)

end InferenceFleet.Toml
