/-!
# Tokens of a command line

Every argument is a token by its first characters: two dashes alone, a word after two dashes with
a value after an equals sign or without one, letters after one dash, or anything else. A dash alone
is of the last kind.
-/

namespace InferenceFleet.CommandLine

/-- What an argument looks like. -/
inductive Token
  /-- Two dashes; what follows is no option any more. -/
  | escape
  | long (name : String) (value : Option String)
  | short (letters : List Char)
  | plain (text : String)

namespace Token

/-- A word and the value after its first equals sign. -/
def ofLong (cs : List Char) : Token :=
  let name := String.ofList (cs.takeWhile (· ≠ '='))
  match cs.dropWhile (· ≠ '=') with
  | [] => .long name none
  | _ :: value => .long name (some (String.ofList value))

/-- What an argument looks like. -/
def ofText (s : String) : Token :=
  match s.toList with
  | ['-', '-'] => .escape
  | '-' :: '-' :: rest => ofLong rest
  | '-' :: c :: rest => .short (c :: rest)
  | _ => .plain s

/-- The value that is written right after the letter of an option, if there is one; an equals sign
may stand in between. -/
def attached? : List Char → Option String
  | [] => none
  | '=' :: value => some (String.ofList value)
  | value => some (String.ofList value)

end Token

end InferenceFleet.CommandLine
