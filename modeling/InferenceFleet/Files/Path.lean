import InferenceFleet.Text.Pieces

/-!
# Paths

A path is what stands between the slashes of a text, from the root or from the working directory.
Empty pieces and single dots are kept, because a path that ends in one asks for a directory. What
a path names does not depend on them: its *names* are the other pieces, and with them a single dot
that a relative path starts with.
-/

namespace InferenceFleet

/-- The way to a file or a directory. -/
structure Path where
  absolute : Bool
  pieces : List String
  deriving DecidableEq

namespace Path

/-- The pieces of a list of characters between slashes; there are none if nothing is there. -/
def split (cs : List Char) : List String :=
  if cs.isEmpty then [] else (Text.pieces (· == '/') cs).map String.ofList

/-- The path that a text stands for. -/
def ofText (s : String) : Path :=
  match s.toList with
  | '/' :: rest => ⟨true, split rest⟩
  | cs => ⟨false, split cs⟩

/-- The text of a path. -/
def text (p : Path) : String := (if p.absolute then "/" else "") ++ "/".intercalate p.pieces

/-- The path whose text is empty. -/
def empty : Path := ⟨false, []⟩

/-- Whether a piece names nothing. -/
def isIdle (piece : String) : Bool := piece == "" || piece == "."

/-- The single dot that a relative path may start with, and the pieces behind it. -/
def lead (p : Path) : List String × List String :=
  match p.absolute, p.pieces with
  | false, "." :: rest => (["."], rest)
  | _, pieces => ([], pieces)

/-- Pieces up to the last one that names something. -/
def trimmed (pieces : List String) : List String :=
  (pieces.reverse.dropWhile isIdle).reverse

/-- The path without its last name, if it has one. -/
def parent? (p : Path) : Option Path :=
  match trimmed p.lead.2, p.lead.1 with
  | [], [] => none
  | [], _ => some { p with pieces := [] }
  | named, dot => some { p with pieces := dot ++ trimmed named.dropLast }

/-- The last name of the path, if it names an entry of a directory. -/
def fileName? (p : Path) : Option String :=
  match (trimmed p.lead.2).getLast? with
  | some ".." => none
  | name => name

/-- The path continued by a name; a slash at its end is not doubled. -/
def extend (p : Path) (name : String) : Path :=
  match p.pieces.getLast? with
  | some "" => { p with pieces := p.pieces.dropLast ++ [name] }
  | _ => { p with pieces := p.pieces ++ [name] }

/-- The path next to this one under another name; below this one if it names no entry. -/
def sibling (p : Path) (name : String) : Path :=
  match p.fileName?, p.parent? with
  | some _, some parent => parent.extend name
  | _, _ => p.extend name

/-- The steps that following a path takes. -/
def steps (p : Path) : List String := p.pieces.filter (· ≠ "")

/-- Whether the last step goes to an entry of a directory, and not to a directory that is known
already. -/
def goesToEntry (p : Path) : Bool :=
  match p.steps.getLast? with
  | none | some "." | some ".." => false
  | some _ => true

/-- Whether a path ends in a slash, as only the path of a directory may. -/
def endsInSlash (p : Path) : Bool := p.pieces.getLast? == some ""

end Path

end InferenceFleet
