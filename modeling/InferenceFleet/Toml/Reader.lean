import InferenceFleet.Toml.Value

/-!
# Reading TOML text

A document is read line by line. A line is blank, opens a table by its header, opens a table at
the end of a list of tables, or gives a key of the open table its value. A mark of the byte order
may stand before all else.
-/

namespace InferenceFleet.Toml

/-- A document under construction: its fields, and the path of the table that is open. -/
structure Document where
  fields : Fields
  path : List String

namespace Document

/-- An empty document, with its root open. -/
def empty : Document := ⟨[], []⟩

/-- The document with a table opened by a change at the end of a path. -/
def enter (d : Document) (change : String → Fields → Option Fields) (path : List String) :
    Option Document := do
  let key ← path.getLast?
  let fields ← Fields.within (change key) path.dropLast d.fields
  some ⟨fields, path⟩

/-- The document with a value under a key of the open table. -/
def add (d : Document) (key : List String) (value : Tree) : Option Document := do
  let fields ← Fields.within (Fields.add value true key) d.path d.fields
  some { d with fields := fields }

end Document

/-- A header after its opening brackets, up to the end of its line. -/
def readHeader? (brackets cs : List Char) : Option (List String × List Char) := do
  let (path, rest) ← readKey? cs
  let rest ← after? brackets rest
  let rest ← afterLine? rest
  some (path, rest)

/-- A key with its value, up to the end of its line. -/
def readPair? (cs : List Char) : Option ((List String × Tree) × List Char) := do
  let (key, rest) ← readKey? cs
  let rest ← after? ['='] rest
  let (value, rest) ← readWholeValue? rest
  let rest ← afterLine? rest
  some ((key, value), rest)

/-- The document with one more line. -/
def readLine? (d : Document) (cs : List Char) : Option (Document × List Char) :=
  match cs with
  | '[' :: '[' :: rest => do
      let (path, rest) ← readHeader? [']', ']'] rest
      let d ← d.enter Fields.openItem path
      some (d, rest)
  | '[' :: rest => do
      let (path, rest) ← readHeader? [']'] rest
      let d ← d.enter Fields.openTable path
      some (d, rest)
  | cs =>
      match afterLine? cs with
      | some rest => some (d, rest)
      | none => do
          let ((key, value), rest) ← readPair? cs
          let d ← d.add key value
          some (d, rest)

/-- The document with all further lines; the fuel bounds their number. -/
def readLinesFrom? : Nat → Document → List Char → Option Document
  | 0, _, _ => none
  | fuel + 1, d, cs =>
      match skipBlanks cs with
      | [] => some d
      | cs => do
          let (d, rest) ← readLine? d cs
          readLinesFrom? fuel d rest

/-- The mark of the byte order. -/
def byteOrderMark : Char := '\uFEFF'

/-- The tree of a whole text. -/
def read? (s : String) : Option Tree :=
  let cs := match s.toList with
    | c :: rest => if c = byteOrderMark then rest else c :: rest
    | [] => []
  (readLinesFrom? (cs.length + 1) .empty cs).map fun d => d.fields.toTree

end InferenceFleet.Toml
