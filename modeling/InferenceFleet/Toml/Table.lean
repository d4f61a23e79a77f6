import InferenceFleet.Document.Tree

/-!
# Tables of TOML under construction

While a document is read, a table remembers how it came to be: by a header of its own, on the way
to a table that a header names, or by dotted keys. That decides what may still be added to it. A
header may name a table once, and also one that was only passed through; dotted keys may pass
through tables without a header of their own and add to dotted ones alone; a key has one value. A
list of tables grows at its end, and everything that is added within it is added to its last
table.
-/

namespace InferenceFleet.Toml

/-- How a table came to be. -/
inductive TableOrigin
  | header
  | passage
  | dotted
  deriving DecidableEq

/-- What stands under a key while a document is read. -/
inductive Node where
  | value (t : Tree)
  | table (origin : TableOrigin) (fields : List (String × Node))
  | tables (items : List (List (String × Node)))

/-- The fields of a table under construction. -/
abbrev Fields := List (String × Node)

namespace Node

mutual
/-- What a node stands for. -/
def toTree : Node → Tree
  | .value t => t
  | .table _ fields => .record (fieldTrees fields)
  | .tables items => .list (itemTrees items)

/-- What fields stand for. -/
def fieldTrees : List (String × Node) → List (String × Tree)
  | [] => []
  | (key, node) :: rest => (key, toTree node) :: fieldTrees rest

/-- What a list of tables stands for. -/
def itemTrees : List (List (String × Node)) → List Tree
  | [] => []
  | fields :: rest => .record (fieldTrees fields) :: itemTrees rest
end

end Node

namespace Fields

/-- The fields as a record. -/
def toTree (fields : Fields) : Tree := .record (Node.fieldTrees fields)

/-- The fields with another node under a key that is there. -/
def replace (key : String) (node : Node) : Fields → Fields
  | [] => []
  | (k, old) :: rest => if k = key then (k, node) :: rest else (k, old) :: replace key node rest

/-- A change of the last item of a list. -/
def changeLast (change : Fields → Option Fields) (items : List Fields) : Option (List Fields) := do
  let last ← items.getLast?
  let changed ← change last
  some (items.dropLast ++ [changed])

/-- A change of the fields of the table that a header path leads to; tables on the way that are
not there yet are passages. -/
def within (change : Fields → Option Fields) : List String → Fields → Option Fields
  | [], fields => change fields
  | key :: path, fields =>
      match fields.lookup key with
      | none => (within change path []).map fun inner => fields ++ [(key, .table .passage inner)]
      | some (.table origin inner) =>
          (within change path inner).map fun inner => fields.replace key (.table origin inner)
      | some (.tables items) =>
          (changeLast (within change path) items).map fun items =>
            fields.replace key (.tables items)
      | some (.value _) => none

/-- A value added under a dotted key, to fields that can take one if `isOpen`. -/
def add (value : Tree) : Bool → List String → Fields → Option Fields
  | _, [], _ => none
  | isOpen, [key], fields =>
      if isOpen && (fields.lookup key).isNone then some (fields ++ [(key, .value value)]) else none
  | _, key :: path, fields =>
      match fields.lookup key with
      | none => (add value true path []).map fun inner => fields ++ [(key, .table .dotted inner)]
      | some (.table .header _) => none
      | some (.table origin inner) =>
          (add value (origin = .dotted) path inner).map fun inner =>
            fields.replace key (.table origin inner)
      | some (.tables items) =>
          (changeLast (add value false path) items).map fun items =>
            fields.replace key (.tables items)
      | some (.value _) => none

/-- A table opened by its header. -/
def openTable (key : String) (fields : Fields) : Option Fields :=
  match fields.lookup key with
  | none => some (fields ++ [(key, .table .header [])])
  | some (.table .passage inner) => some (fields.replace key (.table .header inner))
  | some _ => none

/-- A table opened at the end of a list of tables. -/
def openItem (key : String) (fields : Fields) : Option Fields :=
  match fields.lookup key with
  | none => some (fields ++ [(key, .tables [[]])])
  | some (.tables items) => some (fields.replace key (.tables (items ++ [[]])))
  | some _ => none

end Fields

end InferenceFleet.Toml
