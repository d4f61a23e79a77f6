import InferenceFleet.Document.Decoder

/-!
# Sources of a configuration

The layers that a configuration is put together from, from the weakest to the strongest. A
configuration names the strongest one that it took anything from.
-/

namespace InferenceFleet

/-- A layer of configuration. -/
inductive ConfigSource
  | builtin
  | file
  | environment
  | commandLine
  deriving DecidableEq

namespace ConfigSource

/-- All layers. -/
def all : List ConfigSource := [.builtin, .file, .environment, .commandLine]

/-- A layer in words. -/
def label : ConfigSource → String
  | .builtin => "default"
  | .file => "config file"
  | .environment => "environment"
  | .commandLine => "CLI"

/-- The name of a layer in documents. -/
def name : ConfigSource → String
  | .builtin => "Default"
  | .file => "File"
  | .environment => "Env"
  | .commandLine => "Cli"

/-- The layer of a name. -/
def ofName? (s : String) : Option ConfigSource := all.find? fun c => c.name == s

/-- The document of a layer. -/
def toTree (s : ConfigSource) : Tree := .text s.name

/-- The layer that a document stands for. -/
def ofTree? (t : Tree) : Option ConfigSource := (t.enumerator? .json).bind ofName?

end ConfigSource

end InferenceFleet
