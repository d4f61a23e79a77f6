import InferenceFleet.Document.Decoder

/-!
# Classes of failure

Every error of the library belongs to one of six classes, by which failures are counted, shown
and filtered. A class has one name, which is also its document form.
-/

namespace InferenceFleet

/-- What kind of thing went wrong. -/
inductive FailureClass
  /-- A node could not be reached, or answered with a failure status. -/
  | network
  /-- A deadline passed. -/
  | timeout
  /-- Data that was read is not acceptable. -/
  | validation
  /-- A configuration or a peer file is not readable as such. -/
  | config
  /-- No node serves any of the preferred models. -/
  | noAvailableEndpoint
  /-- Anything else. -/
  | system
  deriving DecidableEq

namespace FailureClass

/-- All classes. -/
def all : List FailureClass :=
  [.network, .timeout, .validation, .config, .noAvailableEndpoint, .system]

/-- The name of a class. -/
def name : FailureClass → String
  | .network => "network"
  | .timeout => "timeout"
  | .validation => "validation"
  | .config => "config"
  | .noAvailableEndpoint => "no_available_endpoint"
  | .system => "system"

/-- The class of a name. -/
def ofName? (s : String) : Option FailureClass := all.find? fun c => c.name == s

/-- The document of a class. -/
def toTree (c : FailureClass) : Tree := .text c.name

/-- The class that a document stands for. -/
def ofTree? (t : Tree) : Option FailureClass := (t.enumerator? .json).bind ofName?

end FailureClass

end InferenceFleet
