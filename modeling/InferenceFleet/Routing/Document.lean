import InferenceFleet.Peer.Document
import InferenceFleet.Routing.Failure
import InferenceFleet.Routing.Policy

/-!
# Routes and policies as documents

The document form of routes, fallbacks, modes and policy settings. Settings are read from
configurations and from data alike, so their readers take the format.
-/

namespace InferenceFleet

open InferenceFleet.Tree

namespace Route

/-- The members of a route. -/
def members : List Member :=
  [.only "endpoint_url", .only "peer_id", .only "model_id", .only "is_fallback"]

/-- The document of a route. -/
def toTree (r : Route) : Tree :=
  .record
    [("endpoint_url", .text r.endpointUrl), ("peer_id", .text r.peerId),
      ("model_id", .text r.modelId), ("is_fallback", .bool r.isFallback)]

/-- The route that a document stands for. -/
def ofTree? (t : Tree) : Option Route := do
  let fields ← t.members? .json members
  let endpointUrl ← required? text? "endpoint_url" fields
  let peerId ← required? text? "peer_id" fields
  let modelId ← required? text? "model_id" fields
  let isFallback ← defaulting? bool? false "is_fallback" fields
  some { endpointUrl, peerId, modelId, isFallback }

end Route

namespace Fallback

/-- The members of a fallback. -/
def members : List Member := [.only "url", .only "model"]

/-- The document of a fallback. -/
def toTree (f : Fallback) : Tree := .record [("url", .text f.url), ("model", .text f.model)]

/-- The fallback that a document stands for. -/
def ofTree? (t : Tree) : Option Fallback := do
  let fields ← t.members? .json members
  let url ← required? text? "url" fields
  let model ← required? text? "model" fields
  some { url, model }

end Fallback

namespace RouterMode

/-- The document of a mode. -/
def toTree (m : RouterMode) : Tree := .text m.name

/-- The mode that a document stands for. -/
def ofTree? (format : Format) (t : Tree) : Option RouterMode :=
  (t.enumerator? format).bind ofName?

end RouterMode

namespace KeywordRule

/-- The members of a keyword rule. -/
def members : List Member := [.only "keyword", .only "category"]

/-- The document of a keyword rule. -/
def toTree (r : KeywordRule) : Tree :=
  .record [("keyword", .text r.keyword), ("category", .text r.category)]

/-- The keyword rule that a document stands for. -/
def ofTree? (format : Format) (t : Tree) : Option KeywordRule := do
  let fields ← t.members? format members
  let keyword ← required? text? "keyword" fields
  let category ← required? text? "category" fields
  some { keyword, category }

end KeywordRule

namespace PolicySettings

/-- The members of policy settings. -/
def members : List Member :=
  [.only "default_category", .only "preferences", .only "keywords", .only "roles"]

/-- A text, or null. -/
def optionalText : Option String → Tree
  | some s => .text s
  | .none => .null

/-- The document of policy settings. -/
def toTree (s : PolicySettings) : Tree :=
  .record
    [("default_category", optionalText s.defaultCategory),
      ("preferences", .record (s.preferences.entries.map fun b => (b.1, ofTexts b.2))),
      ("keywords", .list (s.keywords.map KeywordRule.toTree)),
      ("roles", .record (s.roles.entries.map fun b => (b.1, .text b.2)))]

/-- A record as a map. -/
def map? {α : Type} (value? : Tree → Option α) (t : Tree) : Option (TextMap α) :=
  (t.bindings? value?).map TextMap.ofList

/-- The policy settings that a document stands for. -/
def ofTree? (format : Format) (t : Tree) : Option PolicySettings := do
  let fields ← t.members? format members
  let defaultCategory ← optional? text? "default_category" fields
  let preferences ← defaulting? (map? texts?) .empty "preferences" fields
  let keywords ← defaulting? (list? (KeywordRule.ofTree? format)) [] "keywords" fields
  let roles ← defaulting? (map? text?) .empty "roles" fields
  some { defaultCategory, preferences, keywords, roles }

end PolicySettings

end InferenceFleet
