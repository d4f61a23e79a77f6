import InferenceFleet.Routing.Document
import InferenceFleet.Toml.Reader

/-!
# Configuration files

What a configuration file says: six sections, each of which may be missing, and in each of them
settings that may be missing. Unknown sections and settings are passed over.
-/

namespace InferenceFleet

open InferenceFleet.Tree

/-- What a file says about the monitor. -/
structure MonitorSection where
  intervalSecs : Option Nat
  probeTimeoutSecs : Option Nat
  startupWaitSecs : Option Nat
  errorWindowSecs : Option Nat
  maxConcurrentProbes : Option Nat

/-- What a file says about this node. -/
structure LocalSection where
  enabled : Option Bool
  host : Option String
  port : Option UInt16

/-- What a file says about the fallback. -/
structure FallbackSection where
  url : Option String
  model : Option String

/-- What a file says about where peers come from. -/
structure DiscoverySection where
  peersFile : Option String
  seeds : Option (List String)

/-- What a file says about the router. -/
structure RouterSection where
  mode : Option RouterMode

/-- A configuration file. -/
structure ConfigDocument where
  monitor : MonitorSection
  thisNode : LocalSection
  fallback : FallbackSection
  discovery : DiscoverySection
  router : RouterSection
  policy : PolicySettings

/-- A value, or null. -/
def Tree.ofOption {α : Type} (f : α → Tree) : Option α → Tree
  | some x => f x
  | none => .null

/-- A natural number. -/
def Tree.ofNat (n : Nat) : Tree := .integer n

/-- A whole number that fits a word of 64 bits. -/
def Tree.word64? (t : Tree) : Option Nat := t.word? Text.maxWord64

namespace MonitorSection

/-- Nothing said. -/
def none : MonitorSection := ⟨.none, .none, .none, .none, .none⟩

/-- The members of the section. -/
def members : List Member :=
  [.only "interval_secs", .only "probe_timeout_secs", .only "startup_wait_secs",
    .only "error_window_secs", .only "max_concurrent_probes"]

/-- The document of the section. -/
def toTree (s : MonitorSection) : Tree :=
  .record
    [("interval_secs", ofOption ofNat s.intervalSecs),
      ("probe_timeout_secs", ofOption ofNat s.probeTimeoutSecs),
      ("startup_wait_secs", ofOption ofNat s.startupWaitSecs),
      ("error_window_secs", ofOption ofNat s.errorWindowSecs),
      ("max_concurrent_probes", ofOption ofNat s.maxConcurrentProbes)]

/-- The section that a document stands for. -/
def ofTree? (t : Tree) : Option MonitorSection := do
  let fields ← t.members? .toml members
  let intervalSecs ← optional? word64? "interval_secs" fields
  let probeTimeoutSecs ← optional? word64? "probe_timeout_secs" fields
  let startupWaitSecs ← optional? word64? "startup_wait_secs" fields
  let errorWindowSecs ← optional? word64? "error_window_secs" fields
  let maxConcurrentProbes ← optional? word64? "max_concurrent_probes" fields
  some { intervalSecs, probeTimeoutSecs, startupWaitSecs, errorWindowSecs, maxConcurrentProbes }

end MonitorSection

namespace LocalSection

/-- Nothing said. -/
def none : LocalSection := ⟨.none, .none, .none⟩

/-- The members of the section. -/
def members : List Member := [.only "enabled", .only "host", .only "port"]

/-- The document of the section. -/
def toTree (s : LocalSection) : Tree :=
  .record
    [("enabled", ofOption .bool s.enabled), ("host", ofOption .text s.host),
      ("port", ofOption (fun p => ofNat p.toNat) s.port)]

/-- The section that a document stands for. -/
def ofTree? (t : Tree) : Option LocalSection := do
  let fields ← t.members? .toml members
  let enabled ← optional? bool? "enabled" fields
  let host ← optional? text? "host" fields
  let port ← optional? word16? "port" fields
  some { enabled, host, port }

end LocalSection

namespace FallbackSection

/-- Nothing said. -/
def none : FallbackSection := ⟨.none, .none⟩

/-- The members of the section. -/
def members : List Member := [.only "url", .only "model"]

/-- The document of the section. -/
def toTree (s : FallbackSection) : Tree :=
  .record [("url", ofOption .text s.url), ("model", ofOption .text s.model)]

/-- The section that a document stands for. -/
def ofTree? (t : Tree) : Option FallbackSection := do
  let fields ← t.members? .toml members
  let url ← optional? text? "url" fields
  let model ← optional? text? "model" fields
  some { url, model }

end FallbackSection

namespace DiscoverySection

/-- Nothing said. -/
def none : DiscoverySection := ⟨.none, .none⟩

/-- The members of the section. -/
def members : List Member := [.only "peers_file", .only "seeds"]

/-- The document of the section. -/
def toTree (s : DiscoverySection) : Tree :=
  .record [("peers_file", ofOption .text s.peersFile), ("seeds", ofOption ofTexts s.seeds)]

/-- The section that a document stands for. -/
def ofTree? (t : Tree) : Option DiscoverySection := do
  let fields ← t.members? .toml members
  let peersFile ← optional? text? "peers_file" fields
  let seeds ← optional? texts? "seeds" fields
  some { peersFile, seeds }

end DiscoverySection

namespace RouterSection

/-- Nothing said. -/
def none : RouterSection := ⟨.none⟩

/-- The members of the section. -/
def members : List Member := [.only "mode"]

/-- The document of the section. -/
def toTree (s : RouterSection) : Tree := .record [("mode", ofOption RouterMode.toTree s.mode)]

/-- The section that a document stands for. -/
def ofTree? (t : Tree) : Option RouterSection := do
  let fields ← t.members? .toml members
  let mode ← optional? (RouterMode.ofTree? .toml) "mode" fields
  some { mode }

end RouterSection

namespace ConfigDocument

/-- The sections of a file. -/
def members : List Member :=
  [.only "monitor", .only "local", .only "fallback", .only "discovery", .only "router",
    .only "policy"]

/-- The document of a file. -/
def toTree (d : ConfigDocument) : Tree :=
  .record
    [("monitor", d.monitor.toTree), ("local", d.thisNode.toTree),
      ("fallback", d.fallback.toTree), ("discovery", d.discovery.toTree),
      ("router", d.router.toTree), ("policy", d.policy.toTree)]

/-- The file that a document stands for. -/
def ofTree? (t : Tree) : Option ConfigDocument := do
  let fields ← t.members? .toml members
  let monitor ← defaulting? MonitorSection.ofTree? .none "monitor" fields
  let thisNode ← defaulting? LocalSection.ofTree? .none "local" fields
  let fallback ← defaulting? FallbackSection.ofTree? .none "fallback" fields
  let discovery ← defaulting? DiscoverySection.ofTree? .none "discovery" fields
  let router ← defaulting? RouterSection.ofTree? .none "router" fields
  let policy ← defaulting? (PolicySettings.ofTree? .toml) .none "policy" fields
  some { monitor, thisNode, fallback, discovery, router, policy }

/-- The file that a text stands for. -/
def read? (text : String) : Option ConfigDocument := (Toml.read? text).bind ofTree?

end ConfigDocument

end InferenceFleet
