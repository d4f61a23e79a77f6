import InferenceFleet.Json.Bytes
import InferenceFleet.Probe.Error
import InferenceFleet.Probe.Payload
import InferenceFleet.Probe.Status
import InferenceFleet.Probe.UrlHost

/-!
# Probing over HTTP

A node is asked for its capability document and, if it has none, for its list of models. Each
request is answered by a reply after some time, or never; both together have one deadline. A reply
counts only if its status is a success and its body is a document that is acceptable; everything
else is an error of one of four kinds, and every error names the address that was asked.
-/

namespace InferenceFleet

/-- Why no reply came. -/
inductive TransportFault
  /-- The request could not be made from its URL. -/
  | unusableUrl (message : String)
  /-- There was no connection, or it was lost. -/
  | disconnected (message : String)
  deriving DecidableEq

/-- What became of a request. A body that was cut short is given by the message about it. -/
inductive HttpReply
  | failed (fault : TransportFault)
  | answered (status : Status) (body : Except String ByteArray)

/-- A reply and the time it takes; a request without one is never answered. -/
abbrev TimedReply := Option (Duration × HttpReply)

/-- Answers requests by their URL. -/
abbrev Transport := String → TimedReply

namespace Transport

/-- A transport on which no connection opens. -/
def closed : Transport := fun _ => some (0, .failed (.disconnected "connection refused"))

end Transport

namespace Exchange

/-- The error of a request that no reply came to. -/
def faultOf : TransportFault → ProbeFault
  | .unusableUrl message => .system message
  | .disconnected message => .network message

/-- What is said about a body that is not the document asked for. -/
def malformedBody : String := "the body is not the expected document"

/-- The document in the body of a reply that counts. -/
def document {α : Type} (ofTree? : Tree → Option α) (status : Status)
    (body : Except String ByteArray) : Except ProbeFault α :=
  if !status.isSuccess then .error (.network ("HTTP " ++ status.text))
  else
    match body with
    | .error message => .error (.validation message)
    | .ok bytes =>
        match (Json.readBytes? bytes).bind ofTree? with
        | some value => .ok value
        | none => .error (.validation malformedBody)

/-- The capability in a list of models. -/
def ofModelList (now : Timestamp) (status : Status) (body : Except String ByteArray) :
    Except ProbeFault Capability := do
  let list ← document ModelList.ofTree? status body
  (list.toCapability now).mapError .validation

/-- The capability in a capability document. -/
def ofCapabilityDocument (now : Timestamp) (status : Status) (body : Except String ByteArray) :
    Except ProbeFault Capability := do
  let document ← document CapabilityDocument.ofTree? status body
  (document.toCapability now).mapError .validation

/-- The reply to a request for a URL of an address; no request is made if there is no such URL. -/
def ask (transport : Transport) (a : Address) (url : String) : TimedReply :=
  if a.isRequestable then transport url
  else some (0, .failed (.unusableUrl "builder error"))

/-- What asking for the list of models brings, and when; `none` if it never ends. -/
def tags (transport : Transport) (a : Address) (now : Timestamp) :
    Option (Duration × Except ProbeFault Capability) :=
  match ask transport a a.tagsUrl with
  | none => none
  | some (time, .failed fault) => some (time, .error (faultOf fault))
  | some (time, .answered status body) => some (time, ofModelList now status body)

/-- What the whole exchange brings, and when; `none` if it never ends. -/
def whole (transport : Transport) (a : Address) (now : Timestamp) :
    Option (Duration × Except ProbeFault Capability) :=
  match ask transport a a.capabilitiesUrl with
  | none => none
  | some (time, .failed fault) => some (time, .error (faultOf fault))
  | some (time, .answered status body) =>
      if status = .notFound then
        (tags transport a now).map fun (more, result) => (time + more, result)
      else some (time, ofCapabilityDocument now status body)

/-- An exchange cut off at a deadline: when it ends, and what it brought by then. -/
def within (deadline : Duration) (exchange : Option (Duration × Except ProbeFault Capability)) :
    Duration × Except ProbeFault Capability :=
  match exchange with
  | some (time, result) =>
      if time ≤ deadline then (time, result) else (deadline, .error (.timeout deadline))
  | none => (deadline, .error (.timeout deadline))

/-- A probe of an address: when it ends, and what it brought. -/
def probe (transport : Transport) (deadline : Duration) (a : Address) (now : Timestamp) :
    Duration × Except ProbeError Capability :=
  let (time, result) := within deadline (whole transport a now)
  (time, result.mapError (⟨a.text, ·⟩))

/-- What is known of the hardware of this host. -/
structure Hardware where
  cpuCores : UInt32
  memoryGb : Binary64
  gpuMemoryGb : Binary64
  load : Binary64

/-- A probe of the model server of this host: when it ends, and what it brought. The node is
available if its models could be listed; its hardware is known in any case. -/
def probeLocal (transport : Transport) (hardware : Hardware) (deadline : Duration) (a : Address)
    (now : Timestamp) : Duration × Capability :=
  let (time, result) := within deadline (tags transport a now)
  let models := match result with
    | .ok c => some c.models
    | .error _ => none
  (time,
    { cpuCores := hardware.cpuCores, memoryGb := hardware.memoryGb,
      gpuMemoryGb := hardware.gpuMemoryGb, models := models.getD ∅, load := hardware.load,
      available := models.isSome, lastSeen := now })

end Exchange

end InferenceFleet
