import InferenceFleet.Timeline.World

/-!
# Scripted networks

A network that is written down: what each address answers, and after which delay. An address that
is not in the script refuses connections. A probe whose answer would come at its deadline or later,
unless it comes at once, runs into the deadline instead.
-/

namespace InferenceFleet

/-- How a scripted probe fails. -/
inductive ScriptedFault
  | network (message : String)
  /-- Reported with the deadline of the probe. -/
  | timeout
  | validation (message : String)
  | system (message : String)

/-- What an address does when it is probed. -/
inductive Script
  | answer (c : Capability) (delay : Duration)
  | fail (fault : ScriptedFault) (delay : Duration)
  | hang

/-- A written network: the scripts of addresses by their texts, and what this node answers. -/
structure ScriptedNetwork where
  scripts : TextMap Script
  thisNode : Plan Capability

namespace ScriptedFault

/-- The fault of a probe with a deadline. -/
def fault (deadline : Duration) : ScriptedFault → ProbeFault
  | .network message => .network message
  | .timeout => .timeout deadline
  | .validation message => .validation message
  | .system message => .system message

end ScriptedFault

namespace Script

/-- Ends a plan at a deadline, unless it comes before it or at once. -/
def bounded (address : Address) (deadline delay : Duration) (outcome : Outcome) : Plan Outcome :=
  if delay ≠ 0 ∧ deadline ≤ delay then ⟨deadline, .error ⟨address.text, .timeout deadline⟩⟩
  else ⟨delay, outcome⟩

/-- What a probe of an address brings. -/
def plan (address : Address) (deadline : Duration) : Option Script → Plan Outcome
  | none => ⟨0, .error ⟨address.text, .network "connection refused"⟩⟩
  | some (.answer c delay) => bounded address deadline delay (.ok c)
  | some (.fail fault delay) =>
      bounded address deadline delay (.error ⟨address.text, fault.fault deadline⟩)
  | some .hang => ⟨deadline, .error ⟨address.text, .timeout deadline⟩⟩

end Script

/-- The network that a script describes. -/
def ScriptedNetwork.network (s : ScriptedNetwork) : Network :=
  { remote := fun address deadline _ => Script.plan address deadline (s.scripts.get? address.text)
    thisNode := fun _ => s.thisNode }

end InferenceFleet
