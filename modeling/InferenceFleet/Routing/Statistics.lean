import InferenceFleet.Text.Map

/-!
# Routing statistics

How often selection succeeded with its first or a later preference, how often it failed and how,
how often the fallback stood in, and which peers and models were chosen. Counts are words of 64
bits, which start over once they are full.
-/

namespace InferenceFleet

/-- Counts of what became of routed tasks. -/
structure Statistics where
  selections : UInt64
  firstTierHits : UInt64
  laterTierHits : UInt64
  exhaustions : UInt64
  systemErrors : UInt64
  fallbacks : UInt64
  perModel : TextMap UInt64
  perPeer : TextMap UInt64

namespace Statistics

/-- Nothing was routed yet. -/
def zero : Statistics := ⟨0, 0, 0, 0, 0, 0, .empty, .empty⟩

/-- One more for a key. -/
def bump (counts : TextMap UInt64) (key : String) : TextMap UInt64 :=
  counts.insert key ((counts.get? key).getD 0 + 1)

/-- A selection of a peer and a model at a tier. -/
def recordSelection (s : Statistics) (peerId modelId : String) (tier : Nat) : Statistics :=
  { s with
    selections := s.selections + 1
    firstTierHits := if tier = 0 then s.firstTierHits + 1 else s.firstTierHits
    laterTierHits := if tier = 0 then s.laterTierHits else s.laterTierHits + 1
    perModel := bump s.perModel modelId
    perPeer := bump s.perPeer peerId }

/-- A selection that no peer could serve. -/
def recordExhaustion (s : Statistics) : Statistics := { s with exhaustions := s.exhaustions + 1 }

/-- A selection that could not be made. -/
def recordSystemError (s : Statistics) : Statistics := { s with systemErrors := s.systemErrors + 1 }

/-- A fallback in place of an error. -/
def recordFallback (s : Statistics) : Statistics := { s with fallbacks := s.fallbacks + 1 }

end Statistics

end InferenceFleet
