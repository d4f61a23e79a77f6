import InferenceFleet.Probe.Error
import InferenceFleet.Time.Timestamp

/-!
# The error window

The failures of the last while, oldest first. Each is kept with the time elapsed when it was
recorded, and is dropped from the front once it is older than the span of the window; a failure
whose age is the span is still in it. Dropping happens whenever the window is used.
-/

namespace InferenceFleet

/-- A failed probe as it is remembered. -/
structure ProbeFailure where
  /-- The probed peer; for an address that is not registered, its text. -/
  peerId : String
  address : String
  failureClass : FailureClass
  message : String
  time : Timestamp
  deriving DecidableEq

/-- The failure of a probe, recorded at a time. -/
def ProbeFailure.of (peerId : String) (e : ProbeError) (time : Timestamp) : ProbeFailure :=
  ⟨peerId, e.address, e.failureClass, e.message, time⟩

/-- The failures of the last while, each with the time elapsed when it was recorded. -/
structure ErrorWindow where
  span : Duration
  entries : List (Duration × ProbeFailure)
  deriving DecidableEq

namespace ErrorWindow

/-- A window without failures. -/
def empty (span : Duration) : ErrorWindow := ⟨span, []⟩

/-- Whether an entry is older than the span of the window. -/
def isOld (w : ErrorWindow) (now : Duration) (entry : Duration × ProbeFailure) : Bool :=
  decide (w.span < now - entry.1)

/-- The window without the old entries at its front. -/
def prune (w : ErrorWindow) (now : Duration) : ErrorWindow :=
  { w with entries := w.entries.dropWhile (w.isOld now) }

/-- The window with one more failure. -/
def push (w : ErrorWindow) (now : Duration) (failure : ProbeFailure) : ErrorWindow :=
  let pruned := w.prune now
  { pruned with entries := pruned.entries ++ [(now, failure)] }

/-- The failures in the window. -/
def failures (w : ErrorWindow) : List ProbeFailure := w.entries.map Prod.snd

end ErrorWindow

end InferenceFleet
