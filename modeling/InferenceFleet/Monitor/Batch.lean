import InferenceFleet.Monitor.Cycle

/-!
# Batches of probes

A list of targets is probed with a bounded number of probes in flight. Probes start in the order
of the list, as soon as there is room. A probe in flight is known by its target, the instant at
which it is due and what it will bring. At any instant, of the probes that are due the one that
started first ends first, and only then is its place given to the next target. The batch is
finished when nothing is waiting and nothing in flight.
-/

namespace InferenceFleet

/-- A probe on its way. -/
structure Flight where
  target : Target
  /-- The instant at which the probe ends. -/
  due : Duration
  outcome : Outcome

/-- A list of targets being probed. -/
structure Batch where
  /-- The targets that are not probed yet. -/
  waiting : List Target
  /-- The probes on their way, in the order they started. -/
  inFlight : List Flight
  /-- The outcomes so far, in the order they came. -/
  answered : List (Target × Outcome)

namespace Batch

/-- A batch of which no probe has started. -/
def new (targets : List Target) : Batch := ⟨targets, [], []⟩

/-- Whether every target has an outcome. -/
def isFinished (b : Batch) : Bool := b.waiting.isEmpty && b.inFlight.isEmpty

/-- The number of targets without an outcome. -/
def remaining (b : Batch) : Nat := b.waiting.length + b.inFlight.length

/-- Starts as many probes as there is room for among `width`. -/
def refill (launch : Target → Flight) (width : Nat) (b : Batch) : Batch :=
  let room := width - b.inFlight.length
  { b with
    waiting := b.waiting.drop room
    inFlight := b.inFlight ++ (b.waiting.take room).map launch }

/-- The first probe that is due, and the others. -/
def firstDue? (now : Duration) : List Flight → Option (Flight × List Flight)
  | [] => none
  | flight :: rest =>
      if flight.due ≤ now then some (flight, rest)
      else (firstDue? now rest).map fun (found, others) => (found, flight :: others)

/-- Fills the batch up and ends probes that are due, at most `fuel` of them. -/
def pollFrom (launch : Target → Flight) (width : Nat) (now : Duration) : Nat → Batch → Batch
  | 0, b => b
  | fuel + 1, b =>
      let b := b.refill launch width
      match firstDue? now b.inFlight with
      | none => b
      | some (flight, others) =>
          pollFrom launch width now fuel
            { b with
              inFlight := others
              answered := b.answered ++ [(flight.target, flight.outcome)] }

/-- The batch at an instant: filled up, and without probes that are due. -/
def poll (launch : Target → Flight) (width : Nat) (now : Duration) (b : Batch) : Batch :=
  b.pollFrom launch width now (b.remaining + 1)

/-- The targets whose probes started between two states of a batch. -/
def started (before after : Batch) : List Target :=
  before.waiting.take (before.waiting.length - after.waiting.length)

end Batch

end InferenceFleet
