import InferenceFleet.Monitor.Batch

/-!
# A fleet in time

The shared state of a fleet together with the network around it, the instant that timers go by,
and the lock that lets one cycle run at a time. The network answers every probe after some delay;
what it will answer is settled when the probe starts. The lock is handed on in the order in which
it was asked for.
-/

namespace InferenceFleet

/-- What a probe will bring, and after which delay. -/
structure Plan (α : Type) where
  delay : Duration
  result : α

/-- Answers probes. What is answered may depend on the deadline of a probe and on the time of
day. -/
structure Network where
  remote : Address → Duration → Timestamp → Plan Outcome
  thisNode : Timestamp → Plan Capability

/-- The lock of the cycles: who holds it, who waits for it in which order, and the ticket that the
next one gets. -/
structure CycleLock where
  holder : Option Nat
  queue : List Nat
  nextTicket : Nat
  deriving DecidableEq

namespace CycleLock

/-- A lock that nobody holds. -/
def free : CycleLock := ⟨none, [], 0⟩

/-- Asks for the lock; gives the ticket. Nobody holds it: it is given at once. -/
def request (l : CycleLock) : Nat × CycleLock :=
  (l.nextTicket,
    match l.holder with
    | none => { l with holder := some l.nextTicket, nextTicket := l.nextTicket + 1 }
    | some _ => { l with queue := l.queue ++ [l.nextTicket], nextTicket := l.nextTicket + 1 })

/-- Gives the lock to the next one waiting. -/
def handOn (l : CycleLock) : CycleLock :=
  match l.queue with
  | [] => { l with holder := none }
  | ticket :: rest => { l with holder := some ticket, queue := rest }

/-- Gives up a ticket, whether it holds the lock or waits for it. -/
def release (l : CycleLock) (ticket : Nat) : CycleLock :=
  if l.holder = some ticket then l.handOn
  else { l with queue := l.queue.filter (· ≠ ticket) }

end CycleLock

/-- A fleet in time. -/
structure World where
  /-- The instant that timers go by. -/
  now : Duration
  network : Network
  /-- The addresses probed so far, in the order their probes started. -/
  probed : List Address
  lock : CycleLock
  fleet : Fleet

namespace World

/-- The world at an instant that is not over yet. -/
def advanceTo (w : World) (t : Duration) : World := { w with now := max w.now t }

/-- The probe of a target that starts now. -/
def launch (w : World) (deadline : Duration) (t : Target) : Flight :=
  let plan := w.network.remote t.address deadline w.fleet.clock.now.wall
  ⟨t, w.now + plan.delay, plan.result⟩

/-- A batch at the present instant, and the world in which its probes started. -/
def pollBatch (w : World) (c : MonitorConfig) (b : Batch) : World × Batch :=
  let polled := b.poll (w.launch c.probeTimeout) c.width w.now
  ({ w with probed := w.probed ++ (b.started polled).map Target.address }, polled)

end World

end InferenceFleet
