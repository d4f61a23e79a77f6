import InferenceFleet.Time.Duration
import InferenceFleet.Time.Timestamp

/-!
# Clocks

What is read from the clocks of a host: the time of day, which may jump, and the time elapsed
since some instant. A clock is the sequence of its readings, so that statements about a program
hold whatever it reads; `steady` is the clock that moves on by the same amount with each reading.
-/

namespace InferenceFleet

/-- One reading of the clocks of a host. -/
structure Reading where
  /-- The time of day. -/
  wall : Timestamp
  /-- The time elapsed since some instant. -/
  elapsed : Duration
  deriving DecidableEq

/-- A clock: its readings, and how many of them were taken. -/
structure Clock where
  reading : Nat → Reading
  taken : Nat

namespace Clock

/-- The next reading. -/
def now (c : Clock) : Reading := c.reading c.taken

/-- The clock after a number of readings. -/
def skip (c : Clock) (n : Nat) : Clock := { c with taken := c.taken + n }

/-- The clock after one reading. -/
def tick (c : Clock) : Clock := c.skip 1

/-- The clock after some time has passed. -/
def delayed (c : Clock) (d : Duration) : Clock :=
  { c with reading := fun n =>
      let r := c.reading n
      ⟨r.wall.addNanos d, r.elapsed + d⟩ }

/-- The clock that starts at a time and moves on by `step` with each reading. -/
def steady (start : Timestamp) (step : Duration) : Clock :=
  ⟨fun n => ⟨start.addNanos (n * step), n * step⟩, 0⟩

end Clock

end InferenceFleet
