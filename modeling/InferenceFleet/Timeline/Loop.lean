import InferenceFleet.Timeline.CycleRun

/-!
# The monitor's loop

The loop runs a cycle at each tick of a ticker. Ticks are an interval apart, the first when the
loop is first polled; ticks missed during a long cycle are made up for by one tick right after it,
and the next one is again at a multiple of the interval. When the loop is told to stop it gives
up the cycle that is running and ends; it looks for that before anything else. With no time between
its ticks a loop ends without a cycle.
-/

namespace InferenceFleet

/-- How late a tick may be without counting as missed. -/
def tickTolerance : Duration := .ofMillis 5

/-- The monitor's loop. -/
structure Loop where
  /-- The instant of the next tick, once the loop was polled. -/
  nextTick : Option Duration
  /-- The cycle that is running. -/
  run : Option CycleRun
  /-- Whether the loop was told to stop. -/
  stopping : Bool
  finished : Bool

namespace Loop

/-- A loop that was not polled yet. -/
def new : Loop := ⟨none, none, false, false⟩

/-- The tick after one that was due at `due` and happened now. -/
def tickAfter (interval now due : Duration) : Duration :=
  if due + tickTolerance < now then now + interval - (now - due) % interval else due + interval

/-- How often a loop can go round at one instant. -/
def rounds (interval now : Duration) (nextTick : Option Duration) : Nat :=
  (now + tickTolerance - nextTick.getD now) / interval + 3

/-- The loop, as far as it gets at the present instant in `fuel` rounds. -/
def pollFrom (c : MonitorConfig) : Nat → World → Loop → World × Loop
  | 0, w, l => (w, l)
  | fuel + 1, w, l =>
      if l.finished then (w, l)
      else if l.stopping then
        let w := match l.run with
          | some run => run.cancel w
          | none => w
        (w, { l with run := none, finished := true })
      else
        match l.run with
        | some run =>
            let (w, run) := run.poll c w
            match run.report? with
            | some _ => pollFrom c fuel w { l with run := none }
            | none => (w, { l with run := some run })
        | none =>
            let due := l.nextTick.getD w.now
            if c.interval = 0 then (w, { l with finished := true })
            else if due ≤ w.now then
              let (w, run) := CycleRun.start w
              pollFrom c fuel w
                { l with nextTick := some (tickAfter c.interval w.now due), run := some run }
            else (w, { l with nextTick := some due })

/-- The loop, as far as it gets at the present instant. -/
def poll (c : MonitorConfig) (w : World) (l : Loop) : World × Loop :=
  pollFrom c (2 * rounds c.interval w.now l.nextTick) w l

/-- The instants at which a loop can go on. -/
def wakes (w : World) (l : Loop) : List Duration :=
  if l.finished then []
  else if l.stopping then [w.now]
  else
    match l.run with
    | some run => run.wakes w
    | none => [l.nextTick.getD w.now]

end Loop

end InferenceFleet
