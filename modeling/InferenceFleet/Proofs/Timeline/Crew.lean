import InferenceFleet.Timeline.Loop

/-!
# The tasks of a monitor

Cycles of one monitor are run by any number of tasks: callers that wait for a cycle, callers that
wait for one only so long, and loops. A task does something only when it is polled, and each poll is
one step; between polls a caller may go away, a loop may be told to stop or be aborted, and whatever
is beside the cycles may change: the clocks, the network, the registry, the files, the events and
the remembered failures. Only the tasks ask for the lock and count cycles.

A run is a list of moves, and a move that is not possible changes nothing, so the runs are all the
ways in which the tasks can be polled.
-/

namespace InferenceFleet

/-- A loop that is told to stop. -/
def Loop.stop (l : Loop) : Loop := { l with stopping := true }

/-- A task that runs cycles. -/
inductive Task
  | single (run : CycleRun)
  | forced (cycle : ForcedCycle)
  | loop (l : Loop)
  /-- A caller that has its report, or has none because its time was up or it went away; or a loop
  that was aborted. -/
  | ended (report : Option CycleReport)

namespace Task

/-- The cycle that a task is at. -/
def run? : Task → Option CycleRun
  | single r => some r
  | forced f => some f.run
  | loop l => l.run
  | ended _ => none

theorem run?_loop (l : Loop) : (loop l).run? = l.run := rfl

/-- The report that a task has got. -/
def report? : Task → Option CycleReport
  | single _ => none
  | forced _ => none
  | loop _ => none
  | ended report => report

theorem report?_loop (l : Loop) : (loop l).report? = none := rfl

/-- A task, as far as it gets at the present instant. -/
def poll (c : MonitorConfig) (w : World) : Task → World × Task
  | single r =>
      let polled := r.poll c w
      (polled.1, match polled.2.report? with
        | some report => ended (some report)
        | none => single polled.2)
  | forced f =>
      let polled := f.poll c w
      (polled.1, match polled.2.2 with
        | some result => ended result
        | none => forced polled.2.1)
  | loop l => (l.poll c w).map id loop
  | ended report => (w, ended report)

-- Polling a loop is not to be unfolded: how often it goes round does not compute.
theorem poll_loop (c : MonitorConfig) (w : World) (l : Loop) :
    (loop l).poll c w = (l.poll c w).map id loop := rfl

/-- The world when the cycle that a task is at is given up. -/
def giveUp (w : World) (t : Task) : World :=
  match t.run? with
  | some r => r.cancel w
  | none => w

/-- A task that is told to stop; only loops can be. -/
def stop : Task → Task
  | loop l => loop l.stop
  | t => t

end Task

/-- The tasks of a monitor, by their places. -/
structure Crew where
  world : World
  tasks : List Task

namespace Crew

/-- Something that happens to the tasks of a monitor. -/
inductive Move
  /-- A cycle is asked for. -/
  | call
  /-- A cycle is asked for, and waited for as long as the settings say. -/
  | force
  | spawn
  | poll (place : Nat)
  /-- A caller goes away, or a loop is aborted. -/
  | drop (place : Nat)
  /-- A loop is told to stop: it is shut down, or its handle is dropped. -/
  | stop (place : Nat)
  /-- Everything but the lock and the number of cycles becomes what it is in another world. -/
  | beside (w : World)

/-- A monitor that has run no cycle, on a world. -/
def start (w : World) : Crew :=
  ⟨{ w with lock := .free, fleet := { w.fleet with completed := 0 } }, []⟩

/-- The tasks after a move. -/
def step (c : MonitorConfig) (s : Crew) : Move → Crew
  | .call =>
      let (w, r) := CycleRun.start s.world
      ⟨w, s.tasks ++ [.single r]⟩
  | .force =>
      let (w, f) := ForcedCycle.start c s.world
      ⟨w, s.tasks ++ [.forced f]⟩
  | .spawn => { s with tasks := s.tasks ++ [.loop .new] }
  | .poll place =>
      match s.tasks[place]? with
      | some t =>
          let (w, t) := t.poll c s.world
          ⟨w, s.tasks.set place t⟩
      | none => s
  | .drop place =>
      match s.tasks[place]? with
      | some (.ended _) => s
      | some t => ⟨t.giveUp s.world, s.tasks.set place (.ended none)⟩
      | none => s
  | .stop place => { s with tasks := s.tasks.modify place Task.stop }
  | .beside w =>
      let fleet := { w.fleet with completed := s.world.fleet.completed }
      { s with world := { w with lock := s.world.lock, fleet := fleet } }

/-- The tasks after a run. -/
def run (c : MonitorConfig) (s : Crew) (moves : List Move) : Crew := moves.foldl (step c) s

@[simp]
theorem run_nil (c : MonitorConfig) (s : Crew) : s.run c [] = s := rfl

theorem run_concat (c : MonitorConfig) (s : Crew) (moves : List Move) (m : Move) :
    s.run c (moves ++ [m]) = (s.run c moves).step c m := List.foldl_append

/-- A task that is there is polled, dropped or told to stop by a move, or stays as it is. -/
theorem getElem?_tasks_step {c : MonitorConfig} {s : Crew} {place : Nat} {t : Task}
    (ht : s.tasks[place]? = some t) (m : Move) :
    (m = .poll place ∧ (s.step c m).tasks[place]? = some (t.poll c s.world).2) ∨
      (s.step c m).tasks[place]? = some (.ended none) ∨
      (s.step c m).tasks[place]? = some t.stop ∨ (s.step c m).tasks[place]? = some t := by
  have hlt : place < s.tasks.length := (List.getElem?_eq_some_iff.1 ht).1
  have happended : ∀ new : Task, (s.tasks ++ [new])[place]? = some t := by
    intro new
    rw [List.getElem?_append_left hlt, ht]
  cases m with
  | call => exact .inr (.inr (.inr (happended _)))
  | force => exact .inr (.inr (.inr (happended _)))
  | spawn => exact .inr (.inr (.inr (happended _)))
  | beside w => exact .inr (.inr (.inr ht))
  | poll other =>
      by_cases hplace : other = place
      · subst hplace
        refine .inl ⟨rfl, ?_⟩
        simp only [step, ht]
        exact List.getElem?_set_self hlt
      · refine .inr (.inr (.inr ?_))
        simp only [step]
        cases s.tasks[other]? with
        | none => exact ht
        | some other => exact (List.getElem?_set_ne hplace).trans ht
  | drop other =>
      simp only [step]
      by_cases hplace : other = place
      · subst hplace
        rw [ht]
        cases t with
        | ended report => exact .inr (.inr (.inr ht))
        | single | forced | loop => exact .inr (.inl (List.getElem?_set_self hlt))
      · refine .inr (.inr (.inr ?_))
        cases s.tasks[other]? with
        | none => exact ht
        | some task =>
            cases task with
            | ended report => exact ht
            | single | forced | loop => exact (List.getElem?_set_ne hplace).trans ht
  | stop other =>
      by_cases hplace : other = place
      · subst hplace
        refine .inr (.inr (.inl ?_))
        rw [step, List.getElem?_modify_eq, ht]
        rfl
      · refine .inr (.inr (.inr ?_))
        exact (List.getElem?_modify_ne Task.stop s.tasks hplace).trans ht

end Crew

end InferenceFleet
