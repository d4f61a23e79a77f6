import InferenceFleet.Proofs.Timeline.Cancellation
import InferenceFleet.Proofs.Timeline.Crew
import InferenceFleet.Scenario.Run

/-!
# Shutting a loop down

A loop that was told to stop has one poll left to do anything in, and there it gives up the cycle
that it is at and ends. Main statement: whenever a loop is told to stop, and whatever happens to it
and beside it from then on, it starts no cycle, and its polls leave the world as it is but for the
lock, which they may give up; a probe that is due, or answered and not yet applied, changes nothing
of that. Whoever shuts a loop down waits until the loop has ended, and not for ever.
-/

namespace InferenceFleet

/-- Gives up no more than the ticket of a cycle, if there is one. -/
def Relinquishes (run? : Option CycleRun) (w w' : World) : Prop :=
  w' = w ∨ ∃ r, run? = some r ∧ w' = { w with lock := w.lock.release r.ticket }

theorem relinquishes_giveUp (t : Task) (w : World) : Relinquishes t.run? w (t.giveUp w) := by
  unfold Task.giveUp
  cases hrun : t.run? with
  | none => exact .inl rfl
  | some r =>
      obtain ⟨ticket, stage⟩ := r
      cases stage with
      | finished report => exact .inl rfl
      | lock | thisNode | peers | seeds => exact .inr ⟨_, rfl, rfl⟩

namespace Task

/-- Whether a task does nothing any more. -/
def isOver : Task → Bool
  | single _ => false
  | forced _ => false
  | loop l => l.finished
  | ended _ => true

/-- What a loop can have become since it was told to stop. -/
inductive LeftOf (l : Loop) : Task → Prop
  | waits : LeftOf l (loop l.stop)
  | finished : LeftOf l (loop { l.stop with run := none, finished := true })
  | aborted : LeftOf l (ended none)

variable {l : Loop} {t : Task}

theorem LeftOf.run?_eq (h : LeftOf l t) {r : CycleRun} (hrun : t.run? = some r) :
    l.run = some r := by
  cases h with
  | waits => exact hrun
  | finished => cases hrun
  | aborted => cases hrun

theorem LeftOf.relinquishes (h : LeftOf l t) {w w' : World}
    (hgiven : Relinquishes t.run? w w') : Relinquishes l.run w w' :=
  hgiven.imp_right fun ⟨r, hrun, heq⟩ => ⟨r, h.run?_eq hrun, heq⟩

theorem LeftOf.stop (h : LeftOf l t) : LeftOf l t.stop := by
  cases h with
  | waits => exact .waits
  | finished => exact .finished
  | aborted => exact .aborted

/-- One poll is all that a loop needs to end. -/
theorem LeftOf.poll (c : MonitorConfig) (w : World) (h : LeftOf l t) :
    LeftOf l (t.poll c w).2 ∧ (t.poll c w).2.isOver = true ∧
      Relinquishes l.run w (t.poll c w).1 := by
  cases h with
  | aborted => exact ⟨.aborted, rfl, .inl rfl⟩
  | finished =>
      have hpoll := Loop.poll_of_finished c w
        (l := { l.stop with run := none, finished := true }) rfl
      rw [poll_loop, hpoll]
      exact ⟨.finished, rfl, .inl rfl⟩
  | waits =>
      by_cases hfinished : l.finished = true
      · have hpoll := Loop.poll_of_finished c w (l := l.stop) hfinished
        rw [poll_loop, hpoll]
        exact ⟨.waits, hfinished, .inl rfl⟩
      · have hpoll := Loop.poll_of_stopping c w (l := l.stop) rfl (Bool.eq_false_iff.2 hfinished)
        rw [poll_loop, hpoll]
        exact ⟨.finished, rfl, relinquishes_giveUp (loop l) w⟩

end Task

namespace Crew

variable {c : MonitorConfig} {s : Crew} {place : Nat} {l : Loop} {t : Task}

theorem leftOf_step (ht : s.tasks[place]? = some t) (hleft : t.LeftOf l) (m : Move) :
    ∃ t', (s.step c m).tasks[place]? = some t' ∧ t'.LeftOf l := by
  rcases getElem?_tasks_step (c := c) ht m with ⟨-, hpolled⟩ | haborted | hstopped | hsame
  · exact ⟨_, hpolled, (hleft.poll c s.world).1⟩
  · exact ⟨_, haborted, .aborted⟩
  · exact ⟨_, hstopped, hleft.stop⟩
  · exact ⟨_, hsame, hleft⟩

/-- However the tasks go on once a loop was told to stop, it stays one that is to end. -/
theorem leftOf_run (hloop : s.tasks[place]? = some (.loop l)) (after : List Move) :
    ∃ t, ((s.step c (.stop place)).run c after).tasks[place]? = some t ∧ t.LeftOf l := by
  induction after using List.reverseRecOn with
  | nil =>
      refine ⟨_, ?_, .waits⟩
      rw [run_nil, step, List.getElem?_modify_eq, hloop]
      rfl
  | append_singleton after m ih =>
      obtain ⟨t, ht, hleft⟩ := ih
      rw [run_concat]
      exact leftOf_step ht hleft m

/-- What a loop does itself, if it is one that is to end: being polled or aborted ends it, and gives
up no more than the cycle that it was at. -/
theorem own_move_of_leftOf (ht : s.tasks[place]? = some t) (hleft : t.LeftOf l) {m : Move}
    (hown : m = .poll place ∨ m = .drop place) :
    ((s.step c m).tasks[place]?.any Task.isOver = true) ∧
      Relinquishes l.run s.world (s.step c m).world := by
  have hlt : place < s.tasks.length := (List.getElem?_eq_some_iff.1 ht).1
  rcases hown with rfl | rfl
  · obtain ⟨-, hover, hgiven⟩ := hleft.poll c s.world
    simp only [step, ht]
    rw [List.getElem?_set_self hlt]
    exact ⟨hover, hgiven⟩
  · have hgiven := hleft.relinquishes (relinquishes_giveUp t s.world)
    simp only [step, ht]
    cases hleft with
    | aborted =>
        rw [ht]
        exact ⟨rfl, .inl rfl⟩
    | waits | finished =>
        rw [List.getElem?_set_self hlt]
        exact ⟨rfl, hgiven⟩

end Crew

namespace Scene

variable {c : MonitorConfig} {s : Scene} {place : Nat} {l : Loop}

/-- One more loop is polled, in the world that the loops before it have left. -/
def pollNext (c : MonitorConfig) (state : World × List Loop) (l : Loop) : World × List Loop :=
  let polled := l.poll c state.1
  (polled.1, state.2 ++ [polled.2])

/-- Taking a pair apart or projecting from it is the same. This is said for any way of polling, as
how often a loop goes round does not compute. -/
theorem foldl_poll_eq (poll : World → Loop → World × Loop) (loops : List Loop)
    (state : World × List Loop) :
    loops.foldl (fun (w, done) l =>
        let (w, l) := poll w l
        (w, done ++ [l])) state =
      loops.foldl (fun state l => ((poll state.1 l).1, state.2 ++ [(poll state.1 l).2])) state :=
  rfl

theorem loops_pollLoops (hmonitor : s.monitor = some c) :
    s.pollLoops.loops = (s.loops.foldl (pollNext c) (s.world, [])).2 := by
  unfold pollLoops
  rw [hmonitor]
  exact congrArg Prod.snd (foldl_poll_eq (Loop.poll c) s.loops (s.world, []))

theorem exists_foldl_pollNext (c : MonitorConfig) (loops : List Loop) (w : World)
    (done : List Loop) :
    ∃ polled, (loops.foldl (pollNext c) (w, done)).2 = done ++ polled ∧
      List.Forall₂ (fun l l' => ∃ w, l' = (Loop.poll c w l).2) loops polled := by
  induction loops generalizing w done with
  | nil => exact ⟨[], (List.append_nil done).symm, .nil⟩
  | cons head rest ih =>
      obtain ⟨others, hfold, hothers⟩ := ih (head.poll c w).1 (done ++ [(head.poll c w).2])
      refine ⟨(head.poll c w).2 :: others, ?_, .cons ⟨w, rfl⟩ hothers⟩
      rw [List.foldl_cons, pollNext, hfold, List.append_assoc, List.singleton_append]

theorem exists_getElem?_pollLoops (hmonitor : s.monitor = some c)
    (hloop : s.loops[place]? = some l) :
    ∃ w, s.pollLoops.loops[place]? = some (l.poll c w).2 := by
  obtain ⟨polled, hfold, hpolled⟩ := exists_foldl_pollNext c s.loops s.world []
  obtain ⟨hlt, rfl⟩ := List.getElem?_eq_some_iff.1 hloop
  have hlt' : place < polled.length := hpolled.length_eq ▸ hlt
  obtain ⟨w, hw⟩ := hpolled.get hlt hlt'
  refine ⟨w, ?_⟩
  rw [loops_pollLoops hmonitor, hfold, List.nil_append, List.getElem?_eq_getElem hlt']
  exact congrArg some hw

/-- The wait is over exactly if the loop is. -/
theorem stopping_ended_iff (s : Scene) (place : Nat) (finishedBefore : Bool) :
    (∃ o, (s.stopping place finishedBefore).2 = .ended o) ↔ s.runningLoop? place = none := by
  unfold stopping
  cases s.runningLoop? place with
  | none => simp [ending]
  | some l => simp

theorem runningLoop?_eq_none (hloop : s.loops[place]? = some l) (hfinished : l.finished = true) :
    s.runningLoop? place = none := by
  simp [runningLoop?, hloop, Option.filter, hfinished]

/-- The end of a loop that is to stop is waited for until the loops are polled. -/
theorem exists_runFrom_stopping (hmonitor : s.monitor = some c)
    (hloop : s.loops[place]? = some l) (hstopping : l.stopping = true)
    (hfinished : l.finished = false) (finishedBefore : Bool) (fuel : Nat) :
    ∃ s' o, runFrom (fuel + 2) s (.stopping place finishedBefore) = (s', some o) ∧
      s'.runningLoop? place = none := by
  obtain ⟨w, hpolled⟩ := exists_getElem?_pollLoops hmonitor hloop
  rw [Loop.poll_of_stopping c w hstopping hfinished] at hpolled
  have hover : s.pollLoops.runningLoop? place = none := runningLoop?_eq_none hpolled rfl
  obtain ⟨t, hwake⟩ :
      ∃ t, s.pollLoops.nextWake? (.stopping place finishedBefore) = some t := by
    simp only [nextWake?, wakes, hover, Option.isNone_none, if_true]
    exact ⟨_, rfl⟩
  have hover' : (s.pollLoops.advanceTo t).runningLoop? place = none := hover
  simp only [runFrom, hwake, poll, stopping, hover', ending]
  exact ⟨_, _, rfl, hover'⟩

theorem begin_shutdown (hhandle : s.handle = some place) :
    s.begin .shutdown =
      { s with loops := s.loops.modify place Loop.stop, handle := none }.stopping place
        (s.runningLoop? place).isNone := by
  simp only [begin, hhandle, stopLoop]
  rfl

/-- Shutting a loop down comes back, and the loop has ended then. -/
theorem exists_runStep_shutdown (hmonitor : s.monitor = some c) (hhandle : s.handle = some place) :
    ∃ s' o, s.runStep .shutdown = (s', some o) ∧ s'.runningLoop? place = none := by
  obtain ⟨told, htold⟩ : ∃ told : Scene,
      told = { s with loops := s.loops.modify place Loop.stop, handle := none } := ⟨_, rfl⟩
  have hbegin := begin_shutdown hhandle
  rw [← htold] at hbegin
  rw [runStep, hbegin]
  cases hrunning : told.runningLoop? place with
  | none =>
      simp only [stopping, hrunning, ending]
      exact ⟨told, _, rfl, hrunning⟩
  | some l =>
      obtain ⟨hloop, hfinished⟩ := Option.filter_eq_some_iff.1 hrunning
      have hstopping : l.stopping = true := by
        rw [htold, List.getElem?_modify_eq] at hloop
        obtain ⟨before, -, rfl⟩ := Option.map_eq_some_iff.1 hloop
        rfl
      have hmonitor' : told.monitor = some c := htold ▸ hmonitor
      simp only [stopping, hrunning]
      exact exists_runFrom_stopping hmonitor' hloop hstopping (by simpa using hfinished) _
        (instants - 2)

end Scene

/-- A loop is told to stop at some moment, and then anything happens. Of cycles the loop is at none
but the one that it was at, and that as far as it had come; when it is polled or aborted, it is over
and the world as it was, but for the lock that this cycle may give up. The wait for the end of a
loop is over exactly when the loop has ended, in whatever scene, and shutting a loop down does come
to its end. -/
theorem shutdown_stops_the_loop (c : MonitorConfig) :
    (∀ (s : Crew) (place : Nat) (l : Loop), s.tasks[place]? = some (.loop l) →
      ∀ after : List Crew.Move,
        let t := (s.step c (.stop place)).run c after
        (∀ r, t.tasks[place]?.bind Task.run? = some r → l.run = some r) ∧
        ∀ m, m = .poll place ∨ m = .drop place →
          (t.step c m).tasks[place]?.any Task.isOver = true ∧
            Relinquishes l.run t.world (t.step c m).world) ∧
    (∀ (s : Scene) (place : Nat) (finishedBefore : Bool),
      (∃ o, (s.poll (.stopping place finishedBefore)).2 = .ended o) ↔
        s.runningLoop? place = none) ∧
    ∀ (s : Scene) (place : Nat), s.monitor = some c → s.handle = some place →
      ∃ s' o, s.runStep .shutdown = (s', some o) ∧ s'.runningLoop? place = none := by
  refine ⟨fun s place l hloop after => ?_, fun s place finishedBefore => ?_,
    fun s place hmonitor hhandle => Scene.exists_runStep_shutdown hmonitor hhandle⟩
  · obtain ⟨t, ht, hleft⟩ := Crew.leftOf_run (c := c) hloop after
    refine ⟨fun r hrun => ?_, fun m hown => Crew.own_move_of_leftOf ht hleft hown⟩
    rw [ht] at hrun
    exact hleft.run?_eq hrun
  · rw [Scene.poll]
    exact Scene.stopping_ended_iff s place finishedBefore

/-- A loop that is at a cycle, when the answer of the seed is due. -/
def seedDue : Crew :=
  let begun := (Crew.start CycleRun.awaitingSeed).run CycleRun.impatient [.spawn, .poll 0]
  begun.step CycleRun.impatient (.beside { begun.world with now := .ofSeconds 1 })

/-- A scene in which a loop was started. -/
def spawned : Scene :=
  { world := CycleRun.awaitingSeed, script := ⟨.empty, ⟨0, .unseen⟩⟩,
    admissionDeadline := .ofSeconds 1, monitor := some CycleRun.impatient,
    router := .new .builtin .builtin, attempts := none, lastRoute := none, loops := [.new],
    handle := some 0, listed := 0, directory := "" }

theorem shutdown_stops_the_loop_seedDue :
    ∃ l, seedDue.tasks[0]? = some (.loop l) ∧
      (seedDue.step CycleRun.impatient (.poll 0)).world.fleet.completed = 1 ∧
      let t := seedDue.step CycleRun.impatient (.stop 0)
      (t.step CycleRun.impatient (.poll 0)).tasks[0]?.any Task.isOver = true ∧
      Relinquishes l.run t.world (t.step CycleRun.impatient (.poll 0)).world ∧
      (t.step CycleRun.impatient (.poll 0)).world.fleet.completed = 0 ∧
      ∃ s' o, spawned.runStep .shutdown = (s', some o) ∧ s'.runningLoop? 0 = none := by
  obtain ⟨l, hloop⟩ : ∃ l, seedDue.tasks[0]? = some (.loop l) := ⟨_, rfl⟩
  obtain ⟨hloops, -, hscenes⟩ := shutdown_stops_the_loop CycleRun.impatient
  obtain ⟨hover, hgiven⟩ := (hloops seedDue 0 l hloop []).2 (.poll 0) (.inl rfl)
  exact ⟨l, hloop, by decide +kernel, hover, hgiven, by decide +kernel, hscenes spawned 0 rfl rfl⟩

end InferenceFleet
