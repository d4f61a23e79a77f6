import InferenceFleet.Proofs.Timeline.Cancellation
import InferenceFleet.Proofs.Timeline.Crew
import InferenceFleet.Proofs.Timeline.Moments
import Mathlib.Data.List.Perm.Subperm

/-!
# Cycles take turns

Whatever the tasks of a monitor do, poll by poll, is a way through moments, so what holds in every
moment holds within every poll and between the polls. The way is put together along the code: a
batch is polled by launching and landing single probes, a cycle by polling its batches, and a task
by starting, polling and giving up cycles.
-/

namespace InferenceFleet

/-- A cycle under way, as a run. -/
def Underway.run (u : Underway) : CycleRun := ⟨u.ticket, u.stage⟩

namespace CycleStage

variable {stage : CycleStage} {b : Batch}

theorem withBatch_self (hbatch : stage.batch? = some b) : stage.withBatch b = stage := by
  cases stage with
  | peers | seeds =>
      cases hbatch
      rfl
  | lock | thisNode | finished => rfl

@[simp]
theorem withBatch_withBatch (stage : CycleStage) (b b' : Batch) :
    (stage.withBatch b).withBatch b' = stage.withBatch b' := by
  cases stage <;> rfl

end CycleStage

namespace Underway

variable {c : MonitorConfig} {w w' : World} {u u' : Underway} {b b' b'' : Batch}

/-- A cycle gets from one state of its batch to another. -/
def Handles (c : MonitorConfig) (w : World) (u : Underway) (b b' : Batch) : Prop :=
  ∃ (started : List Target) (launched : List (Target × Outcome)),
    b.waiting = started ++ b'.waiting ∧
    Relation.ReflTransGen (Goes c) (w, u)
      ({ w with probed := w.probed ++ started.map Target.address },
        { u with stage := u.stage.withBatch b', launched := launched })

theorem handles_refl (c : MonitorConfig) (w : World) (hbatch : u.stage.batch? = some b) :
    Handles c w u b b := by
  refine ⟨[], u.launched, rfl, ?_⟩
  rw [CycleStage.withBatch_self hbatch, List.map_nil, List.append_nil]

theorem Handles.trans (h : Handles c w u b b')
    (h' : ∀ (started : List Target) (launched : List (Target × Outcome)), Handles c
      { w with probed := w.probed ++ started.map Target.address }
      { u with stage := u.stage.withBatch b', launched := launched } b' b'') :
    Handles c w u b b'' := by
  obtain ⟨started, launched, hwaiting, hgoes⟩ := h
  obtain ⟨started', launched', hwaiting', hgoes'⟩ := h' started launched
  refine ⟨started ++ started', launched', ?_, hgoes.trans ?_⟩
  · rw [hwaiting, hwaiting', List.append_assoc]
  · simpa using hgoes'

theorem handles_launch (w : World) {t : Target} {rest : List Target} {inFlight : List Flight}
    {answered : List (Target × Outcome)}
    (hbatch : u.stage.batch? = some ⟨t :: rest, inFlight, answered⟩)
    (hroom : inFlight.length < c.width) :
    Handles c w u ⟨t :: rest, inFlight, answered⟩
      ⟨rest, inFlight ++ [w.launch c.probeTimeout t], answered⟩ :=
  ⟨[t], _, rfl, .single (.launch hbatch rfl hroom rfl)⟩

theorem handles_land (w : World) {flight : Flight} {others : List Flight}
    (hbatch : u.stage.batch? = some b)
    (hdue : Batch.firstDue? w.now b.inFlight = some (flight, others)) :
    Handles c w u b
      { b with
        inFlight := others
        answered := b.answered ++ [(flight.target, flight.outcome)] } := by
  obtain ⟨before, after, hflight, rfl, hpast⟩ := Batch.eq_append_of_firstDue? hdue
  have hland : Goes c (w, u) (w, { u with
      stage := u.stage.withBatch
        ⟨b.waiting, before ++ after, b.answered ++ [(flight.target, flight.outcome)]⟩ }) :=
    .land hbatch hflight hpast
  refine ⟨[], u.launched, rfl, ?_⟩
  rw [List.map_nil, List.append_nil]
  exact .single hland

/-- Filling a batch up is launching probes one after the other. -/
theorem handles_refill (w : World) (hbatch : u.stage.batch? = some b) :
    Handles c w u b (b.refill (w.launch c.probeTimeout) c.width) := by
  obtain ⟨waiting, inFlight, answered⟩ := b
  induction waiting generalizing w u inFlight with
  | nil =>
      rw [Batch.refill_of_waiting_eq_nil rfl]
      exact handles_refl c w hbatch
  | cons t rest ih =>
      by_cases hroom : inFlight.length < c.width
      · have hone : c.width - inFlight.length = c.width - (inFlight.length + 1) + 1 := by omega
        have hrefill :
            Batch.refill (w.launch c.probeTimeout) c.width ⟨t :: rest, inFlight, answered⟩ =
              Batch.refill (w.launch c.probeTimeout) c.width
                ⟨rest, inFlight ++ [w.launch c.probeTimeout t], answered⟩ := by
          simp [Batch.refill, hone]
        rw [hrefill]
        refine (handles_launch w hbatch hroom).trans fun started launched => ?_
        exact ih _ _ (CycleStage.batch?_withBatch hbatch _)
      · have hnone : c.width - inFlight.length = 0 := by omega
        have hrefill :
            Batch.refill (w.launch c.probeTimeout) c.width ⟨t :: rest, inFlight, answered⟩ =
              ⟨t :: rest, inFlight, answered⟩ := by
          simp [Batch.refill, hnone]
        rw [hrefill]
        exact handles_refl c w hbatch

theorem handles_pollFrom (w : World) (fuel : Nat) (hbatch : u.stage.batch? = some b) :
    Handles c w u b (b.pollFrom (w.launch c.probeTimeout) c.width w.now fuel) := by
  induction fuel generalizing w u b with
  | zero => exact handles_refl c w hbatch
  | succ fuel ih =>
      refine (handles_refill w hbatch).trans fun started launched => ?_
      have hrefilled := CycleStage.batch?_withBatch hbatch
        (b.refill (w.launch c.probeTimeout) c.width)
      simp only [Batch.pollFrom]
      cases hdue : Batch.firstDue? w.now (b.refill (w.launch c.probeTimeout) c.width).inFlight with
      | none => exact handles_refl c _ hrefilled
      | some found =>
          obtain ⟨flight, others⟩ := found
          refine Handles.trans (handles_land _ ?_ hdue) fun started' launched' => ?_
          · exact hrefilled
          · exact ih _ (CycleStage.batch?_withBatch hrefilled _)

/-- A poll of a batch is made of launches and landings. -/
theorem exists_goes_pollBatch (w : World) (hbatch : u.stage.batch? = some b) :
    ∃ launched, Relation.ReflTransGen (Goes c) (w, u)
      ((w.pollBatch c b).1,
        { u with stage := u.stage.withBatch (w.pollBatch c b).2, launched := launched }) := by
  obtain ⟨started, launched, hwaiting, hgoes⟩ :=
    handles_pollFrom (c := c) w (b.remaining + 1) hbatch
  have hstarted : b.started (w.pollBatch c b).2 = started := by
    show b.waiting.take (b.waiting.length - (w.pollBatch c b).2.waiting.length) = started
    rw [hwaiting, List.length_append]
    exact List.take_left' (Nat.add_sub_cancel _ _).symm
  refine ⟨launched, ?_⟩
  rw [← hstarted] at hgoes
  exact hgoes

/-- Where a poll leaves the world and a cycle: some steps further, or at its end. -/
inductive Gets (c : MonitorConfig) (w : World) (u : Underway) : World × CycleStage → Prop
  | waits {w' : World} {u' : Underway} (hgoes : Relation.ReflTransGen (Goes c) (w, u) (w', u')) :
      Gets c w u (w', u'.stage)
  | ends {w₁ w' : World} {u₁ : Underway} {report report' : CycleReport} {b : Batch}
      (hgoes : Relation.ReflTransGen (Goes c) (w, u) (w₁, u₁))
      (hstage : u₁.stage = .seeds report b) (hfinished : b.isFinished = true)
      (hcompletes : Moment.Completes c u.ticket w₁ report b.answered w' report') :
      Gets c w u (w', .finished report')

theorem ticket_eq_of_goes (h : Relation.ReflTransGen (Goes c) (w, u) (w', u')) :
    u'.ticket = u.ticket := by
  generalize hafter : (w', u') = after at h
  induction h generalizing w' u' with
  | refl =>
      cases hafter
      rfl
  | @tail middle _ _ hgoes ih =>
      obtain ⟨w₁, u₁⟩ := middle
      subst hafter
      exact hgoes.frame.2.2.trans (ih rfl)

theorem Gets.head {w₁ : World} {u₁ : Underway} {after : World × CycleStage}
    (hgoes : Relation.ReflTransGen (Goes c) (w, u) (w₁, u₁)) (h : Gets c w₁ u₁ after) :
    Gets c w u after := by
  cases h with
  | waits hrest => exact .waits (hgoes.trans hrest)
  | ends hrest hstage hfinished hcompletes =>
      rw [ticket_eq_of_goes hgoes] at hcompletes
      exact .ends (hgoes.trans hrest) hstage hfinished hcompletes

theorem gets_pollSeeds (w : World) {report : CycleReport} (hstage : u.stage = .seeds report b) :
    Gets c w u (CycleRun.pollSeeds c u.ticket w report b) := by
  have hbatch : u.stage.batch? = some b := by
    rw [hstage]
    rfl
  obtain ⟨launched, hgoes⟩ := exists_goes_pollBatch (c := c) w hbatch
  simp only [hstage, CycleStage.withBatch] at hgoes
  simp only [CycleRun.pollSeeds]
  split
  · next hfinished => exact .ends hgoes rfl hfinished rfl
  · exact .waits hgoes

theorem gets_pollPeers (w : World) {report : CycleReport} (hstage : u.stage = .peers report b) :
    Gets c w u (CycleRun.pollPeers c u.ticket w report b) := by
  have hbatch : u.stage.batch? = some b := by
    rw [hstage]
    rfl
  obtain ⟨launched, hgoes⟩ := exists_goes_pollBatch (c := c) w hbatch
  simp only [hstage, CycleStage.withBatch] at hgoes
  simp only [CycleRun.pollPeers]
  split
  · next hfinished =>
      have happly := hgoes.tail (.apply rfl hfinished rfl)
      exact .head happly (gets_pollSeeds _ rfl)
  · exact .waits hgoes

theorem gets_pollThisNode (w : World) {address : Address} {due : Duration} {answer : Capability}
    (hstage : u.stage = .thisNode due answer) (haddress : c.localAddress = some address) :
    Gets c w u (CycleRun.pollThisNode c u.ticket w address due answer) := by
  simp only [CycleRun.pollThisNode]
  split
  · next hdue =>
      exact .head (.single (.refresh hstage haddress hdue rfl rfl)) (gets_pollPeers _ rfl)
  · rw [← hstage]
    exact .waits .refl

theorem gets_enter (w : World) (hstage : u.stage = .lock)
    (hholds : w.lock.holder = some u.ticket) : Gets c w u (CycleRun.enter c u.ticket w) := by
  unfold CycleRun.enter
  cases haddress : c.localAddress with
  | none => exact .head (.single (.read hstage hholds haddress rfl)) (gets_pollPeers w rfl)
  | some address =>
      exact .head (.single (.ask hstage hholds haddress rfl)) (gets_pollThisNode w rfl haddress)

/-- A poll takes a cycle that stands from moment to moment. -/
theorem Stands.gets_pollStage (h : u.Stands c w) :
    Gets c w u (CycleRun.pollStage c u.ticket w u.stage) := by
  cases hstage : u.stage with
  | finished report => exact absurd hstage (h.unfinished report)
  | lock =>
      simp only [CycleRun.pollStage]
      split
      · next hholds => exact gets_enter w hstage hholds
      · rw [← hstage]
        exact .waits .refl
  | thisNode due answer =>
      obtain ⟨address, haddress⟩ := Option.isSome_iff_exists.1 (h.asks due answer hstage)
      simp only [CycleRun.pollStage, haddress]
      exact gets_pollThisNode w hstage haddress
  | peers report b => exact gets_pollPeers w hstage
  | seeds report b => exact gets_pollSeeds w hstage

end Underway

/-! ## Polling a task -/

namespace Moment

variable {c : MonitorConfig} {w w₁ w' : World} {runs runs₁ runs' : List CycleRun}
  {new new' : List CycleReport}

theorem Sound.of_reflTransGen {m m' : Moment} (h : m.Sound c)
    (hnext : Relation.ReflTransGen (Next c) m m') : m'.Sound c := by
  induction hnext with
  | refl => exact h
  | tail _ hlast ih => exact ih.next hlast

/-- Among other cycles, some cycles come from one world to another: they are there as runs before
and after, and those that end meanwhile leave new reports. -/
def Passes (c : MonitorConfig) (w : World) (runs : List CycleRun) (w' : World)
    (runs' : List CycleRun) (new : List CycleReport) : Prop :=
  ∀ (before after underway : List Underway) (reports : List CycleReport),
    underway.map Underway.run = runs →
    Sound c ⟨w, before ++ (underway ++ after), reports⟩ →
    ∃ underway' : List Underway, underway'.map Underway.run = runs' ∧
      Relation.ReflTransGen (Next c) ⟨w, before ++ (underway ++ after), reports⟩
        ⟨w', before ++ (underway' ++ after), reports ++ new⟩

theorem passes_refl (c : MonitorConfig) (w : World) (runs : List CycleRun) :
    Passes c w runs w runs [] := by
  intro before after underway reports hruns hsound
  refine ⟨underway, hruns, ?_⟩
  rw [List.append_nil]

theorem Passes.trans (h : Passes c w runs w₁ runs₁ new) (h' : Passes c w₁ runs₁ w' runs' new') :
    Passes c w runs w' runs' (new ++ new') := by
  intro before after underway reports hruns hsound
  obtain ⟨underway₁, hruns₁, hnext⟩ := h before after underway reports hruns hsound
  obtain ⟨underway', hruns', hnext'⟩ :=
    h' before after underway₁ (reports ++ new) hruns₁ (hsound.of_reflTransGen hnext)
  refine ⟨underway', hruns', ?_⟩
  rw [← List.append_assoc reports new new']
  exact hnext.trans hnext'

theorem passes_start (c : MonitorConfig) (w : World) :
    Passes c w [] (CycleRun.start w).1 [(CycleRun.start w).2] [] := by
  intro before after underway reports hruns hsound
  obtain rfl : underway = [] := List.map_eq_nil_iff.1 hruns
  refine ⟨[.asking w.lock.request.1], rfl, ?_⟩
  rw [List.append_nil]
  exact .single .begin

theorem report?_run {u : Underway} (h : u.Stands c w) : u.run.report? = none := by
  unfold CycleRun.report?
  cases hstage : u.run.stage with
  | finished report => exact absurd hstage (h.unfinished report)
  | lock | thisNode | peers | seeds => rfl

theorem passes_cancel (c : MonitorConfig) (w : World) (r : CycleRun) :
    Passes c w [r] (r.cancel w) [] [] := by
  intro before after underway reports hruns hsound
  obtain ⟨u, rfl, rfl⟩ := List.map_eq_singleton_iff.1 hruns
  have hwaits := report?_run (hsound.turns.stands u (by simp))
  refine ⟨[], rfl, ?_⟩
  rw [List.append_nil, CycleRun.cancel_of_waits hwaits]
  exact .single .giveUp

/-- The steps of one cycle, among others. -/
theorem next_of_goes {u u' : Underway} (before after : List Underway) (reports : List CycleReport)
    (hgoes : Relation.ReflTransGen (Underway.Goes c) (w, u) (w', u')) :
    Relation.ReflTransGen (Next c) ⟨w, before ++ u :: after, reports⟩
      ⟨w', before ++ u' :: after, reports⟩ :=
  hgoes.lift (fun p : World × Underway => Moment.mk p.1 (before ++ p.2 :: after) reports)
    fun _ _ hstep => .go hstep

theorem poll_run (c : MonitorConfig) (w : World) (u : Underway) :
    u.run.poll c w =
      let after := CycleRun.pollStage c u.ticket w u.stage
      (after.1, ⟨u.ticket, after.2⟩) := rfl

/-- A cycle that is polled is there afterwards, unless it is completed. -/
theorem passes_poll_of_waits {r : CycleRun} (hwaits : (r.poll c w).2.report? = none) :
    Passes c w [r] (r.poll c w).1 [(r.poll c w).2] [] := by
  intro before after underway reports hruns hsound
  obtain ⟨u, rfl, rfl⟩ := List.map_eq_singleton_iff.1 hruns
  have hgets := (hsound.turns.stands u (by simp)).gets_pollStage
  rw [poll_run] at hwaits ⊢
  generalize CycleRun.pollStage c u.ticket w u.stage = polled at hgets hwaits
  cases hgets with
  | ends => cases hwaits
  | @waits w' u' hgoes =>
      have hticket := Underway.ticket_eq_of_goes hgoes
      refine ⟨[u'], ?_, ?_⟩
      · rw [List.map_singleton, Underway.run, hticket]
      · rw [List.append_nil]
        exact next_of_goes before after reports hgoes

theorem passes_poll_of_report {r : CycleRun} {report : CycleReport}
    (hreport : (r.poll c w).2.report? = some report) :
    Passes c w [r] (r.poll c w).1 [] [report] := by
  intro before after underway reports hruns hsound
  obtain ⟨u, rfl, rfl⟩ := List.map_eq_singleton_iff.1 hruns
  have hgets := (hsound.turns.stands u (by simp)).gets_pollStage
  rw [poll_run] at hreport ⊢
  generalize CycleRun.pollStage c u.ticket w u.stage = polled at hgets hreport
  cases hgets with
  | @waits w' u' hgoes =>
      have hnext := next_of_goes before after reports hgoes
      have hrun := report?_run ((hsound.of_reflTransGen hnext).turns.stands u' (by simp))
      have hsame : u'.run.report? = some report := hreport
      rw [hrun] at hsame
      cases hsame
  | ends hgoes hstage hfinished hcompletes =>
      cases hreport
      have hticket := Underway.ticket_eq_of_goes hgoes
      rw [← hticket] at hcompletes
      exact ⟨[], rfl, (next_of_goes before after reports hgoes).tail
        (.complete hstage hfinished hcompletes)⟩

/-- A loop that is polled starts, polls and gives up cycles, one at a time. -/
theorem exists_passes_pollFrom (c : MonitorConfig) (fuel : Nat) (w : World) (l : Loop) :
    ∃ new, Passes c w l.run.toList (l.pollFrom c fuel w).1
      (l.pollFrom c fuel w).2.run.toList new := by
  induction fuel generalizing w l with
  | zero => exact ⟨[], passes_refl c w _⟩
  | succ fuel ih =>
      obtain ⟨nextTick, run?, stopping, finished⟩ := l
      simp only [Loop.pollFrom]
      -- The loop has ended, or it was told to stop.
      split
      · exact ⟨[], passes_refl c w _⟩
      split
      · cases run? with
        | none => exact ⟨[], passes_refl c w _⟩
        | some r => exact ⟨[], passes_cancel c w r⟩
      cases run? with
      | some r =>
          cases hreport : (r.poll c w).2.report? with
          | none =>
              simp only [hreport]
              exact ⟨[], passes_poll_of_waits hreport⟩
          | some report =>
              obtain ⟨new, hrest⟩ := ih (r.poll c w).1 ⟨nextTick, none, stopping, finished⟩
              simp only [hreport]
              exact ⟨[report] ++ new, (passes_poll_of_report hreport).trans hrest⟩
      | none =>
          simp only
          -- There is no time between ticks, or a tick is due, or none is.
          split
          · exact ⟨[], passes_refl c w _⟩
          split
          · let next := Loop.tickAfter c.interval w.now (nextTick.getD w.now)
            obtain ⟨new, hrest⟩ := ih (CycleRun.start w).1
              ⟨some next, some (CycleRun.start w).2, stopping, finished⟩
            exact ⟨[] ++ new, (passes_start c w).trans hrest⟩
          · exact ⟨[], passes_refl c w _⟩

/-- A task that is polled has another report only if it completed a cycle. -/
theorem exists_passes_poll (c : MonitorConfig) (w : World) (t : Task) :
    ∃ new own, own.Sublist new ∧ (t.poll c w).2.report?.toList = t.report?.toList ++ own ∧
      Passes c w t.run?.toList (t.poll c w).1 (t.poll c w).2.run?.toList new := by
  cases t with
  | ended report => exact ⟨[], [], .refl _, (List.append_nil _).symm, passes_refl c w []⟩
  | loop l =>
      obtain ⟨new, hpasses⟩ :=
        exists_passes_pollFrom c (2 * Loop.rounds c.interval w.now l.nextTick) w l
      rw [← Loop.poll] at hpasses
      rw [Task.poll_loop, Prod.map_fst, Prod.map_snd, id_eq, Task.run?_loop, Task.run?_loop,
        Task.report?_loop, Task.report?_loop]
      exact ⟨new, [], List.nil_sublist new, (List.append_nil _).symm, hpasses⟩
  | single r =>
      simp only [Task.poll]
      cases hreport : (r.poll c w).2.report? with
      | none => exact ⟨[], [], .refl _, rfl, passes_poll_of_waits hreport⟩
      | some report => exact ⟨[report], [report], .refl _, rfl, passes_poll_of_report hreport⟩
  | forced f =>
      simp only [Task.poll, ForcedCycle.poll]
      cases hreport : (f.run.poll c w).2.report? with
      | some report => exact ⟨[report], [report], .refl _, rfl, passes_poll_of_report hreport⟩
      | none =>
          have hpoll := passes_poll_of_waits hreport
          by_cases hdeadline : f.deadline ≤ (f.run.poll c w).1.now
          · simp only [if_pos hdeadline]
            exact ⟨[] ++ [], [], .refl _, rfl, hpoll.trans (passes_cancel c _ _)⟩
          · simp only [if_neg hdeadline]
            exact ⟨[], [], .refl _, rfl, hpoll⟩

theorem passes_giveUp (c : MonitorConfig) (w : World) (t : Task) :
    Passes c w t.run?.toList (t.giveUp w) [] [] := by
  unfold Task.giveUp
  cases t.run? with
  | none => exact passes_refl c w []
  | some r => exact passes_cancel c w r

/-- A moment in which some tasks are: the cycles under way are those of the tasks, and the reports
that tasks have got are among those of the completed cycles, each for one task. -/
structure Shows (m : Moment) (s : Crew) : Prop where
  world : m.world = s.world
  underway : m.underway.map Underway.run = s.tasks.filterMap Task.run?
  reports : (s.tasks.filterMap Task.report?).Subperm m.reports

variable {m : Moment} {own : List CycleReport} {pre post tasks : List Task} {t : Task}

/-- Some tasks go on among others. -/
theorem Shows.replace (tasks' : List Task) (hshows : m.Shows ⟨w, pre ++ (tasks ++ post)⟩)
    (hsound : m.Sound c)
    (hpasses : Passes c w (tasks.filterMap Task.run?) w' (tasks'.filterMap Task.run?) new)
    (hown : own.Sublist new)
    (hreports : tasks'.filterMap Task.report? = tasks.filterMap Task.report? ++ own) :
    ∃ m', Relation.ReflTransGen (Next c) m m' ∧ m'.Shows ⟨w', pre ++ (tasks' ++ post)⟩ := by
  obtain ⟨world, underway, reports⟩ := m
  obtain rfl : world = w := hshows.world
  have hruns := hshows.underway
  rw [List.filterMap_append, List.filterMap_append] at hruns
  obtain ⟨before, others, rfl, hbefore, hothers⟩ := List.map_eq_append_iff.1 hruns
  obtain ⟨among, after, rfl, hamong, hafter⟩ := List.map_eq_append_iff.1 hothers
  obtain ⟨among', hamong', hnext⟩ := hpasses before after among reports hamong hsound
  refine ⟨_, hnext, rfl, ?_, ?_⟩
  · rw [List.map_append, List.map_append, hbefore, hamong', hafter, List.filterMap_append,
      List.filterMap_append]
  · have hperm : ((pre ++ (tasks' ++ post)).filterMap Task.report?).Perm
        ((pre ++ (tasks ++ post)).filterMap Task.report? ++ own) := by
      simp only [List.filterMap_append, hreports, List.append_assoc]
      exact (List.perm_append_comm.append_left _).append_left _
    exact hperm.subperm.trans (hshows.reports.append hown.subperm)

theorem filterMap_singleton {β : Type} (f : Task → Option β) (t : Task) :
    [t].filterMap f = (f t).toList := by
  cases h : f t <;> simp [h]

/-- One task more. -/
theorem Shows.concat (hshows : m.Shows ⟨w, tasks⟩) (hsound : m.Sound c)
    (hpasses : Passes c w [] w' t.run?.toList []) (hnone : t.report? = none) :
    ∃ m', Relation.ReflTransGen (Next c) m m' ∧ m'.Shows ⟨w', tasks ++ [t]⟩ := by
  have hsame : m.Shows ⟨w, tasks ++ ([] ++ [])⟩ := by
    rwa [List.append_nil, List.append_nil]
  rw [← filterMap_singleton] at hpasses
  refine hsame.replace [t] hsound hpasses (.refl []) ?_
  rw [filterMap_singleton, hnone]
  rfl

/-- One task goes on. -/
theorem Shows.set {s : Crew} {place : Nat} (t' : Task) (hshows : m.Shows s) (hsound : m.Sound c)
    (ht : s.tasks[place]? = some t)
    (hpasses : Passes c s.world t.run?.toList w' t'.run?.toList new) (hown : own.Sublist new)
    (hreports : t'.report?.toList = t.report?.toList ++ own) :
    ∃ m', Relation.ReflTransGen (Next c) m m' ∧ m'.Shows ⟨w', s.tasks.set place t'⟩ := by
  obtain ⟨hlt, htask⟩ := List.getElem?_eq_some_iff.1 ht
  have hsplits : ∃ pre post, s.tasks = pre ++ s.tasks[place] :: post ∧ pre.length = place ∧
      s.tasks.set place t' = pre ++ t' :: post := List.exists_of_set hlt
  obtain ⟨pre, post, hsplit, -, hset⟩ := hsplits
  rw [htask] at hsplit
  have hsame : m.Shows ⟨s.world, pre ++ ([t] ++ post)⟩ := by
    rw [List.singleton_append, ← hsplit]
    exact hshows
  rw [hset]
  rw [← filterMap_singleton, ← filterMap_singleton] at hpasses hreports
  exact hsame.replace [t'] hsound hpasses hown hreports

theorem filterMap_modify_stop {β : Type} {f : Task → Option β} (hstop : ∀ t : Task, f t.stop = f t)
    (tasks : List Task) (place : Nat) :
    (tasks.modify place Task.stop).filterMap f = tasks.filterMap f := by
  induction tasks generalizing place with
  | nil => cases place <;> rfl
  | cons head rest ih =>
      cases place with
      | zero => simp [List.filterMap_cons, hstop]
      | succ place => simp [List.filterMap_cons, ih]

/-- A move of the tasks leads from moment to moment. -/
theorem Shows.step {s : Crew} (hshows : m.Shows s) (hsound : m.Sound c) (move : Crew.Move) :
    ∃ m', Relation.ReflTransGen (Next c) m m' ∧ m'.Shows (s.step c move) := by
  cases move with
  | call => exact hshows.concat hsound (passes_start c s.world) rfl
  | force => exact hshows.concat hsound (passes_start c s.world) rfl
  | spawn => exact hshows.concat hsound (passes_refl c s.world []) rfl
  | beside w =>
      obtain ⟨world, underway, reports⟩ := m
      obtain rfl : world = s.world := hshows.world
      exact ⟨⟨(s.step c (.beside w)).world, underway, reports⟩, .single (.beside rfl rfl), rfl,
        hshows.underway, hshows.reports⟩
  | stop place =>
      have hrun : ∀ t : Task, t.stop.run? = t.run? := fun t => by cases t <;> rfl
      have hreport : ∀ t : Task, t.stop.report? = t.report? := fun t => by cases t <;> rfl
      refine ⟨m, .refl, hshows.world, ?_, ?_⟩
      · exact hshows.underway.trans (filterMap_modify_stop hrun s.tasks place).symm
      · simp only [Crew.step, filterMap_modify_stop hreport]
        exact hshows.reports
  | poll place =>
      simp only [Crew.step]
      cases ht : s.tasks[place]? with
      | none => exact ⟨m, .refl, hshows⟩
      | some t =>
          obtain ⟨new, own, hown, hreports, hpasses⟩ := exists_passes_poll c s.world t
          exact hshows.set _ hsound ht hpasses hown hreports
  | drop place =>
      simp only [Crew.step]
      cases ht : s.tasks[place]? with
      | none => exact ⟨m, .refl, hshows⟩
      | some t =>
          have hpasses := passes_giveUp c s.world t
          cases t with
          | ended report => exact ⟨m, .refl, hshows⟩
          | single | forced | loop =>
              exact hshows.set (.ended none) hsound ht hpasses (.refl []) rfl

theorem shows_start (w : World) : (start w).Shows (Crew.start w) := ⟨rfl, rfl, .refl []⟩

/-- A run of the tasks leads from moment to moment. -/
theorem Shows.run {s : Crew} (hshows : m.Shows s) (hsound : m.Sound c) (moves : List Crew.Move) :
    ∃ m', Relation.ReflTransGen (Next c) m m' ∧ m'.Shows (s.run c moves) := by
  induction moves using List.reverseRecOn with
  | nil => exact ⟨m, .refl, hshows⟩
  | append_singleton moves move ih =>
      obtain ⟨m₁, hnext, hshows₁⟩ := ih
      obtain ⟨m', hlast, hshows'⟩ := hshows₁.step (hsound.of_reflTransGen hnext) move
      rw [Crew.run_concat]
      exact ⟨m', hnext.trans hlast, hshows'⟩

/-- Cycles take turns. In every moment of a monitor, within polls and between them, one cycle at
most has taken the lock, and that one holds it; the reports of the completed cycles, in the order of
their completion, have the numbers from 1 on, and as many are counted, in 64 bits; no more remote
probes are in flight than there may be, and one at least may; and of the targets of a batch each is
launched once, in order, what was launched is in flight or answered, and a finished batch has just
one answer for each target, that of its own probe. Whatever the tasks of the monitor do, from any
point on, is a way through such moments. -/
theorem cycles_take_turns (c : MonitorConfig) (w : World) :
    (∀ m, Comes c w m →
      (m.underway.filter Underway.isInside).length ≤ 1 ∧
      (∀ u ∈ m.underway, u.isInside = true → m.world.lock.holder = some u.ticket) ∧
      m.reports.map CycleReport.cycle = (List.range' 1 m.reports.length).map UInt64.ofNat ∧
      m.world.fleet.completed = UInt64.ofNat m.reports.length ∧
      m.inFlight.length ≤ max 1 c.maxConcurrent ∧
      ∀ u ∈ m.underway, ∀ b, u.stage.batch? = some b →
        u.launched.map Prod.fst ++ b.waiting = u.asked ∧ b.outcomes.Perm u.launched ∧
        (b.isFinished = true →
          u.launched.map Prod.fst = u.asked ∧ b.answered.Perm u.launched)) ∧
    (start w).Shows (Crew.start w) ∧
    ∀ m s, Comes c w m → m.Shows s → ∀ moves : List Crew.Move,
      ∃ m', Relation.ReflTransGen (Next c) m m' ∧ m'.Shows (s.run c moves) := by
  refine ⟨fun m hcomes => ?_, shows_start w,
    fun m s hcomes hshows moves => hshows.run hcomes.sound moves⟩
  obtain ⟨hturns, hcounts⟩ := hcomes.sound
  refine ⟨hturns.length_inside_le, fun u hu => (hturns.stands u hu).holds, hcounts.numbered,
    hcounts.completed, hturns.length_inFlight_le, fun u hu b hbatch => ?_⟩
  have haccounts := (hturns.stands u hu).accounts b hbatch
  exact ⟨haccounts.asked, haccounts.outcomes, haccounts.of_isFinished⟩

/-- Settings with no room for probes, under which a forced cycle is not waited for. -/
def narrow : MonitorConfig := { CycleRun.impatient with maxConcurrent := 0 }

/-- One cycle comes to wait for the seed, one for the lock, and one is given up. -/
def crowding : List Crew.Move := [.call, .call, .force, .poll 0, .poll 1, .poll 2]

/-- The tasks then. -/
def crowded : Crew := (Crew.start CycleRun.awaitingSeed).run narrow crowding

/-- The seed answers, and from then on everyone answers at once. -/
def clearing : List Crew.Move :=
  let network : Network := ⟨fun _ _ _ => ⟨0, Traffic.nodeAnswer⟩, fun _ => ⟨0, .unseen⟩⟩
  [.beside { crowded.world with now := .ofSeconds 1, network := network }, .poll 0, .poll 1]

theorem cycles_take_turns_crowded :
    ∃ m m', Comes narrow CycleRun.awaitingSeed m ∧ m.Shows crowded ∧
      Relation.ReflTransGen (Next narrow) m m' ∧ m'.Shows (crowded.run narrow clearing) ∧
      (m.underway.filter Underway.isInside).length ≤ 1 ∧ m.inFlight.length ≤ 1 ∧
      (m.reports.length < UInt64.size → m.reports = []) ∧
      (m'.reports.length < UInt64.size → m'.reports.map CycleReport.cycle = [1, 2]) := by
  obtain ⟨hmoments, hstart, hruns⟩ := cycles_take_turns narrow CycleRun.awaitingSeed
  obtain ⟨m, hcomes, hshows⟩ := hruns _ _ .refl hstart crowding
  obtain ⟨m', hnext, hshows'⟩ := hruns m crowded hcomes hshows clearing
  obtain ⟨hinside, -, -, hnone, hflight, -⟩ := hmoments m hcomes
  obtain ⟨-, -, hnumbered, htwo, -, -⟩ := hmoments m' (hcomes.trans hnext)
  have hzero : crowded.world.fleet.completed = 0 := by decide +kernel
  have hboth : (crowded.run narrow clearing).world.fleet.completed = 2 := by decide +kernel
  rw [hshows.world, ← crowded, hzero] at hnone
  rw [hshows'.world, hboth] at htwo
  refine ⟨m, m', hcomes, hshows, hnext, hshows', hinside, hflight, fun hfew => ?_, fun hfew => ?_⟩
  · rw [← List.length_eq_zero_iff, ← UInt64.toNat_ofNat_of_lt' hfew, ← hnone]
    rfl
  · have hlength : m'.reports.length = 2 := by
      rw [← UInt64.toNat_ofNat_of_lt' hfew, ← htwo]
      rfl
    rw [hnumbered, hlength]
    rfl

end Moment

end InferenceFleet
