import InferenceFleet.Proofs.Monitor.Batch
import InferenceFleet.Proofs.Monitor.Outcomes
import InferenceFleet.Proofs.Timeline.Turns
import InferenceFleet.Timeline.CycleRun
import Mathlib.Logic.Relation

/-!
# Cycles moment by moment

A poll may take a cycle through many steps, and between two of them there is a moment in which the
cycle holds the lock and has probes in flight. Here the polls are taken apart: a cycle that is under
way launches one probe, lets one end, or goes on to what comes next, any other cycle may do so in
between, and the probes that a batch launched are written down.

What holds in all moments comes from one invariant for the lock and the batches
(`TakesTurns.of_next`) and one for the numbers of the reports (`Counts.of_next`): a cycle beyond the
lock holds it, so there is one at most, and a number is taken by the step that ends a cycle.
-/

namespace InferenceFleet

namespace CycleStage

/-- The batch that a stage waits for. -/
def batch? : CycleStage → Option Batch
  | peers _ b => some b
  | seeds _ b => some b
  | lock => none
  | thisNode _ _ => none
  | finished _ => none

/-- A stage that waits for a batch, with another one. -/
def withBatch (b : Batch) : CycleStage → CycleStage
  | peers report _ => peers report b
  | seeds report _ => seeds report b
  | stage => stage

theorem batch?_withBatch {stage : CycleStage} {b : Batch} (hbatch : stage.batch? = some b)
    (b' : Batch) : (stage.withBatch b').batch? = some b' := by
  cases stage with
  | peers | seeds => rfl
  | lock | thisNode | finished => cases hbatch

end CycleStage

/-- A cycle that is under way. -/
structure Underway where
  ticket : Nat
  stage : CycleStage
  /-- The targets of the batch that it waits for. -/
  asked : List Target
  /-- The probes of this batch that were launched, each with what it brings. -/
  launched : List (Target × Outcome)

namespace Underway

/-- A cycle that has asked for the lock. -/
def asking (ticket : Nat) : Underway := ⟨ticket, .lock, [], []⟩

/-- A cycle that goes on to a batch of targets. -/
def probing (u : Underway) (targets : List Target) (stage : Batch → CycleStage) : Underway :=
  { u with stage := stage (.new targets), asked := targets, launched := [] }

/-- Whether a cycle has taken the lock. -/
def isInside (u : Underway) : Bool :=
  match u.stage with
  | .lock => false
  | _ => true

/-- The remote probes that a cycle has in flight. -/
def inFlight (u : Underway) : List Flight :=
  match u.stage.batch? with
  | some b => b.inFlight
  | none => []

/-- A step of a cycle that does not end it, with the world in which it is made. -/
inductive Goes (c : MonitorConfig) : World × Underway → World × Underway → Prop
  | ask {w : World} {u : Underway} {address : Address} {plan : Plan Capability}
      (hstage : u.stage = .lock) (hholds : w.lock.holder = some u.ticket)
      (haddress : c.localAddress = some address)
      (hplan : w.network.thisNode w.fleet.clock.now.wall = plan) :
      Goes c (w, u) (w, { u with stage := .thisNode (w.now + plan.delay) plan.result })
  /-- The registered peers are read, where this node is not asked. -/
  | read {w : World} {u : Underway} {targets : List Target} (hstage : u.stage = .lock)
      (hholds : w.lock.holder = some u.ticket) (haddress : c.localAddress = none)
      (htargets : Cycle.targets w.fleet = targets) :
      Goes c (w, u)
        (w, u.probing targets (.peers { CycleReport.zero with probed := targets.length }))
  /-- The entry of this node is refreshed, and the registered peers are read. -/
  | refresh {w : World} {u : Underway} {address : Address} {due : Duration} {answer : Capability}
      {fleet : Fleet} {targets : List Target}
      (hstage : u.stage = .thisNode due answer) (haddress : c.localAddress = some address)
      (hdue : due ≤ w.now) (hfleet : Cycle.applyLocal w.fleet address answer = fleet)
      (htargets : Cycle.targets fleet = targets) :
      Goes c (w, u)
        ({ w with fleet := fleet },
          u.probing targets (.peers { Cycle.localReport answer with probed := targets.length }))
  /-- A probe starts. -/
  | launch {w : World} {u : Underway} {b : Batch} {t : Target} {rest : List Target}
      {flight : Flight} (hbatch : u.stage.batch? = some b) (hwaiting : b.waiting = t :: rest)
      (hroom : b.inFlight.length < c.width) (hflight : w.launch c.probeTimeout t = flight) :
      Goes c (w, u)
        ({ w with probed := w.probed ++ [t.address] },
          { u with
            stage := u.stage.withBatch ⟨rest, b.inFlight ++ [flight], b.answered⟩
            launched := u.launched ++ [(t, flight.outcome)] })
  /-- A probe ends. -/
  | land {w : World} {u : Underway} {b : Batch} {flight : Flight} {before after : List Flight}
      (hbatch : u.stage.batch? = some b) (hflight : b.inFlight = before ++ flight :: after)
      (hdue : flight.due ≤ w.now) :
      Goes c (w, u)
        (w, { u with
          stage := u.stage.withBatch
            ⟨b.waiting, before ++ after, b.answered ++ [(flight.target, flight.outcome)]⟩ })
  /-- What the registered peers answered is applied, and the seeds are read. -/
  | apply {w : World} {u : Underway} {report report' : CycleReport} {b : Batch} {fleet : Fleet}
      (hstage : u.stage = .peers report b) (hfinished : b.isFinished = true)
      (happlied : Cycle.applyOutcomes w.fleet report b.answered = (fleet, report')) :
      Goes c (w, u)
        ({ w with fleet := fleet },
          u.probing (Cycle.candidates fleet c.seeds) (.seeds report'))

end Underway

/-- The cycles of a monitor at a moment. -/
structure Moment where
  world : World
  underway : List Underway
  /-- The reports of the cycles that were completed, in the order in which they were. -/
  reports : List CycleReport

namespace Moment

/-- A monitor that has run no cycle. -/
def start (w : World) : Moment :=
  ⟨{ w with lock := .free, fleet := { w.fleet with completed := 0 } }, [], []⟩

/-- The remote probes that the monitor has in flight. -/
def inFlight (m : Moment) : List Flight := m.underway.flatMap Underway.inFlight

/-- The end of a cycle: what the seeds answered is applied, the cycle is saved, counted and
reported, and the lock is given up. -/
def Completes (c : MonitorConfig) (ticket : Nat) (w : World) (report : CycleReport)
    (results : List (Target × Outcome)) (w' : World) (report' : CycleReport) : Prop :=
  let applied := Cycle.applySeeds w.fleet report results
  CycleRun.finish c ticket { w with fleet := applied.1 } applied.2 = (w', .finished report')

/-- What comes after a moment. -/
inductive Next (c : MonitorConfig) : Moment → Moment → Prop
  /-- Someone asks for a cycle. -/
  | begin {w : World} {before after : List Underway} {reports : List CycleReport} :
      Next c ⟨w, before ++ after, reports⟩
        ⟨(CycleRun.start w).1, before ++ .asking w.lock.request.1 :: after, reports⟩
  | go {w w' : World} {u u' : Underway} {before after : List Underway}
      {reports : List CycleReport} (hgoes : Underway.Goes c (w, u) (w', u')) :
      Next c ⟨w, before ++ u :: after, reports⟩ ⟨w', before ++ u' :: after, reports⟩
  /-- What the seeds answered is applied, and the cycle is completed. -/
  | complete {w w' : World} {u : Underway} {before after : List Underway}
      {reports : List CycleReport} {report report' : CycleReport} {b : Batch}
      (hstage : u.stage = .seeds report b) (hfinished : b.isFinished = true)
      (hcompletes : Completes c u.ticket w report b.answered w' report') :
      Next c ⟨w, before ++ u :: after, reports⟩ ⟨w', before ++ after, reports ++ [report']⟩
  | giveUp {w : World} {u : Underway} {before after : List Underway}
      {reports : List CycleReport} :
      Next c ⟨w, before ++ u :: after, reports⟩
        ⟨{ w with lock := w.lock.release u.ticket }, before ++ after, reports⟩
  /-- Anything may happen beside the cycles, but for the lock and the number of cycles. -/
  | beside {w w' : World} {underway : List Underway} {reports : List CycleReport}
      (hlock : w'.lock = w.lock) (hcompleted : w'.fleet.completed = w.fleet.completed) :
      Next c ⟨w, underway, reports⟩ ⟨w', underway, reports⟩

/-- A moment that may come, when the monitor starts in a world. -/
def Comes (c : MonitorConfig) (w : World) : Moment → Prop :=
  Relation.ReflTransGen (Next c) (start w)

end Moment

namespace Underway

variable {c : MonitorConfig} {w w' : World} {u u' : Underway} {b : Batch}

/-- What a cycle makes of the targets of its batch: each is launched once and in order, what was
launched is answered or in flight, and no more of it is in flight than there may be. -/
structure Accounts (c : MonitorConfig) (u : Underway) (b : Batch) : Prop where
  asked : u.launched.map Prod.fst ++ b.waiting = u.asked
  outcomes : b.outcomes.Perm u.launched
  room : b.inFlight.length ≤ c.width

theorem accounts_probing (c : MonitorConfig) (u : Underway) (targets : List Target)
    (stage : Batch → CycleStage) : (u.probing targets stage).Accounts c (.new targets) :=
  ⟨rfl, .nil, Nat.zero_le _⟩

/-- Once a batch is finished, there is one answer for each of its targets. -/
theorem Accounts.of_isFinished (h : u.Accounts c b) (hfinished : b.isFinished = true) :
    u.launched.map Prod.fst = u.asked ∧ b.answered.Perm u.launched := by
  obtain ⟨hwaiting, hflight⟩ := Bool.and_eq_true_iff.1 hfinished
  have hasked := h.asked
  have houtcomes := h.outcomes
  rw [List.isEmpty_iff.1 hwaiting, List.append_nil] at hasked
  rw [Batch.outcomes, List.isEmpty_iff.1 hflight, List.map_nil, List.append_nil] at houtcomes
  exact ⟨hasked, houtcomes⟩

/-- What is known of a cycle under way in a world. -/
structure Stands (c : MonitorConfig) (w : World) (u : Underway) : Prop where
  unfinished : ∀ report, u.stage ≠ .finished report
  holds : u.isInside = true → w.lock.holder = some u.ticket
  asks : ∀ due answer, u.stage = .thisNode due answer → c.localAddress.isSome = true
  accounts : ∀ b, u.stage.batch? = some b → u.Accounts c b

theorem stands_asking (c : MonitorConfig) (w : World) (ticket : Nat) :
    (asking ticket).Stands c w where
  unfinished := nofun
  holds := nofun
  asks := nofun
  accounts := nofun

/-- Only who holds the lock matters for a cycle that stands. -/
theorem Stands.of_holder (h : u.Stands c w)
    (hholder : w.lock.holder = some u.ticket → w'.lock.holder = some u.ticket) : u.Stands c w' :=
  ⟨h.unfinished, fun hinside => hholder (h.holds hinside), h.asks, h.accounts⟩

/-- A step does nothing to the lock and counts no cycle. -/
theorem Goes.frame (h : Goes c (w, u) (w', u')) :
    w'.lock = w.lock ∧ w'.fleet.completed = w.fleet.completed ∧ u'.ticket = u.ticket := by
  cases h with
  | ask | read | launch | land => exact ⟨rfl, rfl, rfl⟩
  | refresh hstage haddress hdue hfleet htargets => exact ⟨rfl, hfleet ▸ rfl, rfl⟩
  | @apply _ _ report _ b _ hstage hfinished happlied =>
      have hleaves := Cycle.leaves_applyOutcomes w.fleet report b.answered
      rw [happlied] at hleaves
      exact ⟨rfl, hleaves.completed, rfl⟩

theorem isInside_of_batch? (hbatch : u.stage.batch? = some b) : u.isInside = true := by
  unfold isInside
  cases hstage : u.stage with
  | lock =>
      rw [hstage] at hbatch
      cases hbatch
  | thisNode | peers | seeds | finished => rfl

/-- A cycle that waits for a batch stands if it holds the lock and accounts for the batch. -/
theorem stands_of_batch? (hbatch : u.stage.batch? = some b)
    (hholds : w.lock.holder = some u.ticket) (haccounts : u.Accounts c b) : u.Stands c w where
  unfinished := by
    intro report hstage
    rw [hstage] at hbatch
    cases hbatch
  holds _ := hholds
  asks := by
    intro due answer hstage
    rw [hstage] at hbatch
    cases hbatch
  accounts := by
    intro b' hbatch'
    rw [hbatch] at hbatch'
    cases hbatch'
    exact haccounts

theorem Accounts.launch (h : u.Accounts c b) {t : Target} {rest : List Target}
    (hwaiting : b.waiting = t :: rest) (hroom : b.inFlight.length < c.width)
    (w : World) (stage : CycleStage) :
    let flight := w.launch c.probeTimeout t
    { u with stage := stage, launched := u.launched ++ [(t, flight.outcome)] }.Accounts c
      ⟨rest, b.inFlight ++ [flight], b.answered⟩ where
  asked := by
    have hasked := h.asked
    rw [hwaiting] at hasked
    simpa using hasked
  outcomes := by
    have houtcomes := h.outcomes.append_right [(t, (w.launch c.probeTimeout t).outcome)]
    simpa [Batch.outcomes, World.launch] using houtcomes
  room := by
    rw [List.length_append, List.length_singleton]
    exact hroom

theorem Accounts.land (h : u.Accounts c b) {flight : Flight} {before after : List Flight}
    (hflight : b.inFlight = before ++ flight :: after) (stage : CycleStage) :
    { u with stage := stage }.Accounts c
      ⟨b.waiting, before ++ after, b.answered ++ [(flight.target, flight.outcome)]⟩ where
  asked := h.asked
  outcomes := by
    refine List.Perm.trans ?_ h.outcomes
    simp only [Batch.outcomes, hflight, List.map_append, List.map_cons, List.append_assoc,
      List.singleton_append]
    refine List.Perm.append_left _ ?_
    exact List.perm_middle.symm
  room := by
    have hroom := h.room
    rw [hflight] at hroom
    simp only [List.length_append, List.length_cons] at hroom ⊢
    omega

/-- A step keeps a cycle standing. -/
theorem Stands.goes (h : u.Stands c w) (hgoes : Goes c (w, u) (w', u')) : u'.Stands c w' := by
  cases hgoes with
  | @ask _ _ address plan hstage hholds haddress hplan =>
      refine ⟨nofun, fun _ => hholds, fun _ _ _ => ?_, nofun⟩
      rw [haddress]
      rfl
  | read hstage hholds haddress htargets =>
      exact stands_of_batch? rfl hholds (accounts_probing c u _ _)
  | refresh hstage haddress hdue hfleet htargets =>
      have hinside : u.isInside = true := by
        rw [isInside, hstage]
      exact stands_of_batch? rfl (h.holds hinside) (accounts_probing c u _ _)
  | launch hbatch hwaiting hroom hflight =>
      subst hflight
      exact stands_of_batch? (CycleStage.batch?_withBatch hbatch _)
        (h.holds (isInside_of_batch? hbatch)) ((h.accounts _ hbatch).launch hwaiting hroom w _)
  | land hbatch hflight hdue =>
      exact stands_of_batch? (CycleStage.batch?_withBatch hbatch _)
        (h.holds (isInside_of_batch? hbatch)) ((h.accounts _ hbatch).land hflight _)
  | apply hstage hfinished happlied =>
      have hinside : u.isInside = true := by
        rw [isInside, hstage]
      exact stands_of_batch? rfl (h.holds hinside) (accounts_probing c u _ _)

end Underway

/-! ## All cycles -/

/-- The cycles under way in a world: they are those that have a ticket of the lock, and each of them
stands. -/
structure TakesTurns (c : MonitorConfig) (w : World) (underway : List Underway) : Prop where
  isOrderly : w.lock.IsOrderly
  tickets : (underway.map Underway.ticket).Perm w.lock.tickets
  stands : ∀ u ∈ underway, u.Stands c w

/-- The completed cycles in a world are counted, and their reports are numbered without a gap, as far
as the counter goes. -/
structure Counts (w : World) (reports : List CycleReport) : Prop where
  numbered : reports.map CycleReport.cycle = (List.range' 1 reports.length).map UInt64.ofNat
  completed : w.fleet.completed = UInt64.ofNat reports.length

section TakesTurns

variable {c : MonitorConfig} {w w' : World} {u u' : Underway}
  {before after underway : List Underway}

theorem TakesTurns.nodup (h : TakesTurns c w underway) :
    (underway.map Underway.ticket).Nodup :=
  h.tickets.nodup_iff.2 h.isOrderly.nodup

theorem TakesTurns.of_lock (h : TakesTurns c w underway) (hlock : w'.lock = w.lock) :
    TakesTurns c w' underway :=
  ⟨hlock ▸ h.isOrderly, hlock ▸ h.tickets, fun u hu => (h.stands u hu).of_holder (hlock ▸ id)⟩

/-- Someone asks for a cycle. -/
theorem TakesTurns.begin (h : TakesTurns c w (before ++ after)) :
    TakesTurns c (CycleRun.start w).1 (before ++ .asking w.lock.request.1 :: after) where
  isOrderly := h.isOrderly.request
  tickets := by
    have htickets := h.isOrderly.tickets_request
    have happended := h.tickets.append_right [w.lock.nextTicket]
    rw [← htickets] at happended
    refine List.Perm.trans ?_ happended
    rw [List.map_append, List.map_append, List.map_cons, List.append_assoc]
    refine List.Perm.append_left _ ?_
    exact (List.perm_append_singleton _ _).symm
  stands := by
    have hold : ∀ v ∈ before ++ after, v.Stands c (CycleRun.start w).1 := by
      intro v hv
      refine (h.stands v hv).of_holder fun hholder => ?_
      show w.lock.request.2.holder = some v.ticket
      rw [CycleLock.request, hholder]
    intro v hv
    rcases List.mem_append.1 hv with hbefore | hnew
    · exact hold v (List.mem_append_left _ hbefore)
    · rcases List.mem_cons.1 hnew with rfl | hafter
      · exact Underway.stands_asking c _ _
      · exact hold v (List.mem_append_right _ hafter)

/-- A cycle goes on. -/
theorem TakesTurns.go (h : TakesTurns c w (before ++ u :: after))
    (hgoes : Underway.Goes c (w, u) (w', u')) : TakesTurns c w' (before ++ u' :: after) := by
  obtain ⟨hlock, -, hticket⟩ := hgoes.frame
  have hkept := h.of_lock hlock
  refine ⟨hkept.isOrderly, ?_, ?_⟩
  · have htickets := hkept.tickets
    rw [List.map_append, List.map_cons] at htickets ⊢
    rwa [hticket]
  · intro v hv
    rcases List.mem_append.1 hv with hbefore | hnew
    · exact hkept.stands v (List.mem_append_left _ hbefore)
    · rcases List.mem_cons.1 hnew with rfl | hafter
      · exact (h.stands u (by simp)).goes hgoes
      · exact hkept.stands v (List.mem_append_right _ (List.mem_cons_of_mem _ hafter))

/-- A cycle is over: it gives up its ticket. -/
theorem TakesTurns.leave (h : TakesTurns c w (before ++ u :: after))
    (hlock : w'.lock = w.lock.release u.ticket) : TakesTurns c w' (before ++ after) where
  isOrderly := hlock ▸ h.isOrderly.release u.ticket
  tickets := by
    have htickets := h.isOrderly.tickets_release u.ticket
    rw [hlock, htickets]
    have hperm : ((before ++ u :: after).map Underway.ticket).Perm
        (u.ticket :: (before ++ after).map Underway.ticket) :=
      List.perm_middle.map Underway.ticket
    have herased := (hperm.symm.trans h.tickets).erase u.ticket
    rwa [List.erase_cons_head] at herased
  stands := by
    intro v hv
    have hmem : v ∈ before ++ u :: after := by
      rcases List.mem_append.1 hv with hbefore | hafter
      · exact List.mem_append_left _ hbefore
      · exact List.mem_append_right _ (List.mem_cons_of_mem _ hafter)
    have hother : v.ticket ≠ u.ticket := by
      have hnodup := (List.perm_middle.map Underway.ticket).nodup_iff.1 h.nodup
      intro heq
      exact (List.nodup_cons.1 hnodup).1 (heq ▸ List.mem_map_of_mem hv)
    refine (h.stands v hmem).of_holder fun hholder => ?_
    have hheld : w.lock.holder ≠ some u.ticket := by
      rw [hholder]
      exact fun heq => hother (Option.some.inj heq)
    rw [hlock, CycleLock.release, if_neg hheld]
    exact hholder

/-- One cycle at most has taken the lock. -/
theorem TakesTurns.length_inside_le (h : TakesTurns c w underway) :
    (underway.filter Underway.isInside).length ≤ 1 := by
  cases hinside : underway.filter Underway.isInside with
  | nil => exact Nat.zero_le 1
  | cons first others =>
      have hholds : ∀ v ∈ first :: others, w.lock.holder = some v.ticket := by
        intro v hv
        rw [← hinside] at hv
        obtain ⟨hmem, hin⟩ := List.mem_filter.1 hv
        exact (h.stands v hmem).holds hin
      have hfirst := hholds first List.mem_cons_self
      have hsame : (first :: others).map Underway.ticket =
          List.replicate (first :: others).length first.ticket := by
        refine List.eq_replicate_iff.2 ⟨List.length_map _, fun ticket hticket => ?_⟩
        obtain ⟨v, hv, rfl⟩ := List.mem_map.1 hticket
        exact Option.some.inj ((hholds v hv).symm.trans hfirst)
      have hnodup : ((first :: others).map Underway.ticket).Nodup := by
        rw [← hinside]
        exact (List.filter_sublist.map _).nodup h.nodup
      rw [hsame] at hnodup
      exact List.nodup_replicate.1 hnodup

/-- Only a cycle that has taken the lock has probes in flight. -/
theorem flatMap_inFlight (underway : List Underway) :
    underway.flatMap Underway.inFlight =
      (underway.filter Underway.isInside).flatMap Underway.inFlight := by
  induction underway with
  | nil => rfl
  | cons u rest ih =>
      cases hinside : u.isInside with
      | true => rw [List.filter_cons_of_pos hinside, List.flatMap_cons, List.flatMap_cons, ih]
      | false =>
          have hnone : u.inFlight = [] := by
            unfold Underway.inFlight
            cases hbatch : u.stage.batch? with
            | none => rfl
            | some b =>
                rw [Underway.isInside_of_batch? hbatch] at hinside
                cases hinside
          rw [List.filter_cons_of_neg (by simp [hinside]), List.flatMap_cons, hnone, ih]
          rfl

theorem Underway.Stands.length_inFlight_le (h : u.Stands c w) : u.inFlight.length ≤ c.width := by
  unfold Underway.inFlight
  cases hbatch : u.stage.batch? with
  | none => exact Nat.zero_le _
  | some b => exact (h.accounts b hbatch).room

/-- The remote probes in flight are those of one batch. -/
theorem TakesTurns.length_inFlight_le (h : TakesTurns c w underway) :
    (underway.flatMap Underway.inFlight).length ≤ c.width := by
  have hone := h.length_inside_le
  rw [flatMap_inFlight]
  cases hinside : underway.filter Underway.isInside with
  | nil => exact Nat.zero_le _
  | cons u others =>
      rw [hinside, List.length_cons] at hone
      obtain rfl : others = [] := List.length_eq_zero_iff.1 (by omega)
      have hmem : u ∈ underway.filter Underway.isInside := hinside ▸ List.mem_cons_self
      rw [List.flatMap_singleton]
      exact (h.stands u (List.mem_of_mem_filter hmem)).length_inFlight_le

end TakesTurns

namespace Cycle

/-- Taking seeds in counts no cycle. -/
theorem completed_applySeeds (f : Fleet) (report : CycleReport)
    (results : List (Target × Outcome)) :
    (applySeeds f report results).1.completed = f.completed := by
  have hfold : ∀ state : Fleet × Nat,
      (results.foldl applySeed state).1.completed = state.1.completed := by
    induction results with
    | nil => exact fun _ => rfl
    | cons result rest ih =>
        rintro ⟨f, discovered⟩
        rw [List.foldl_cons, ih]
        obtain ⟨target, outcome⟩ := result
        cases outcome with
        | error e => rfl
        | ok answer =>
            simp only [applySeed]
            cases f.registry.enroll (Peer.named target.address none answer) <;> rfl
  exact hfold (f, 0)

end Cycle

section Counts

variable {c : MonitorConfig} {w w' : World} {reports : List CycleReport}

theorem Counts.of_completed (h : Counts w reports)
    (hcompleted : w'.fleet.completed = w.fleet.completed) : Counts w' reports :=
  ⟨h.numbered, hcompleted.trans h.completed⟩

/-- A cycle that ends gives its ticket up and has the next number. -/
theorem Moment.Completes.frame {ticket : Nat} {report report' : CycleReport}
    {results : List (Target × Outcome)}
    (h : Moment.Completes c ticket w report results w' report') :
    w'.lock = w.lock.release ticket ∧ report'.cycle = w.fleet.completed + 1 ∧
      w'.fleet.completed = w.fleet.completed + 1 := by
  have hseeds := Cycle.completed_applySeeds w.fleet report results
  obtain ⟨files, hcomplete⟩ := Cycle.exists_complete_eq c
    (Cycle.applySeeds w.fleet report results).1 (Cycle.applySeeds w.fleet report results).2
  simp only [Moment.Completes, CycleRun.finish, hcomplete, Prod.mk.injEq,
    CycleStage.finished.injEq] at h
  obtain ⟨rfl, rfl⟩ := h
  exact ⟨rfl, congrArg (· + 1) hseeds, congrArg (· + 1) hseeds⟩

theorem Counts.concat (h : Counts w reports) {report : CycleReport}
    (hcycle : report.cycle = w.fleet.completed + 1)
    (hcompleted : w'.fleet.completed = w.fleet.completed + 1) :
    Counts w' (reports ++ [report]) where
  numbered := by
    rw [List.map_append, List.length_append, List.length_singleton, h.numbered,
      List.range'_concat, List.map_append, List.map_singleton, List.map_singleton, hcycle,
      h.completed, Nat.one_mul, UInt64.ofNat_add, UInt64.add_comm]
    rfl
  completed := by
    rw [hcompleted, h.completed, List.length_append, List.length_singleton, UInt64.ofNat_add]
    rfl

end Counts

namespace Moment

variable {c : MonitorConfig} {m m' : Moment}

/-- What holds of every moment. -/
structure Sound (c : MonitorConfig) (m : Moment) : Prop where
  turns : TakesTurns c m.world m.underway
  counts : Counts m.world m.reports

theorem sound_start (c : MonitorConfig) (w : World) : (start w).Sound c :=
  ⟨⟨CycleLock.isOrderly_free, .nil, nofun⟩, ⟨rfl, rfl⟩⟩

/-- One step. -/
theorem Sound.next (h : m.Sound c) (hnext : Next c m m') : m'.Sound c := by
  cases hnext with
  | begin => exact ⟨h.turns.begin, h.counts.of_completed rfl⟩
  | go hgoes => exact ⟨h.turns.go hgoes, h.counts.of_completed hgoes.frame.2.1⟩
  | complete hstage hfinished hcompletes =>
      obtain ⟨hlock, hcycle, hcompleted⟩ := hcompletes.frame
      exact ⟨h.turns.leave hlock, h.counts.concat hcycle hcompleted⟩
  | giveUp => exact ⟨h.turns.leave rfl, h.counts.of_completed rfl⟩
  | beside hlock hcompleted => exact ⟨h.turns.of_lock hlock, h.counts.of_completed hcompleted⟩

/-- All steps. -/
theorem Comes.sound {w : World} (h : Comes c w m) : m.Sound c := by
  induction h with
  | refl => exact sound_start c w
  | tail _ hnext ih => exact ih.next hnext

end Moment

end InferenceFleet
