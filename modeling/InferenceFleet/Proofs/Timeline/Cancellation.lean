import InferenceFleet.Proofs.Interleaving.Landing
import InferenceFleet.Proofs.Timeline.Progress
import InferenceFleet.Proofs.Timeline.Turns
import InferenceFleet.Timeline.Loop

/-!
# Cycles that are given up

A cycle can be given up at any instant: because a forced cycle has reached its deadline, because the
loop was told to stop, or for any other reason. Main statement: what it has done to the fleet until
then is nothing, the refresh of this node's entry, or the refresh and all the outcomes of the batch
of registered peers; giving it up does nothing to the fleet and takes its ticket from the lock.

Other users of the fleet are not held still: between any two polls of the cycle the fleet, the
network and the lock may change in every way that leaves the cycle its ticket. What is said is
therefore what the polls of the cycle themselves do to the fleet, poll by poll.
-/

namespace InferenceFleet

namespace Loop

/-- A loop that was told to stop gives up its cycle and ends at the next poll. -/
theorem poll_of_stopping (c : MonitorConfig) (w : World) {l : Loop} (hstopping : l.stopping = true)
    (hfinished : l.finished = false) :
    l.poll c w =
      (match l.run with
        | some run => run.cancel w
        | none => w,
        { l with run := none, finished := true }) := by
  have hrounds : 2 * rounds c.interval w.now l.nextTick ≠ 0 :=
    Nat.mul_ne_zero (by decide) (Nat.succ_ne_zero _)
  obtain ⟨fuel, hfuel⟩ := Nat.exists_eq_succ_of_ne_zero hrounds
  rw [poll, hfuel]
  cases hrun : l.run with
  | none => simp [pollFrom, hstopping, hfinished, hrun]
  | some run => simp [pollFrom, hstopping, hfinished, hrun]

theorem poll_of_finished (c : MonitorConfig) (w : World) {l : Loop}
    (hfinished : l.finished = true) : l.poll c w = (w, l) := by
  unfold poll
  cases 2 * rounds c.interval w.now l.nextTick with
  | zero => rfl
  | succ fuel => simp [pollFrom, hfinished]

end Loop

namespace CycleRun

variable {c : MonitorConfig} {w₀ w w' : World} {log : List (World × World)}

/-- What may happen to a world beside a cycle with a ticket: anything, but the lock is asked for and
given up ticket by ticket, and the ticket of the cycle is its own. -/
inductive Meanwhile (ticket : Nat) : World → World → Prop
  | change {w w' : World} (hlock : w'.lock = w.lock) : Meanwhile ticket w w'
  | request {w : World} : Meanwhile ticket w { w with lock := w.lock.request.2 }
  | release {w : World} {other : Nat} (hother : other ≠ ticket) :
      Meanwhile ticket w { w with lock := w.lock.release other }

/-- A cycle that was started in a world and polled any number of times, with anything beside it: the
worlds before and after each poll, and the world and the cycle as they are now. -/
inductive Runs (c : MonitorConfig) (w₀ : World) :
    List (World × World) → World → CycleRun → Prop
  | start : Runs c w₀ [] (CycleRun.start w₀).1 (CycleRun.start w₀).2
  | poll {log : List (World × World)} {w : World} {r : CycleRun} (hruns : Runs c w₀ log w r) :
      Runs c w₀ (log ++ [(w, (r.poll c w).1)]) (r.poll c w).1 (r.poll c w).2
  | meanwhile {log : List (World × World)} {w w' : World} {r : CycleRun}
      (hruns : Runs c w₀ log w r) (hmeanwhile : Meanwhile r.ticket w w') : Runs c w₀ log w' r

/-- The worlds in which a cycle was polled. -/
def PolledIn (log : List (World × World)) (w : World) : Prop := ∃ polled ∈ log, polled.1 = w

theorem PolledIn.concat {polled : World × World} (h : PolledIn log w) :
    PolledIn (log ++ [polled]) w :=
  h.imp fun _ hp => ⟨List.mem_append_left _ hp.1, hp.2⟩

/-- What is known of a cycle that is not finished: each of its polls made some effects, and all of
them together belong to its stage. -/
structure Waits (c : MonitorConfig) (log : List (World × World)) (w : World) (r : CycleRun) :
    Prop where
  isOrderly : w.lock.IsOrderly
  hasDone : ∃ effects : List (List CycleEffect),
    List.Forall₂ (fun polled made => CycleEffect.Chain made polled.1.fleet polled.2.fleet)
      log effects ∧
    HasDone c (PolledIn log) r.stage effects.flatten

theorem waits_start (hlock : w₀.lock.IsOrderly) :
    Waits c [] (CycleRun.start w₀).1 (CycleRun.start w₀).2 where
  isOrderly := hlock.request
  hasDone := ⟨[], .nil, .lock⟩

theorem Waits.poll {r : CycleRun} (h : Waits c log w r)
    (hwaits : (r.poll c w).2.report? = none) :
    Waits c (log ++ [(w, (r.poll c w).1)]) (r.poll c w).1 (r.poll c w).2 := by
  obtain ⟨effects, hlog, hdone⟩ := h.hasDone
  have hbefore : HasDone c (PolledIn (log ++ [(w, (r.poll c w).1)])) r.stage effects.flatten :=
    hdone.mono fun _ hw => hw.concat
  have hseen : PolledIn (log ++ [(w, (r.poll c w).1)]) w :=
    ⟨_, List.mem_append_right _ List.mem_cons_self, rfl⟩
  have hadvances : Advances _ w (pollStage c r.ticket w r.stage) :=
    advances_pollStage hbefore hseen
  rcases hadvances with
    ⟨report, hend⟩ | ⟨hlock, made, hchain, hbelongs⟩
  · have hreport : (r.poll c w).2.report? = some report := by
      have hstage : (r.poll c w).2.stage = .finished report := hend
      rw [report?, hstage]
    rw [hreport] at hwaits
    cases hwaits
  · have hkept : (r.poll c w).1.lock = w.lock := hlock
    refine ⟨hkept ▸ h.isOrderly, effects ++ [made], ?_, ?_⟩
    · exact List.rel_append hlog (.cons hchain .nil)
    · rw [List.flatten_append, List.flatten_singleton]
      exact hbelongs

theorem Waits.meanwhile {r : CycleRun} (h : Waits c log w r)
    (hmeanwhile : Meanwhile r.ticket w w') : Waits c log w' r := by
  refine ⟨?_, h.hasDone⟩
  cases hmeanwhile with
  | change hlock => exact hlock ▸ h.isOrderly
  | request => exact h.isOrderly.request
  | release _ => exact h.isOrderly.release _

/-- A finished cycle stays so. -/
theorem report?_eq_none_of_poll {r : CycleRun} (hwaits : (r.poll c w).2.report? = none) :
    r.report? = none := by
  obtain ⟨ticket, stage⟩ := r
  cases stage with
  | finished report => exact hwaits
  | lock | thisNode | peers | seeds => rfl

theorem Runs.waits {r : CycleRun} (h : Runs c w₀ log w r) (hlock : w₀.lock.IsOrderly)
    (hwaits : r.report? = none) : Waits c log w r := by
  induction h with
  | start => exact waits_start hlock
  | poll _ ih => exact (ih (report?_eq_none_of_poll hwaits)).poll hwaits
  | meanwhile _ hmeanwhile ih => exact (ih hwaits).meanwhile hmeanwhile

/-- A cycle is given up: the worlds before and after each of its polls, its ticket, and the worlds
right before and right after. -/
inductive GivenUp (c : MonitorConfig) (w₀ : World) :
    List (World × World) → Nat → World → World → Prop
  | cancelled {log : List (World × World)} {w : World} {r : CycleRun}
      (hruns : Runs c w₀ log w r) (hwaits : r.report? = none) :
      GivenUp c w₀ log r.ticket w (r.cancel w)
  /-- A forced cycle is polled, and its deadline has come. -/
  | timedOut {log : List (World × World)} {w : World} {f : ForcedCycle}
      (hruns : Runs c w₀ log w f.run) (hend : (f.poll c w).2.2 = some none) :
      GivenUp c w₀ (log ++ [(w, (f.run.poll c w).1)]) f.run.ticket (f.run.poll c w).1
        (f.poll c w).1
  /-- A loop that runs a cycle was told to stop. -/
  | stopped {log : List (World × World)} {w : World} {r : CycleRun} {l : Loop}
      (hruns : Runs c w₀ log w r) (hwaits : r.report? = none) (hrun : l.run = some r)
      (hstopping : l.stopping = true) (hfinished : l.finished = false) :
      GivenUp c w₀ log r.ticket w (l.poll c w).1

theorem poll_of_timedOut {f : ForcedCycle} (hend : (f.poll c w).2.2 = some none) :
    (f.run.poll c w).2.report? = none ∧
      (f.poll c w).1 = (f.run.poll c w).2.cancel (f.run.poll c w).1 := by
  simp only [ForcedCycle.poll] at hend ⊢
  cases hreport : (f.run.poll c w).2.report? with
  | some report =>
      rw [hreport] at hend
      cases hend
  | none =>
      rw [hreport] at hend
      dsimp only at hend ⊢
      split at hend
      · next hdeadline => exact ⟨rfl, by rw [if_pos hdeadline]⟩
      · cases hend

theorem poll_of_stopping {r : CycleRun} {l : Loop} (hrun : l.run = some r)
    (hstopping : l.stopping = true) (hfinished : l.finished = false) :
    (l.poll c w).1 = r.cancel w := by
  rw [Loop.poll_of_stopping c w hstopping hfinished, hrun]

/-- However a cycle is given up, it is one that waits and is cancelled. -/
theorem GivenUp.exists_cancel {ticket : Nat} (h : GivenUp c w₀ log ticket w w') :
    ∃ r : CycleRun, Runs c w₀ log w r ∧ r.report? = none ∧ r.ticket = ticket ∧ w' = r.cancel w := by
  cases h with
  | @cancelled _ _ r hruns hwaits => exact ⟨r, hruns, hwaits, rfl, rfl⟩
  | @timedOut _ w f hruns hend =>
      obtain ⟨hwaits, hcancel⟩ := poll_of_timedOut hend
      exact ⟨(f.run.poll c w).2, hruns.poll, hwaits, rfl, hcancel⟩
  | @stopped _ _ r l hruns hwaits hrun hstopping hfinished =>
      exact ⟨r, hruns, hwaits, rfl, poll_of_stopping hrun hstopping hfinished⟩

theorem cancel_of_waits {r : CycleRun} (hwaits : r.report? = none) :
    r.cancel w = { w with lock := w.lock.release r.ticket } := by
  obtain ⟨ticket, stage⟩ := r
  cases stage with
  | finished report => cases hwaits
  | lock | thisNode | peers | seeds => rfl

/-- What a cycle that is not finished may have done, given the worlds in which it was polled. The
batch is that of the peers which were registered when it was read, and its outcomes are what the
probes of the cycle brought. -/
inductive CleanBeginning (c : MonitorConfig) (seen : World → Prop) : List CycleEffect → Prop
  | nothing : CleanBeginning c seen []
  | refreshed {address : Address} {answer : Capability} (haddress : c.localAddress = some address)
      (hanswer : Answered seen answer) : CleanBeginning c seen [.refresh address answer]
  | applied {read : World} {answer : Capability} {results : List (Target × Outcome)}
      (hread : seen read)
      (hanswer : ∀ address, c.localAddress = some address → Answered seen answer)
      (htargets : (results.map Prod.fst).Perm
        (Cycle.targets (Cycle.entered c read.fleet answer)))
      (hbrought : ∀ result ∈ results, Brought c seen result) :
      CleanBeginning c seen (refreshes c answer ++ [.outcomes results])

theorem HasDone.cleanBeginning {seen : World → Prop} {stage : CycleStage}
    {effects : List CycleEffect} (h : HasDone c seen stage effects) :
    CleanBeginning c seen effects := by
  cases h with
  | lock => exact .nothing
  | thisNode => exact .nothing
  | inHand hseen hanswer hbatch =>
      cases hbatch with
      | seeds hresults hbrought => exact .applied hseen hanswer hresults hbrought
      | peers =>
          rw [List.append_nil, refreshes]
          cases haddress : c.localAddress with
          | none => exact .nothing
          | some address => exact .refreshed haddress (hanswer address haddress)

/-- A cycle that is given up, at whatever instant, leaves a clean beginning of a cycle behind: each
of its polls made some effects, with the events, the failures and nothing else that belongs to them,
and all of them together are nothing, the refresh of this node, or the refresh and the whole batch.
Giving it up leaves the fleet alone and hands the lock to whoever asked for it next. -/
theorem given_up_leaves_clean_beginning {ticket : Nat} (hlock : w₀.lock.IsOrderly)
    (hgiven : GivenUp c w₀ log ticket w w') :
    (∃ effects : List (List CycleEffect),
      List.Forall₂ (fun polled made => CycleEffect.Chain made polled.1.fleet polled.2.fleet)
        log effects ∧
      CleanBeginning c (PolledIn log) effects.flatten) ∧
    w'.fleet = w.fleet ∧
    w'.lock.tickets = w.lock.tickets.erase ticket ∧
    ticket ∉ w'.lock.tickets ∧
    w'.lock.holder = w'.lock.tickets.head? := by
  obtain ⟨r, hruns, hwaits, rfl, rfl⟩ := hgiven.exists_cancel
  have hstanding := hruns.waits hlock hwaits
  obtain ⟨effects, hlog, hdone⟩ := hstanding.hasDone
  have htickets := hstanding.isOrderly.tickets_release r.ticket
  rw [cancel_of_waits hwaits]
  refine ⟨⟨effects, hlog, hdone.cleanBeginning⟩, rfl, htickets, ?_, ?_⟩
  · rw [htickets]
    exact fun hmem => (hstanding.isOrderly.nodup.mem_erase_iff.1 hmem).1 rfl
  · exact (hstanding.isOrderly.release r.ticket).holder_eq

/-- The seed. -/
def lateSeed : Address := ⟨"10.0.0.9", defaultPort⟩

/-- Settings under which a forced cycle is not waited for. -/
def impatient : MonitorConfig :=
  { MonitorConfig.builtin with
    startupWait := 0, localAddress := some ⟨"127.0.0.1", defaultPort⟩, seeds := [lateSeed] }

/-- A world with a registered peer that answers at once, as this node does. -/
def awaitingSeed : World :=
  { now := 0
    network :=
      ⟨fun address _ _ => ⟨if address = lateSeed then .ofSeconds 1 else 0, Traffic.nodeAnswer⟩,
        fun _ => ⟨0, .unseen⟩⟩
    probed := []
    lock := .free
    fleet :=
      ((Traffic.start Traffic.quiet).run [.access (.enroll (Traffic.nodeAt "10.0.0.1"))]).fleet }

/-- A forced cycle in that world, when it has asked for the lock. -/
def forced : World × ForcedCycle := ForcedCycle.start impatient awaitingSeed

/-- The world after its first poll, which finds its deadline reached. -/
def polled : World := (forced.2.run.poll impatient forced.1).1

theorem given_up_leaves_clean_beginning_awaitingSeed :
    awaitingSeed.lock.IsOrderly ∧
    GivenUp impatient awaitingSeed [(forced.1, polled)] forced.2.run.ticket polled
      (forced.2.poll impatient forced.1).1 ∧
    (∃ effects : List (List CycleEffect),
      List.Forall₂ (fun polled made => CycleEffect.Chain made polled.1.fleet polled.2.fleet)
        [(forced.1, polled)] effects ∧
      CleanBeginning impatient (PolledIn [(forced.1, polled)]) effects.flatten) ∧
    (forced.2.poll impatient forced.1).1.fleet = polled.fleet ∧
    (forced.2.poll impatient forced.1).1.lock.tickets =
      polled.lock.tickets.erase forced.2.run.ticket ∧
    forced.2.run.ticket ∉ (forced.2.poll impatient forced.1).1.lock.tickets ∧
    (forced.2.poll impatient forced.1).1.lock.holder =
      (forced.2.poll impatient forced.1).1.lock.tickets.head? := by
  have hend : (forced.2.poll impatient forced.1).2.2 = some none := by decide +kernel
  have hgiven : GivenUp impatient awaitingSeed [(forced.1, polled)] forced.2.run.ticket polled
      (forced.2.poll impatient forced.1).1 := .timedOut .start hend
  exact ⟨CycleLock.isOrderly_free, hgiven,
    given_up_leaves_clean_beginning CycleLock.isOrderly_free hgiven⟩

end CycleRun

end InferenceFleet
