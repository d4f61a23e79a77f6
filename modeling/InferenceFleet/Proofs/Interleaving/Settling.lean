import InferenceFleet.Proofs.Interleaving.Landing
import InferenceFleet.Proofs.Registry.Remote

/-!
# What a cycle makes of each peer

A cycle that is left alone with the registry changes every remote peer by the outcome of that peer's
own probe and by nothing else: neither the entry of this node, nor the outcomes of the other peers,
nor the order in which they came, nor the seeds that are taken in afterwards have a part in it. All
that an outcome depends on besides is the clock, which is read when the outcome is applied. Other
calls may be under way meanwhile, time may pass and files may change, as long as no call but the
cycle makes an access.

The proof follows the cycle through its phases. Until the registered peers are read, nothing but the
entry of this node differs from the start (`AgreesRemotely`). From there on the outcomes split into
those that are applied and those that are not, and a peer is as at the start or as its own outcome
left it, accordingly (`Standing`).
-/

namespace InferenceFleet

namespace Traffic

/-- In a run no call but the one at a place makes an access. -/
def Undisturbed (t : Traffic) (place : Nat) (moves : List Move) : Prop :=
  ∀ before m, before ++ [m] <+: moves →
    (∃ arrival, m = .proceed place arrival) ∨ (t.run before).access? m = none

theorem Undisturbed.access?_eq_none {t : Traffic} {place : Nat} {moves before : List Move}
    {m : Move} (h : t.Undisturbed place moves) (hbegin : before ++ [m] <+: moves)
    (hother : ∀ arrival, m ≠ .proceed place arrival) : (t.run before).access? m = none :=
  (h before m hbegin).resolve_left fun ⟨arrival, heq⟩ => hother arrival heq

/-- The target that a peer is. -/
def targetOf (p : Peer) : Target := ⟨p.id, p.address⟩

/-- After some moves of a run, the next step of the call at a place applies an outcome, and the run
takes that step. -/
def AppliesAfter (t : Traffic) (place : Nat) (moves before : List Move) (target : Target)
    (outcome : Outcome) : Prop :=
  (∃ arrival, before ++ [.proceed place arrival] <+: moves) ∧
    ∃ c report rest, (t.run before).calls[place]? =
      some (.cycling c (.applying report ((target, outcome) :: rest)))

/-- After a run that applied some outcomes, every remote peer that there was at its beginning is as
it was if its outcome is not among them, and as its outcome left it if it is. -/
structure Standing (t : Traffic) (place : Nat) (moves : List Move)
    (applied : List (Target × Outcome)) : Prop where
  untouched : ∀ p ∈ t.registry.remotePeers, targetOf p ∉ applied.map Prod.fst →
    (t.run moves).registry.get? p.id = some p
  settled : ∀ p ∈ t.registry.remotePeers, ∀ outcome, (targetOf p, outcome) ∈ applied →
    ∃ before, t.AppliesAfter place moves before (targetOf p) outcome ∧
      (t.run moves).registry.get? p.id = some (landed (t.run before).fleet p outcome)

variable {t : Traffic} {place : Nat} {moves : List Move} {m : Move}
  {applied : List (Target × Outcome)}

theorem AppliesAfter.concat {before : List Move} {target : Target} {outcome : Outcome}
    (h : t.AppliesAfter place moves before target outcome) :
    t.AppliesAfter place (moves ++ [m]) before target outcome := by
  obtain ⟨⟨arrival, hbegin⟩, hcall⟩ := h
  exact ⟨⟨arrival, hbegin.trans (List.prefix_append moves [m])⟩, hcall⟩

/-- A move that leaves the entries of remote peers alone. -/
theorem Standing.concat (h : t.Standing place moves applied)
    (hkeeps : ∀ id p, id ≠ localId → (t.run moves).registry.get? id = some p →
      ((t.run moves).step m).registry.get? id = some p)
    (hconsistent : t.registry.IsConsistent) : t.Standing place (moves ++ [m]) applied where
  untouched p hp houtstanding := by
    rw [run_concat]
    exact hkeeps p.id p (hconsistent.mem_remotePeers_iff.1 hp).1 (h.untouched p hp houtstanding)
  settled p hp outcome happlied := by
    obtain ⟨before, happlies, hget⟩ := h.settled p hp outcome happlied
    refine ⟨before, happlies.concat, ?_⟩
    rw [run_concat]
    exact hkeeps p.id _ (hconsistent.mem_remotePeers_iff.1 hp).1 hget

/-- The step that applies the next outcome settles the peer that it is for, and no other. -/
theorem Standing.apply (h : t.Standing place moves applied) (hconsistent : t.registry.IsConsistent)
    {c : MonitorConfig} {report : CycleReport} {target : Target} {outcome : Outcome}
    {rest : List (Target × Outcome)} {arrival : Arrival}
    (hcall : (t.run moves).calls[place]? =
      some (.cycling c (.applying report ((target, outcome) :: rest))))
    (htarget : target ∈ Cycle.targets t.fleet) (hfresh : target ∉ applied.map Prod.fst) :
    t.Standing place (moves ++ [.proceed place arrival]) (applied ++ [(target, outcome)]) := by
  obtain ⟨q, hq, rfl⟩ := List.mem_map.1 htarget
  have hstep := get?_step_applying hcall arrival
  -- Remote peers of a consistent registry with one identifier are one peer.
  have heq : ∀ p ∈ t.registry.remotePeers, q.id = p.id → p = q := by
    intro p hp hid
    have hgetp := (hconsistent.mem_remotePeers_iff.1 hp).2
    have hgetq := (hconsistent.mem_remotePeers_iff.1 hq).2
    rw [hid] at hgetq
    exact Option.some.inj (hgetp.symm.trans hgetq)
  constructor
  · intro p hp houtstanding
    rw [List.map_append, List.mem_append, not_or] at houtstanding
    have hid : q.id ≠ p.id := by
      intro hid
      rw [heq p hp hid] at houtstanding
      exact houtstanding.2 List.mem_cons_self
    rw [run_concat, hstep, if_neg hid]
    exact h.untouched p hp houtstanding.1
  · intro p hp outcome' happlied
    rcases List.mem_append.1 happlied with hearlier | hnow
    · obtain ⟨before, happlies, hget⟩ := h.settled p hp outcome' hearlier
      have hid : q.id ≠ p.id := by
        intro hid
        rw [heq p hp hid] at hearlier
        exact hfresh (List.mem_map.2 ⟨_, hearlier, rfl⟩)
      refine ⟨before, happlies.concat, ?_⟩
      rw [run_concat, hstep, if_neg hid]
      exact hget
    · obtain ⟨hsame, rfl⟩ := Prod.mk.inj (List.mem_singleton.1 hnow)
      obtain rfl := heq p hp (congrArg Target.id hsame).symm
      refine ⟨moves, ⟨⟨arrival, List.prefix_rfl⟩, c, report, rest, hcall⟩, ?_⟩
      rw [run_concat, hstep, if_pos rfl]
      exact congrArg (Option.map _) (h.untouched p hp hfresh)

/-- A report of as many probed peers as there are targets, with the outcomes of some of them. -/
structure Counts (report : CycleReport) (targets : List Target)
    (applied : List (Target × Outcome)) : Prop where
  probed : report.probed = targets.length
  succeeded : report.succeeded = applied.countP fun result => result.2.isOk
  failed : report.failed = applied.countP fun result => !result.2.isOk

/-- A run brought the call at a place an outcome for every remote peer that there was at its
beginning. -/
def Brings (t : Traffic) (place : Nat) (moves : List Move) (results : List (Target × Outcome)) :
    Prop :=
  .proceed place (.outcomes results) ∈ moves ∧
    (results.map Prod.fst).Perm (Cycle.targets t.fleet)

/-- Every outcome that a run brought is applied. -/
def Settles (t : Traffic) (place : Nat) (moves : List Move) (report : CycleReport) : Prop :=
  ∃ results, t.Brings place moves results ∧ t.Standing place moves results ∧
    Counts report (Cycle.targets t.fleet) results

/-- How far a cycle has brought the fleet when it has come to a phase. -/
def Reached (t : Traffic) (place : Nat) (moves : List Move) : CyclePhase → Prop
  | .thisNode _ => t.registry.AgreesRemotely (t.run moves).registry
  | .reading report =>
      t.registry.AgreesRemotely (t.run moves).registry ∧ report.succeeded = 0 ∧ report.failed = 0
  | .probing report targets =>
      t.Standing place moves [] ∧ targets = Cycle.targets t.fleet ∧ Counts report targets []
  | .applying report outstanding =>
      ∃ applied, t.Brings place moves (applied ++ outstanding) ∧
        t.Standing place moves applied ∧ Counts report (Cycle.targets t.fleet) applied
  | .seeking report _ _ => t.Settles place moves report
  | .probingSeeds report _ => t.Settles place moves report
  | .admitting report _ => t.Settles place moves report
  | .finished report => t.Settles place moves report

/-! ## One move -/

/-- What a remote peer keeps through a move. -/
def Keeps (r r' : Registry) : Prop :=
  ∀ id p, id ≠ localId → r.get? id = some p → r'.get? id = some p

theorem keeps_step_of_access?_eq_none (haccess : t.access? m = none) :
    Keeps t.registry (t.step m).registry := by
  intro id p _ hget
  rw [step_registry, haccess]
  exact hget

theorem keeps_step_of_enroll {q : Peer} (haccess : t.access? m = some (.enroll q)) :
    Keeps t.registry (t.step m).registry := by
  intro id p _ hget
  rw [step_registry, haccess]
  exact Registry.get?_enroll_of_some hget q

theorem Brings.concat {results : List (Target × Outcome)} (h : t.Brings place moves results) :
    t.Brings place (moves ++ [m]) results := ⟨List.mem_append_left _ h.1, h.2⟩

theorem Settles.concat {report : CycleReport} (h : t.Settles place moves report)
    (hkeeps : Keeps (t.run moves).registry ((t.run moves).step m).registry)
    (hconsistent : t.registry.IsConsistent) : t.Settles place (moves ++ [m]) report := by
  obtain ⟨results, hbrings, hstanding, hcounts⟩ := h
  exact ⟨results, hbrings.concat, hstanding.concat hkeeps hconsistent, hcounts⟩

theorem AgreesRemotely.standing (h : t.registry.AgreesRemotely (t.run moves).registry)
    (hconsistent : t.registry.IsConsistent) : t.Standing place moves [] where
  untouched p hp _ := by
    obtain ⟨hremote, hget⟩ := hconsistent.mem_remotePeers_iff.1 hp
    rw [← h p.id hremote, hget]
  settled p hp outcome happlied := by cases happlied

/-- A move without access leaves a cycle where it is. -/
theorem Reached.concat {phase : CyclePhase} (h : t.Reached place moves phase)
    (haccess : (t.run moves).access? m = none) (hconsistent : t.registry.IsConsistent) :
    t.Reached place (moves ++ [m]) phase := by
  have hkeeps := keeps_step_of_access?_eq_none haccess
  have hregistry : (t.run (moves ++ [m])).registry = (t.run moves).registry := by
    rw [run_concat, step_registry, haccess]
    rfl
  cases phase with
  | thisNode address =>
      show t.registry.AgreesRemotely _
      rw [hregistry]
      exact h
  | reading report =>
      show t.registry.AgreesRemotely _ ∧ _
      rw [hregistry]
      exact h
  | probing report targets => exact ⟨h.1.concat hkeeps hconsistent, h.2⟩
  | applying report outstanding =>
      obtain ⟨applied, hbrings, hstanding, hcounts⟩ := h
      exact ⟨applied, hbrings.concat, hstanding.concat hkeeps hconsistent, hcounts⟩
  | seeking report seeds found => exact Settles.concat h hkeeps hconsistent
  | probingSeeds report targets => exact Settles.concat h hkeeps hconsistent
  | admitting report results => exact Settles.concat h hkeeps hconsistent
  | finished report => exact Settles.concat h hkeeps hconsistent

/-- An outcome for a peer that is there is counted as what it is. -/
theorem Counts.apply {report : CycleReport} {targets : List Target} {f : Fleet} {target : Target}
    {p : Peer} (h : Counts report targets applied) (hget : f.registry.get? target.id = some p)
    (outcome : Outcome) :
    Counts (Cycle.applyOutcome (f, report) (target, outcome)).2 targets
      (applied ++ [(target, outcome)]) := by
  cases outcome with
  | ok answer =>
      simp only [Cycle.applyOutcome, Fleet.update, Registry.update, hget]
      exact ⟨h.probed, by simp [h.succeeded, Except.isOk, Except.toBool],
        by simp [h.failed, Except.isOk, Except.toBool]⟩
  | error e =>
      exact ⟨h.probed, by simp [h.succeeded, Cycle.applyOutcome, Except.isOk, Except.toBool],
        by simp [h.failed, Cycle.applyOutcome, Except.isOk, Except.toBool]⟩

theorem agreesRemotely_step_of_registerLocal {r : Registry} {address : Address}
    {answer : Capability} (h : r.AgreesRemotely t.registry)
    (haccess : t.access? m = some (.registerLocal address answer)) :
    r.AgreesRemotely (t.step m).registry := by
  intro id hid
  rw [step_registry, haccess]
  show r.get? id = (t.registry.perform (.registerLocal address answer)).get? id
  rw [Registry.get?_perform, if_neg (Ne.symm hid : (Access.registerLocal address answer).id ≠ id)]
  exact h id hid

/-- A report that counts something else besides. -/
theorem Settles.of_counts {report report' : CycleReport} (h : t.Settles place moves report)
    (hcounts : ∀ targets results, Counts report targets results → Counts report' targets results) :
    t.Settles place moves report' := by
  obtain ⟨results, hbrings, hstanding, hold⟩ := h
  exact ⟨results, hbrings, hstanding, hcounts _ _ hold⟩

theorem Counts.complete {c : MonitorConfig} {f : Fleet} {report : CycleReport}
    {targets : List Target} (h : Counts report targets applied) :
    Counts (Cycle.complete c f report).2 targets applied := ⟨h.probed, h.succeeded, h.failed⟩

/-- A step of the cycle brings it to its next phase, with all that belongs to it. -/
theorem Reached.advance {c : MonitorConfig} {phase : CyclePhase} (arrival : Arrival)
    (h : t.Reached place moves phase)
    (hcall : (t.run moves).calls[place]? = some (.cycling c phase))
    (hconsistent : t.registry.IsConsistent) :
    t.Reached place (moves ++ [.proceed place arrival])
      (phase.advance c (t.run moves).fleet arrival).2 := by
  have haccess : (t.run moves).access? (.proceed place arrival) =
      phase.access? (t.run moves).fleet arrival := access?_proceed hcall arrival
  have hidle : phase.access? (t.run moves).fleet arrival = none →
      t.Reached place (moves ++ [.proceed place arrival]) phase :=
    fun hnone => h.concat (haccess.trans hnone) hconsistent
  cases phase with
  | thisNode address =>
      cases arrival with
      | thisNode answer =>
          refine ⟨?_, rfl, rfl⟩
          rw [run_concat]
          exact agreesRemotely_step_of_registerLocal h haccess
      | nothing => exact hidle rfl
      | outcome o => exact hidle rfl
      | outcomes results => exact hidle rfl
  | reading report =>
      obtain ⟨hagrees, hsucceeded, hfailed⟩ := hidle rfl
      have hsame := h.1.remotePeers_eq hconsistent (isConsistent_run_from hconsistent moves)
      have htargets : Cycle.targets (t.run moves).fleet = Cycle.targets t.fleet := by
        simp only [Cycle.targets]
        exact congrArg (List.map _) hsame.symm
      exact ⟨AgreesRemotely.standing hagrees hconsistent, htargets, rfl, hsucceeded, hfailed⟩
  | probing report targets =>
      cases arrival with
      | outcomes results =>
          have hwaiting := hidle rfl
          simp only [CyclePhase.advance]
          split
          · next hmatches =>
              obtain ⟨hstanding, rfl, hcounts⟩ := hwaiting
              have hbrings : t.Brings place (moves ++ [.proceed place (.outcomes results)])
                  results :=
                    ⟨List.mem_append_right _ List.mem_cons_self, List.isPerm_iff.1 hmatches⟩
              exact ⟨[], hbrings, hstanding, hcounts⟩
          · exact hwaiting
      | nothing => exact hidle rfl
      | thisNode answer => exact hidle rfl
      | outcome o => exact hidle rfl
  | applying report outstanding =>
      cases outstanding with
      | nil =>
          obtain ⟨applied, hbrings, hstanding, hcounts⟩ := hidle rfl
          rw [List.append_nil] at hbrings
          exact ⟨applied, hbrings, hstanding, hcounts⟩
      | cons result rest =>
          obtain ⟨target, outcome⟩ := result
          obtain ⟨applied, hbrings, hstanding, hcounts⟩ := h
          have hnodup := hbrings.2.nodup_iff.2 hconsistent.nodup_targets
          rw [List.map_append, List.map_cons] at hnodup
          have hfresh : target ∉ applied.map Prod.fst := by
            intro hmem
            exact (List.nodup_append.1 hnodup).2.2 target hmem target List.mem_cons_self rfl
          have htarget : target ∈ Cycle.targets t.fleet := by
            refine hbrings.2.mem_iff.1 ?_
            simp
          obtain ⟨q, hq, rfl⟩ := List.mem_map.1 htarget
          have hthere := hstanding.untouched q hq hfresh
          have hcounts' : Counts (Cycle.applyOutcome ((t.run moves).fleet, report)
              (⟨q.id, q.address⟩, outcome)).2 (Cycle.targets t.fleet)
              (applied ++ [(⟨q.id, q.address⟩, outcome)]) := hcounts.apply hthere outcome
          show t.Reached place _ (.applying (Cycle.applyOutcome ((t.run moves).fleet, report)
            (⟨q.id, q.address⟩, outcome)).2 rest)
          refine ⟨applied ++ [(⟨q.id, q.address⟩, outcome)], ?_,
            hstanding.apply hconsistent hcall htarget hfresh, hcounts'⟩
          rw [List.append_assoc]
          exact hbrings.concat
  | seeking report seeds found => cases seeds <;> exact hidle rfl
  | probingSeeds report targets =>
      cases arrival with
      | outcomes results =>
          have hwaiting : t.Settles place _ report := hidle rfl
          simp only [CyclePhase.advance]
          split <;> exact hwaiting
      | nothing => exact hidle rfl
      | thisNode answer => exact hidle rfl
      | outcome o => exact hidle rfl
  | admitting report results =>
      cases results with
      | nil =>
          have hsettles : t.Settles place _ report := hidle rfl
          exact hsettles.of_counts fun _ _ => Counts.complete
      | cons result rest =>
          obtain ⟨target, outcome⟩ := result
          have hkeeps : Keeps (t.run moves).registry
              ((t.run moves).step (.proceed place arrival)).registry := by
            cases outcome with
            | ok answer => exact keeps_step_of_enroll haccess
            | error e => exact keeps_step_of_access?_eq_none haccess
          have hsettles : t.Settles place _ report := Settles.concat h hkeeps hconsistent
          exact hsettles.of_counts fun _ _ hcounts =>
            ⟨hcounts.probed, hcounts.succeeded, hcounts.failed⟩
  | finished report => exact hidle rfl

/-- A run that leaves a cycle alone with the registry brings it from its beginning to some phase
with all that belongs to it, unless the cycle is dropped. -/
theorem reached_run {c : MonitorConfig} (hconsistent : t.registry.IsConsistent)
    (hfirst : t.calls[place]? = some (.cycling c (.first c)))
    (halone : t.Undisturbed place moves) :
    (t.run moves).calls[place]? = some .dropped ∨
      ∃ phase, (t.run moves).calls[place]? = some (.cycling c phase) ∧
        t.Reached place moves phase := by
  have hbegin : t.Reached place [] (.first c) := by
    unfold CyclePhase.first
    cases c.localAddress with
    | none => exact ⟨fun _ _ => rfl, rfl, rfl⟩
    | some address => exact fun _ _ => rfl
  refine cycling_run (t.Reached place) hfirst hbegin
    (fun before m phase hbegins hother hreached => ?_)
    fun before arrival phase hcall hreached => hreached.advance arrival hcall hconsistent
  exact hreached.concat (halone.access?_eq_none hbegins hother) hconsistent

/-- A cycle that is left alone with the registry has, when it is finished, one outcome for each
remote peer that there was at its beginning, in whatever order they came. Each of these peers is
still there under its identifier and at its address; if its probe was answered it has the answer as
its capability, available and last seen at the latest of the old time, the time of the answer and the
clock, as read in the step that applied the answer; if its probe failed it is as before but
unavailable. The report counts the peers, the answers and the failures. -/
theorem cycle_settles_each_peer {c : MonitorConfig} {report : CycleReport}
    (hconsistent : t.registry.IsConsistent)
    (hfirst : t.calls[place]? = some (.cycling c (.first c)))
    (halone : t.Undisturbed place moves)
    (hfinished : (t.run moves).calls[place]? = some (.cycling c (.finished report))) :
    ∃ results : List (Target × Outcome),
      .proceed place (.outcomes results) ∈ moves ∧
      (results.map Prod.fst).Perm (Cycle.targets t.fleet) ∧
      (∀ p ∈ t.registry.remotePeers, (∃! outcome, (targetOf p, outcome) ∈ results) ∧
        ∀ outcome, (targetOf p, outcome) ∈ results →
          ∃ before, t.AppliesAfter place moves before (targetOf p) outcome ∧
            (t.run moves).registry.get? p.id = some
              (match outcome with
              | .ok answer =>
                  { p with
                    capability := { answer with
                      available := true
                      lastSeen := (p.capability.lastSeen.later answer.lastSeen).later
                        (t.run before).fleet.clock.now.wall } }
              | .error _ => { p with capability := { p.capability with available := false } })) ∧
      report.probed = t.registry.remotePeers.length ∧
      report.succeeded = results.countP (fun result => result.2.isOk) ∧
      report.failed = results.countP (fun result => !result.2.isOk) := by
  obtain ⟨results, ⟨hbrought, hperm⟩, hstanding, hcounts⟩ : t.Settles place moves report := by
    rcases reached_run hconsistent hfirst halone with hdropped | ⟨phase, hphase, hreached⟩
    · rw [hfinished] at hdropped
      cases hdropped
    · rw [hfinished] at hphase
      cases hphase
      exact hreached
  have hnodup : (results.map Prod.fst).Nodup := hperm.nodup_iff.2 hconsistent.nodup_targets
  refine ⟨results, hbrought, hperm, fun p hp => ⟨?_, fun outcome hmem => ?_⟩, ?_,
    hcounts.succeeded, hcounts.failed⟩
  · have htarget : targetOf p ∈ Cycle.targets t.fleet := List.mem_map.2 ⟨p, hp, rfl⟩
    obtain ⟨⟨target, outcome⟩, hmem, rfl⟩ := List.mem_map.1 (hperm.mem_iff.2 htarget)
    refine ⟨outcome, hmem, fun outcome' hmem' => ?_⟩
    exact congrArg Prod.snd (List.inj_on_of_nodup_map hnodup hmem' hmem rfl)
  · obtain ⟨before, happlies, hget⟩ := hstanding.settled p hp outcome hmem
    refine ⟨before, happlies, hget.trans ?_⟩
    cases outcome <;> rfl
  · rw [hcounts.probed, Cycle.targets, List.length_map]
    rfl

/-- Two peers that are registered before a cycle begins. -/
def pair : Traffic :=
  (start quiet).run
    [.access (.enroll ⟨"a", ⟨"10.0.0.1", defaultPort⟩, .unseen⟩),
      .access (.enroll ⟨"b", ⟨"10.0.0.2", defaultPort⟩, .unseen⟩), .cycle .builtin]

/-- The probe of the second peer fails before the first one answers; the clock is set forward while
the outcomes are applied. -/
def pairSettling : List Move :=
  [.proceed 0 .nothing,
    .proceed 0 (.outcomes
      [(⟨"b", ⟨"10.0.0.2", defaultPort⟩⟩, .error ⟨"10.0.0.2:11434", .network "refused"⟩),
        (⟨"a", ⟨"10.0.0.1", defaultPort⟩⟩, .ok .unseen)]),
    .proceed 0 .nothing, .beside { quiet with clock := .steady ⟨1000, 0⟩ 0 },
    .proceed 0 .nothing, .proceed 0 .nothing, .proceed 0 .nothing, .proceed 0 (.outcomes []),
    .proceed 0 .nothing]

theorem undisturbed_pairSettling : pair.Undisturbed 0 pairSettling := by
  have hall : ∀ m ∈ pairSettling, (∃ arrival, m = .proceed 0 arrival) ∨ ∃ f, m = .beside f := by
    simp [pairSettling]
  intro before m hbegin
  rcases hall m (hbegin.subset (List.mem_append_right _ List.mem_cons_self)) with
    hproceed | ⟨f, rfl⟩
  · exact .inl hproceed
  · exact .inr rfl

theorem cycle_settles_each_peer_of_pair :
    pair.registry.IsConsistent ∧
    pair.calls[0]? = some (.cycling .builtin (.first .builtin)) ∧
    pair.Undisturbed 0 pairSettling ∧
    (pair.run pairSettling).calls[0]? =
      some (.cycling .builtin (.finished ⟨1, 2, 1, 1, 0, false⟩)) ∧
    ∃ results : List (Target × Outcome),
      .proceed 0 (.outcomes results) ∈ pairSettling ∧
      (results.map Prod.fst).Perm (Cycle.targets pair.fleet) ∧
      (∀ p ∈ pair.registry.remotePeers, (∃! outcome, (targetOf p, outcome) ∈ results) ∧
        ∀ outcome, (targetOf p, outcome) ∈ results →
          ∃ before, pair.AppliesAfter 0 pairSettling before (targetOf p) outcome ∧
            (pair.run pairSettling).registry.get? p.id = some
              (match outcome with
              | .ok answer =>
                  { p with
                    capability := { answer with
                      available := true
                      lastSeen := (p.capability.lastSeen.later answer.lastSeen).later
                        (pair.run before).fleet.clock.now.wall } }
              | .error _ => { p with capability := { p.capability with available := false } })) ∧
      2 = pair.registry.remotePeers.length ∧
      1 = results.countP (fun result => result.2.isOk) ∧
      1 = results.countP (fun result => !result.2.isOk) := by
  have hconsistent : pair.registry.IsConsistent := isConsistent_run quiet _
  have hfirst : pair.calls[0]? = some (.cycling .builtin (.first .builtin)) := rfl
  have hfinished : (pair.run pairSettling).calls[0]? =
      some (.cycling .builtin (.finished ⟨1, 2, 1, 1, 0, false⟩)) := rfl
  exact ⟨hconsistent, hfirst, undisturbed_pairSettling, hfinished,
    cycle_settles_each_peer hconsistent hfirst undisturbed_pairSettling hfinished⟩

end Traffic

end InferenceFleet
