import InferenceFleet.Proofs.Interleaving.CycleLog
import InferenceFleet.Proofs.Interleaving.Frame
import InferenceFleet.Proofs.Registry.Remote

/-!
# What a cycle reports, tells and records

The report of a cycle, the events it tells on the way and the failures it leaves in the error window
are accounts of the same outcomes. Whatever else goes on in the fleet, they balance after every step
of the cycle (`CycleLog.Accounts`), so the finished cycle has told the same story three times.
-/

namespace InferenceFleet

/-- Whether an event tells of an answer of a registered peer. -/
def ProbeEvent.isSuccess : ProbeEvent → Bool
  | .succeeded .. => true
  | _ => false

/-- Whether an event tells of a failed probe of a registered peer. -/
def ProbeEvent.isFailure : ProbeEvent → Bool
  | .failed .. => true
  | _ => false

/-- Whether an event tells of a peer that was taken in. -/
def ProbeEvent.isDiscovery : ProbeEvent → Bool
  | .discovered .. => true
  | _ => false

/-- What the error window keeps of a failure, the time aside. -/
def ProbeFailure.gist (failure : ProbeFailure) : String × String × FailureClass × String :=
  (failure.peerId, failure.address, failure.failureClass, failure.message)

namespace Cycle

/-- The entry of an outcome names it, and has the address, the class and the text of its error. -/
theorem gist_entryOf? (clock : Clock) (result : Target × Outcome) :
    (entryOf? clock result).toList.map (fun entry => entry.2.gist) =
      ([result].filterMap failureOf?).map fun failure =>
        (failure.1, failure.2.address, failure.2.failureClass, failure.2.message) := by
  obtain ⟨target, outcome⟩ := result
  cases outcome <;> rfl

/-- The kind of the event of an outcome, if it has one. -/
theorem kind_eventOf? (r : Registry) (result : Target × Outcome) :
    ((eventOf? r result).map ProbeEvent.isSuccess).getD false =
      (result.2.isOk && (r.get? result.1.id).isSome) ∧
    ((eventOf? r result).map ProbeEvent.isFailure).getD false = !result.2.isOk ∧
    ((eventOf? r result).map ProbeEvent.isDiscovery).getD false = false := by
  obtain ⟨target, outcome⟩ := result
  cases outcome with
  | ok answer =>
      simp only [eventOf?]
      cases r.get? target.id <;> exact ⟨rfl, rfl, rfl⟩
  | error e => exact ⟨rfl, rfl, rfl⟩

/-- What the outcome of a registered peer adds to the report. -/
theorem applyOutcome_report (f : Fleet) (report : CycleReport) (result : Target × Outcome) :
    (applyOutcome (f, report) result).2 =
      { report with
        succeeded := report.succeeded +
          if result.2.isOk && (f.registry.get? result.1.id).isSome then 1 else 0
        failed := report.failed + if !result.2.isOk then 1 else 0 } := by
  obtain ⟨target, outcome⟩ := result
  cases outcome with
  | ok answer =>
      simp only [applyOutcome, Fleet.update, Registry.update]
      cases f.registry.get? target.id <;> rfl
  | error e => rfl

end Cycle

namespace CycleLog

/-- The accounts of a cycle in which the outcomes of some registered peers and of some seeds are
still to be applied. -/
structure Accounts (c : MonitorConfig) (l : CycleLog) (report : CycleReport)
    (toApply toAdmit : List Target) : Prop where
  told : l.told =
    l.applied.filterMap (fun a => Cycle.eventOf? a.1 a.2) ++ l.inserted.map Cycle.discovery
  recorded : l.recorded.map (fun entry => entry.2.gist) =
    ((l.applied.map Prod.snd ++ l.admitted).filterMap Cycle.failureOf?).map fun failure =>
      (failure.1, failure.2.address, failure.2.failureClass, failure.2.message)
  probed : report.probed = l.read.length
  succeeded : report.succeeded =
    l.applied.countP fun a => a.2.2.isOk && (a.1.get? a.2.1.id).isSome
  failed : report.failed = l.applied.countP fun a => !a.2.2.isOk
  discovered : report.discovered = l.inserted.length
  ids_nodup : (l.read.map Target.id).Nodup
  applied_perm : (l.applied.map (fun a => a.2.1) ++ toApply).Perm l.read
  found_stem : ∀ target ∈ l.found, target.address ∈ c.seeds ∧ target.id = target.address.text
  admitted_perm : (l.admitted.map Prod.fst ++ toAdmit).Perm l.found

variable {c : MonitorConfig} {l : CycleLog} {report : CycleReport} {toApply toAdmit : List Target}
  {result : Target × Outcome}

/-- The registered peers were read, and nothing else happened. -/
theorem accounts_read (c : MonitorConfig) (available : Bool) {targets : List Target}
    (hnodup : (targets.map Target.id).Nodup) :
    { empty with read := targets }.Accounts c
      { CycleReport.zero with probed := targets.length, localAvailable := available } targets
      [] where
  told := rfl
  recorded := rfl
  probed := rfl
  succeeded := rfl
  failed := rfl
  discovered := rfl
  ids_nodup := hnodup
  applied_perm := .refl _
  found_stem := nofun
  admitted_perm := .nil

/-- The outcome of a registered peer is applied. -/
theorem Accounts.apply (h : l.Accounts c report (result.1 :: toApply) toAdmit)
    (hadmitted : l.admitted = []) (hinserted : l.inserted = []) (f : Fleet) :
    (l.append { empty with
      told := (Cycle.eventOf? f.registry result).toList
      recorded := (Cycle.entryOf? f.clock result).toList
      applied := [(f.registry, result)] }).Accounts c
      (Cycle.applyOutcome (f, report) result).2 toApply toAdmit := by
  rw [Cycle.applyOutcome_report]
  have htold := h.told
  have hrecorded := h.recorded
  rw [hinserted] at htold
  rw [hadmitted] at hrecorded
  constructor <;> simp only [append, empty, List.append_nil]
  case told =>
    rw [htold, hinserted]
    cases hevent : Cycle.eventOf? f.registry result <;> simp [hevent]
  case recorded =>
    rw [List.map_append, hrecorded, Cycle.gist_entryOf?, hadmitted]
    simp only [List.map_append, List.filterMap_append, List.append_nil, List.map_cons, List.map_nil]
  case probed => exact h.probed
  case succeeded =>
    rw [List.countP_append, ← h.succeeded, List.countP_singleton]
  case failed =>
    rw [List.countP_append, ← h.failed, List.countP_singleton]
  case discovered => exact h.discovered
  case ids_nodup => exact h.ids_nodup
  case applied_perm =>
    rw [List.map_append, List.append_assoc]
    exact h.applied_perm
  case found_stem => exact h.found_stem
  case admitted_perm => exact h.admitted_perm

/-- A seed is looked up. -/
theorem Accounts.find (h : l.Accounts c report toApply toAdmit) {new : List Target}
    (hnew : ∀ target ∈ new, target.address ∈ c.seeds ∧ target.id = target.address.text) :
    (l.append { empty with found := new }).Accounts c report toApply (toAdmit ++ new) := by
  constructor <;> simp only [append, empty, List.append_nil]
  case told => exact h.told
  case recorded => exact h.recorded
  case probed => exact h.probed
  case succeeded => exact h.succeeded
  case failed => exact h.failed
  case discovered => exact h.discovered
  case ids_nodup => exact h.ids_nodup
  case applied_perm => exact h.applied_perm
  case found_stem =>
    intro target htarget
    rcases List.mem_append.1 htarget with hfound | hfresh
    · exact h.found_stem target hfound
    · exact hnew target hfresh
  case admitted_perm =>
    rw [← List.append_assoc]
    exact h.admitted_perm.append_right new

/-- The outcome of a seed is applied. -/
theorem Accounts.admit (h : l.Accounts c report [] (result.1 :: toAdmit)) (f : Fleet) :
    (l.append { empty with
      told := ((Cycle.enrolled? f.registry result).map Cycle.discovery).toList
      recorded := (Cycle.entryOf? f.clock result).toList
      admitted := [result]
      inserted := (Cycle.enrolled? f.registry result).toList }).Accounts c
      { report with discovered := (Cycle.applySeed (f, report.discovered) result).2 } []
      toAdmit := by
  constructor <;> simp only [append, empty, List.append_nil]
  case told =>
    rw [h.told, List.map_append, List.append_assoc]
    cases Cycle.enrolled? f.registry result <;> rfl
  case recorded =>
    rw [List.map_append, h.recorded, Cycle.gist_entryOf?]
    simp only [← List.map_append, ← List.filterMap_append, List.append_assoc]
  case probed => exact h.probed
  case succeeded => exact h.succeeded
  case failed => exact h.failed
  case discovered =>
    rw [Cycle.applySeed_eq, List.length_append, ← h.discovered]
    cases Cycle.enrolled? f.registry result with
    | some p => rfl
    | none => cases Cycle.failureOf? result <;> rfl
  case ids_nodup => exact h.ids_nodup
  case applied_perm => simpa using h.applied_perm
  case found_stem => exact h.found_stem
  case admitted_perm =>
    rw [List.map_append, List.append_assoc]
    exact h.admitted_perm

/-- The outcomes came in some order. -/
theorem Accounts.of_perm (h : l.Accounts c report toApply toAdmit) {toApply' toAdmit' : List Target}
    (hprobed : toApply'.Perm toApply) (hseeds : toAdmit'.Perm toAdmit) :
    l.Accounts c report toApply' toAdmit' :=
  { h with
    applied_perm := (hprobed.append_left _).trans h.applied_perm
    admitted_perm := (hseeds.append_left _).trans h.admitted_perm }

/-- The events that were told, counted by their kinds. -/
theorem Accounts.countP_told (h : l.Accounts c report toApply toAdmit) :
    l.told.countP ProbeEvent.isSuccess = report.succeeded ∧
    l.told.countP ProbeEvent.isFailure = report.failed ∧
    l.told.countP ProbeEvent.isDiscovery = report.discovered := by
  have happlied : ∀ kind : ProbeEvent → Bool, l.told.countP kind =
      l.applied.countP (fun a => ((Cycle.eventOf? a.1 a.2).map kind).getD false) +
        l.inserted.countP (fun p => kind (Cycle.discovery p)) := by
    intro kind
    rw [h.told, List.countP_append, List.countP_filterMap, List.countP_map]
    rfl
  have hnone : l.inserted.countP (fun _ => false) = 0 := congrFun List.countP_false _
  have hall : l.inserted.countP (fun _ => true) = l.inserted.length := congrFun List.countP_true _
  refine ⟨?_, ?_, ?_⟩
  · simp only [happlied, (Cycle.kind_eventOf? _ _).1]
    rw [h.succeeded]
    exact congrArg _ hnone
  · simp only [happlied, (Cycle.kind_eventOf? _ _).2.1]
    rw [h.failed]
    exact congrArg _ hnone
  · simp only [happlied, (Cycle.kind_eventOf? _ _).2.2]
    rw [h.discovered, congrFun List.countP_false l.applied]
    exact (Nat.zero_add _).trans hall

/-- Every outcome is an answer of a peer that is there, a failure, or an answer of a peer that was
removed. -/
theorem length_applied (applied : List (Registry × Target × Outcome)) :
    applied.length =
      (applied.countP fun a => a.2.2.isOk && (a.1.get? a.2.1.id).isSome) +
        (applied.countP fun a => !a.2.2.isOk) +
        applied.countP fun a => a.2.2.isOk && (a.1.get? a.2.1.id).isNone := by
  induction applied with
  | nil => rfl
  | cons a rest ih =>
      rw [List.length_cons, ih]
      simp only [List.countP_cons]
      cases a.2.2.isOk with
      | false => simp; omega
      | true => cases a.1.get? a.2.1.id <;> simp <;> omega

/-- A cycle has done what its report says. -/
structure BearsOut (c : MonitorConfig) (l : CycleLog) (report : CycleReport) : Prop where
  /-- An event for each outcome of a peer that was applied, unless it is the answer of one that was
  gone by then, and one for each peer that came in with the seeds; last the report. -/
  told : l.told = l.applied.filterMap (fun a => Cycle.eventOf? a.1 a.2) ++
    l.inserted.map (fun p => .discovered p.id p.address) ++ [.completed report]
  successes : l.told.countP ProbeEvent.isSuccess = report.succeeded
  failures : l.told.countP ProbeEvent.isFailure = report.failed
  discoveries : l.told.countP ProbeEvent.isDiscovery = report.discovered
  inserted : report.discovered = l.inserted.length
  /-- The peers that were read have one outcome each. -/
  ids_nodup : (l.read.map Target.id).Nodup
  applied_perm : (l.applied.map fun a => a.2.1).Perm l.read
  probed : report.probed = l.read.length
  /-- So do the seeds that were found, which go by the text of their address. -/
  found_stem : ∀ target ∈ l.found, target.address ∈ c.seeds ∧ target.id = target.address.text
  admitted_perm : (l.admitted.map Prod.fst).Perm l.found
  /-- An entry for each failure, of what was probed, with what is known of the error. -/
  recorded : l.recorded.map (fun entry => entry.2.gist) =
    ((l.applied.map Prod.snd ++ l.admitted).filterMap Cycle.failureOf?).map fun failure =>
      (failure.1, failure.2.address, failure.2.failureClass, failure.2.message)
  /-- What is neither a success nor a failure is the answer of a peer that was gone by then. -/
  gone : report.probed = report.succeeded + report.failed +
    l.applied.countP fun a => a.2.2.isOk && (a.1.get? a.2.1.id).isNone

/-- Once all outcomes are applied, telling of the report is what is left. -/
theorem Accounts.bearsOut (h : l.Accounts c report [] []) :
    (l.append { empty with told := [.completed report] }).BearsOut c report := by
  obtain ⟨hsuccesses, hfailures, hdiscoveries⟩ := h.countP_told
  have happlied : (l.applied.map fun a => a.2.1).Perm l.read := by
    simpa using h.applied_perm
  have hprobed : report.probed = l.applied.length := by
    rw [h.probed, ← happlied.length_eq, List.length_map]
  constructor <;> simp only [append, empty, List.append_nil, List.countP_append]
  case told => exact congrArg (· ++ [.completed report]) h.told
  case successes => exact hsuccesses
  case failures => exact hfailures
  case discoveries => exact hdiscoveries
  case inserted => exact h.discovered
  case ids_nodup => exact h.ids_nodup
  case applied_perm => exact happlied
  case probed => exact h.probed
  case found_stem => exact h.found_stem
  case admitted_perm => simpa using h.admitted_perm
  case recorded => exact h.recorded
  case gone =>
    rw [hprobed, h.succeeded, h.failed]
    exact length_applied l.applied

/-- The accounts of a cycle in each of its phases. -/
def Balances (c : MonitorConfig) (l : CycleLog) : CyclePhase → Prop
  | .thisNode _ => l = empty
  | .reading report => l = empty ∧ ∃ available,
      report = { CycleReport.zero with localAvailable := available }
  | .probing report targets =>
      l.Accounts c report targets [] ∧ l.admitted = [] ∧ l.inserted = []
  | .applying report results =>
      l.Accounts c report (results.map Prod.fst) [] ∧ l.admitted = [] ∧ l.inserted = []
  | .seeking report _ found => l.Accounts c report [] found
  | .probingSeeds report targets => l.Accounts c report [] targets
  | .admitting report results => l.Accounts c report [] (results.map Prod.fst)
  | .finished report => l.BearsOut c report

theorem balances_first (c : MonitorConfig) : empty.Balances c (.first c) := by
  unfold CyclePhase.first
  cases c.localAddress with
  | some address => exact rfl
  | none => exact ⟨rfl, false, rfl⟩

/-- The accounts balance after the next step of a cycle. -/
theorem Balances.advance {phase : CyclePhase} (h : l.Balances c phase) {f : Fleet}
    (hconsistent : f.registry.IsConsistent) {answered : Address → Capability → Prop}
    (hstems : phase.StemsFrom c answered) (arrival : Arrival) :
    (l.append (phase.log c f arrival)).Balances c (phase.advance c f arrival).2 := by
  cases phase with
  | thisNode address =>
      cases arrival with
      | thisNode answer => exact ⟨(append_empty l).trans h, answer.available, rfl⟩
      | nothing => exact (append_empty l).trans h
      | outcome o => exact (append_empty l).trans h
      | outcomes results => exact (append_empty l).trans h
  | reading report =>
      obtain ⟨rfl, available, rfl⟩ := h
      exact ⟨accounts_read c available hconsistent.nodup_ids_targets, rfl, rfl⟩
  | probing report targets =>
      have hlog : l.append ((CyclePhase.probing report targets).log c f arrival) = l := by
        cases arrival <;> exact append_empty l
      rw [hlog]
      cases arrival with
      | outcomes results =>
          simp only [CyclePhase.advance]
          split
          · next hmatches => exact ⟨h.1.of_perm (List.isPerm_iff.1 hmatches) .nil, h.2⟩
          · exact h
      | nothing => exact h
      | thisNode answer => exact h
      | outcome o => exact h
  | applying report results =>
      obtain ⟨haccounts, hadmitted, hinserted⟩ := h
      cases results with
      | nil => exact (append_empty l).symm ▸ haccounts
      | cons result rest =>
          rw [CyclePhase.log_applying]
          refine ⟨haccounts.apply hadmitted hinserted f, ?_, ?_⟩
          · simp [append, empty, hadmitted]
          · simp [append, empty, hinserted]
  | seeking report seeds found =>
      cases seeds with
      | nil => exact (append_empty l).symm ▸ h
      | cons seed rest =>
          refine Accounts.find h fun target htarget => ?_
          obtain ⟨address, haddress, rfl⟩ := List.mem_map.1 htarget
          rw [List.mem_singleton.1 (List.mem_filter.1 haddress).1]
          exact ⟨hstems.1 seed List.mem_cons_self, rfl⟩
  | probingSeeds report targets =>
      have hlog : l.append ((CyclePhase.probingSeeds report targets).log c f arrival) = l := by
        cases arrival <;> exact append_empty l
      rw [hlog]
      cases arrival with
      | outcomes results =>
          simp only [CyclePhase.advance]
          split
          · next hmatches => exact Accounts.of_perm h .nil (List.isPerm_iff.1 hmatches)
          · exact h
      | nothing => exact h
      | thisNode answer => exact h
      | outcome o => exact h
  | admitting report results =>
      cases results with
      | nil =>
          rw [CyclePhase.log_completing c hconsistent]
          obtain ⟨files, hcomplete⟩ := Cycle.exists_complete_eq c f report
          simp only [CyclePhase.advance, hcomplete]
          exact Accounts.bearsOut { h with }
      | cons result rest =>
          rw [CyclePhase.log_admitting c hconsistent]
          exact Accounts.admit h f
  | finished report => exact (append_empty l).symm ▸ h

end CycleLog

namespace Traffic

variable {place : Nat}

/-- The accounts of the cycle at a place balance after every run. -/
theorem balances_run {f : Fleet} {moves : List Move} {c : MonitorConfig} {phase : CyclePhase}
    (hcall : ((start f).run moves).calls[place]? = some (.cycling c phase)) :
    ((start f).cycleLog place moves).Balances c phase := by
  induction moves using List.reverseRecOn generalizing phase with
  | nil => cases hcall
  | append_singleton moves m ih =>
      rw [run_concat] at hcall
      rw [cycleLog_concat]
      cases hold : ((start f).run moves).calls[place]? with
      | some old =>
          rcases getElem?_calls_step (m := m) hold with
            ⟨hmove, hsame⟩ | ⟨arrival, rfl, hnext⟩ | hdropped
          · rw [logOf_of_ne hmove, CycleLog.append_empty]
            exact ih (hold.trans (hsame.symm.trans hcall))
          · obtain ⟨phase', rfl, rfl⟩ :=
              eq_cycling_of_advance (Option.some.inj (hcall.symm.trans hnext))
            rw [logOf_proceed hold]
            exact (ih hold).advance (isConsistent_run f moves) (stemsFrom_run hold) arrival
          · cases hcall.symm.trans hdropped
      | none =>
          rw [cycleLog_eq_empty hold, logOf_of_none hold, CycleLog.empty_append]
          rcases call_step hcall with hsame | ⟨arrival, call, -, hcall', -⟩ | ⟨-, hbegun⟩ | hdropped
          · cases hold.symm.trans hsame
          · cases hold.symm.trans hcall'
          · rw [eq_first_of_begun hbegun]
            exact CycleLog.balances_first c
          · cases hdropped

/-- The report of a finished cycle, the events that it told and the entries that it gave to the
error window agree, whatever else went on meanwhile. -/
theorem cycle_tells_one_story {f : Fleet} {moves : List Move} {place : Nat} {c : MonitorConfig}
    {report : CycleReport}
    (hfinished : ((start f).run moves).calls[place]? = some (.cycling c (.finished report))) :
    let t := start f
    (∀ before arrival after, moves = before ++ .proceed place arrival :: after →
      let log := (t.run before).logOf place (.proceed place arrival)
      (t.run (before ++ [.proceed place arrival])).fleet.events =
        (t.run before).fleet.events.map (· ++ log.told) ∧
      (t.run (before ++ [.proceed place arrival])).fleet.errors =
        Cycle.pushAll log.recorded (t.run before).fleet.errors) ∧
    (t.cycleLog place moves).BearsOut c report := by
  intro t
  refine ⟨fun before arrival after _ => ?_, balances_run hfinished⟩
  rw [run_concat]
  exact events_errors_step (t.run before) place arrival

/-- The settings of a cycle that probes two seeds. -/
def withTwoSeeds : MonitorConfig :=
  { MonitorConfig.builtin with seeds := [⟨"10.0.0.4", defaultPort⟩, ⟨"10.0.0.5", defaultPort⟩] }

/-- What the probe of a host that refuses it brings. -/
def refusedAt (host : String) : Outcome :=
  .error ⟨(Address.mk host defaultPort).text, .network "refused"⟩

/-- A cycle probes three peers, one of which refuses; another is removed before its answer is
applied. Then it probes two seeds, the second of which refuses. -/
def fiveProbes : List Move :=
  [.access (.enroll ⟨"a", ⟨"10.0.0.1", defaultPort⟩, .unseen⟩),
    .access (.enroll ⟨"b", ⟨"10.0.0.2", defaultPort⟩, .unseen⟩),
    .access (.enroll ⟨"c", ⟨"10.0.0.3", defaultPort⟩, .unseen⟩), .cycle withTwoSeeds,
    .proceed 0 .nothing,
    .proceed 0 (.outcomes [(⟨"c", ⟨"10.0.0.3", defaultPort⟩⟩, .ok .unseen),
      (⟨"b", ⟨"10.0.0.2", defaultPort⟩⟩, refusedAt "10.0.0.2"),
      (⟨"a", ⟨"10.0.0.1", defaultPort⟩⟩, .ok .unseen)]),
    .access (.remove "c"),
    .proceed 0 .nothing, .proceed 0 .nothing, .proceed 0 .nothing, .proceed 0 .nothing,
    .proceed 0 .nothing, .proceed 0 .nothing, .proceed 0 .nothing,
    .proceed 0 (.outcomes [(⟨"10.0.0.4:11434", ⟨"10.0.0.4", defaultPort⟩⟩, .ok .unseen),
      (⟨"10.0.0.5:11434", ⟨"10.0.0.5", defaultPort⟩⟩, refusedAt "10.0.0.5")]),
    .proceed 0 .nothing, .proceed 0 .nothing, .proceed 0 .nothing]

theorem cycle_tells_one_story_fiveProbes :
    let log := (start quiet).cycleLog 0 fiveProbes
    let report : CycleReport := ⟨1, 3, 1, 1, 1, false⟩
    ((start quiet).run fiveProbes).calls[0]? =
      some (.cycling withTwoSeeds (.finished report)) ∧
    log.told.getLast? = some (.completed report) ∧
    log.told.countP ProbeEvent.isSuccess = 1 ∧
    log.told.countP ProbeEvent.isFailure = 1 ∧
    log.told.countP ProbeEvent.isDiscovery = 1 ∧
    1 = log.inserted.length ∧
    log.recorded.map (fun entry => entry.2.peerId) = ["b", "10.0.0.5:11434"] ∧
    1 = log.applied.countP fun a => a.2.2.isOk && (a.1.get? a.2.1.id).isNone := by
  intro log report
  have hfinished : ((start quiet).run fiveProbes).calls[0]? =
      some (.cycling withTwoSeeds (.finished report)) := rfl
  obtain ⟨-, hlog⟩ := cycle_tells_one_story hfinished
  have hgone : 3 = 1 + 1 +
      log.applied.countP fun a => a.2.2.isOk && (a.1.get? a.2.1.id).isNone := hlog.gone
  refine ⟨hfinished, ?_, hlog.successes, hlog.failures, hlog.discoveries, hlog.inserted, ?_,
    by omega⟩
  · exact (congrArg List.getLast? hlog.told).trans List.getLast?_concat
  · have hnames := congrArg (List.map Prod.fst) hlog.recorded
    simp only [List.map_map] at hnames
    exact hnames.trans rfl

end Traffic

end InferenceFleet
