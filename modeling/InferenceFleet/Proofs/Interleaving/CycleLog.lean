import InferenceFleet.Proofs.Interleaving.Consistency
import InferenceFleet.Proofs.Monitor.Outcomes
import Mathlib.Data.List.Nodup

/-!
# The log of a cycle

A cycle is followed in two ways while it goes on: by the events it tells, and by the failures it
leaves in the error window. Both are set down step by step (`CyclePhase.log`), beside what there was
to set down: the peers that were read, the outcomes that were applied and the registry that each of
them met, the seeds that were found and their outcomes, and the peers that came into the registry.
`log_applying`, `log_admitting` and `log_completing` say what the steps leave behind that leave
behind more than they find, and `events_errors_step` that it is left behind for whoever listens and
whatever the error window holds.
-/

namespace InferenceFleet

/-- What some steps of a cycle leave behind, and what they had to work on. -/
structure CycleLog where
  /-- The events that were told. -/
  told : List ProbeEvent
  /-- The entries that the error window was given. -/
  recorded : List (Duration × ProbeFailure)
  /-- The registered peers that were read to be probed. -/
  read : List Target
  /-- The outcomes of registered peers that were applied, each with the registry it met. -/
  applied : List (Registry × Target × Outcome)
  /-- The seeds that were found to be probed. -/
  found : List Target
  /-- The outcomes of seeds that were applied. -/
  admitted : List (Target × Outcome)
  /-- The peers that came into the registry when outcomes of seeds were applied. -/
  inserted : List Peer

namespace CycleLog

/-- Nothing happened. -/
def empty : CycleLog := ⟨[], [], [], [], [], [], []⟩

/-- What some steps leave behind, and then some more. -/
def append (l l' : CycleLog) : CycleLog :=
  ⟨l.told ++ l'.told, l.recorded ++ l'.recorded, l.read ++ l'.read, l.applied ++ l'.applied,
    l.found ++ l'.found, l.admitted ++ l'.admitted, l.inserted ++ l'.inserted⟩

theorem empty_append (l : CycleLog) : empty.append l = l := rfl

theorem append_empty (l : CycleLog) : l.append empty = l := by simp [append, empty]

theorem append_assoc (l l' l'' : CycleLog) :
    (l.append l').append l'' = l.append (l'.append l'') := by
  simp [append, List.append_assoc]

end CycleLog

namespace CyclePhase

/-- What the next step of a cycle leaves behind. The events are those that a listener hears who has
heard nothing yet, and the entries are those of a window that was empty. -/
def log (c : MonitorConfig) (f : Fleet) (phase : CyclePhase) (arrival : Arrival) : CycleLog where
  told := (phase.advance c { f with events := some [] } arrival).1.events.getD []
  recorded := (phase.advance c { f with errors := .empty f.errors.span } arrival).1.errors.entries
  read :=
    match phase with
    | .reading _ => Cycle.targets f
    | _ => []
  applied :=
    match phase with
    | .applying _ (result :: _) => [(f.registry, result)]
    | _ => []
  found :=
    match phase with
    | .seeking _ (seed :: _) _ => Cycle.candidates f [seed]
    | _ => []
  admitted :=
    match phase with
    | .admitting _ (result :: _) => [result]
    | _ => []
  inserted :=
    match phase with
    | .admitting _ _ =>
        (phase.advance c f arrival).1.registry.snapshot.filter fun p =>
          (f.registry.get? p.id).isNone
    | _ => []

end CyclePhase

/-- What the next step of a call leaves behind if it is a cycle. -/
def Call.log (f : Fleet) : Call → Arrival → CycleLog
  | .cycling c phase, arrival => phase.log c f arrival
  | _, _ => .empty

namespace Traffic

/-- What a move leaves behind if it takes the cycle at a place a step further. -/
def logOf (t : Traffic) (place : Nat) : Move → CycleLog
  | .proceed place' arrival =>
      if place' = place then (t.calls[place]?.map fun call => call.log t.fleet arrival).getD .empty
      else .empty
  | _ => .empty

/-- What the cycle at a place leaves behind in the course of a run. -/
def cycleLog (t : Traffic) (place : Nat) : List Move → CycleLog
  | [] => .empty
  | m :: rest => (t.logOf place m).append ((t.step m).cycleLog place rest)

theorem cycleLog_concat (t : Traffic) (place : Nat) (moves : List Move) (m : Move) :
    t.cycleLog place (moves ++ [m]) =
      (t.cycleLog place moves).append ((t.run moves).logOf place m) := by
  induction moves generalizing t with
  | nil => exact CycleLog.append_empty _
  | cons first rest ih =>
      rw [List.cons_append, cycleLog, ih, ← CycleLog.append_assoc]
      rfl

end Traffic

namespace Cycle

/-- The entry of the error window that an outcome leads to. -/
def entryOf? (clock : Clock) (result : Target × Outcome) : Option (Duration × ProbeFailure) :=
  (failureOf? result).map fun failure =>
    (clock.now.elapsed, .of failure.1 failure.2 clock.now.wall)

/-- An error window that was given some entries. -/
def pushAll (entries : List (Duration × ProbeFailure)) (window : ErrorWindow) : ErrorWindow :=
  entries.foldl (fun window entry => window.push entry.1 entry.2) window

/-- The peer that the outcome of a seed brings into a registry. -/
def enrolled? (r : Registry) : Target × Outcome → Option Peer
  | (_, .error _) => none
  | (target, .ok answer) =>
      if r.refusal? (Peer.named target.address none answer) = none then
        some (Peer.named target.address none answer)
      else none

/-- The event of a peer that was taken in. -/
def discovery (p : Peer) : ProbeEvent := .discovered p.id p.address

theorem errors_applyOutcome (f : Fleet) (report : CycleReport) (result : Target × Outcome) :
    (applyOutcome (f, report) result).1.errors =
      pushAll (entryOf? f.clock result).toList f.errors := by
  obtain ⟨target, outcome⟩ := result
  cases outcome with
  | ok answer =>
      simp only [applyOutcome, Fleet.update]
      cases f.registry.update target.id answer f.clock.now.wall <;> rfl
  | error e =>
      obtain ⟨registry, hmarked⟩ := exists_markUnavailable_eq f target.id
      simp only [applyOutcome, hmarked]
      rfl

/-- What one outcome of a seed does to the fleet, and to the number of peers taken in. -/
theorem applySeed_eq (f : Fleet) (discovered : Nat) (result : Target × Outcome) :
    applySeed (f, discovered) result =
      match enrolled? f.registry result with
      | some p =>
          (({ f with registry := f.registry.store p } : Fleet).emit (discovery p), discovered + 1)
      | none =>
          match failureOf? result with
          | some failure => (f.recordFailure failure.1 failure.2, discovered)
          | none => (f, discovered) := by
  obtain ⟨target, outcome⟩ := result
  cases outcome with
  | ok answer =>
      simp only [applySeed, enrolled?, Registry.enroll]
      cases f.registry.refusal? (Peer.named target.address none answer) <;> rfl
  | error e => rfl

end Cycle

namespace CyclePhase

/-- The events that the next step of a cycle tells. -/
def eventsOf (f : Fleet) : CyclePhase → List ProbeEvent
  | .applying _ (result :: _) => (Cycle.eventOf? f.registry result).toList
  | .admitting _ (result :: _) =>
      ((Cycle.enrolled? f.registry result).map Cycle.discovery).toList
  | .admitting report [] => [.completed { report with cycle := f.completed + 1 }]
  | _ => []

/-- The entries that the next step of a cycle gives to the error window. -/
def entriesOf (f : Fleet) : CyclePhase → List (Duration × ProbeFailure)
  | .applying _ (result :: _) => (Cycle.entryOf? f.clock result).toList
  | .admitting _ (result :: _) => (Cycle.entryOf? f.clock result).toList
  | _ => []

theorem events_advance (c : MonitorConfig) (f : Fleet) (phase : CyclePhase) (arrival : Arrival) :
    (phase.advance c f arrival).1.events = f.events.map (· ++ phase.eventsOf f) := by
  have hnothing : f.events.map (· ++ []) = f.events := by simp
  cases phase with
  | thisNode address => cases arrival <;> exact hnothing.symm
  | reading report => exact hnothing.symm
  | probing report targets => cases arrival <;> exact hnothing.symm
  | applying report results =>
      cases results with
      | nil => exact hnothing.symm
      | cons result rest =>
          refine (Cycle.leaves_applyOutcome f report result).events.trans ?_
          cases hevent : Cycle.eventOf? f.registry result <;> simp [eventsOf, hevent]
  | seeking report seeds found => cases seeds <;> exact hnothing.symm
  | probingSeeds report targets => cases arrival <;> exact hnothing.symm
  | admitting report results =>
      cases results with
      | nil =>
          obtain ⟨files, hcomplete⟩ := Cycle.exists_complete_eq c f report
          simp only [advance, hcomplete]
          rfl
      | cons result rest =>
          simp only [advance, eventsOf, Cycle.applySeed_eq]
          cases Cycle.enrolled? f.registry result with
          | some p => rfl
          | none => cases Cycle.failureOf? result <;> exact hnothing.symm
  | finished report => exact hnothing.symm

theorem errors_advance (c : MonitorConfig) (f : Fleet) (phase : CyclePhase) (arrival : Arrival) :
    (phase.advance c f arrival).1.errors = Cycle.pushAll (phase.entriesOf f) f.errors := by
  cases phase with
  | thisNode address => cases arrival <;> rfl
  | reading report => rfl
  | probing report targets => cases arrival <;> rfl
  | applying report results =>
      cases results with
      | nil => rfl
      | cons result rest => exact Cycle.errors_applyOutcome f report result
  | seeking report seeds found => cases seeds <;> rfl
  | probingSeeds report targets => cases arrival <;> rfl
  | admitting report results =>
      cases results with
      | nil =>
          obtain ⟨files, hcomplete⟩ := Cycle.exists_complete_eq c f report
          simp only [advance, hcomplete]
          rfl
      | cons result rest =>
          obtain ⟨target, outcome⟩ := result
          simp only [advance, entriesOf, Cycle.applySeed_eq]
          cases outcome with
          | ok answer =>
              cases Cycle.enrolled? f.registry (target, .ok answer) <;> rfl
          | error e => rfl
  | finished report => rfl

theorem told_log (c : MonitorConfig) (f : Fleet) (phase : CyclePhase) (arrival : Arrival) :
    (phase.log c f arrival).told = phase.eventsOf f := by
  show (phase.advance c { f with events := some [] } arrival).1.events.getD [] = _
  rw [events_advance]
  rfl

theorem recorded_log (c : MonitorConfig) (f : Fleet) (phase : CyclePhase) (arrival : Arrival) :
    (phase.log c f arrival).recorded = phase.entriesOf f := by
  show (phase.advance c { f with errors := .empty f.errors.span } arrival).1.errors.entries = _
  rw [errors_advance]
  -- no step gives more than one entry, so none is pushed out again by the next
  have hone : ∀ entry : Option (Duration × ProbeFailure),
      (Cycle.pushAll entry.toList (.empty f.errors.span)).entries = entry.toList := by
    intro entry
    cases entry <;> rfl
  cases phase with
  | applying report results =>
      cases results with
      | nil => rfl
      | cons result rest => exact hone _
  | admitting report results =>
      cases results with
      | nil => rfl
      | cons result rest => exact hone _
  | thisNode address => rfl
  | reading report => rfl
  | probing report targets => rfl
  | seeking report seeds found => rfl
  | probingSeeds report targets => rfl
  | finished report => rfl

end CyclePhase

/-- The next step of a call tells just what its log holds, to whoever listens, and gives the error
window just the entries that its log holds. -/
theorem Call.events_errors_advance (f : Fleet) (call : Call) (arrival : Arrival) :
    (call.advance f arrival).1.events = f.events.map (· ++ (call.log f arrival).told) ∧
    (call.advance f arrival).1.errors = Cycle.pushAll (call.log f arrival).recorded f.errors := by
  have hnothing : f.events = f.events.map (· ++ []) := by simp
  cases call with
  | cycling c phase =>
      simp only [log, CyclePhase.told_log, CyclePhase.recorded_log]
      exact ⟨CyclePhase.events_advance c f phase arrival,
        CyclePhase.errors_advance c f phase arrival⟩
  | adding candidate =>
      cases arrival with
      | outcome o =>
          simp only [advance]
          cases f.registry.enrollProbed candidate o.toOption <;> exact ⟨hnothing, rfl⟩
      | nothing => exact ⟨hnothing, rfl⟩
      | thisNode answer => exact ⟨hnothing, rfl⟩
      | outcomes results => exact ⟨hnothing, rfl⟩
  | loading report index entries =>
      cases entries with
      | nil => exact ⟨hnothing, rfl⟩
      | cons entry rest =>
          simp only [advance]
          cases f.registry.loadEntry entry <;> exact ⟨hnothing, rfl⟩
  | added result => exact ⟨hnothing, rfl⟩
  | loaded result => exact ⟨hnothing, rfl⟩
  | dropped => exact ⟨hnothing, rfl⟩

/-! ## What comes into the registry -/

namespace Registry

/-- Peers of a registry are not new to it. -/
theorem IsConsistent.filter_snapshot_eq_nil {r : Registry} (h : r.IsConsistent) :
    r.snapshot.filter (fun p => (r.get? p.id).isNone) = [] := by
  rw [List.filter_eq_nil_iff]
  intro p hp hnone
  rw [h.mem_snapshot_iff.1 hp] at hnone
  cases hnone

/-- A peer that is not refused is new, and nothing else is. -/
theorem IsConsistent.filter_snapshot_store {r : Registry} (h : r.IsConsistent) {p : Peer}
    (hadmitted : r.refusal? p = none) :
    (r.store p).snapshot.filter (fun q => (r.get? q.id).isNone) = [p] := by
  have hafter : (r.store p).IsConsistent := perform_enroll hadmitted ▸ h.perform (.enroll p)
  have hfresh : r.get? p.id = none := (refusal?_eq_none_iff.1 hadmitted).2.2
  have hnodup : (r.store p).snapshot.Nodup :=
    hafter.snapshot_ascending.imp fun hlt heq => String.ne_of_lt hlt (congrArg Peer.id heq)
  refine List.perm_singleton.1 ((List.perm_ext_iff_of_nodup (hnodup.filter _)
    (List.nodup_singleton p)).2 fun q => ?_)
  rw [List.mem_filter, hafter.mem_snapshot_iff, get?_store, List.mem_singleton]
  constructor
  · rintro ⟨hget, hnew⟩
    by_cases hid : p.id = q.id
    · rw [if_pos hid] at hget
      exact (Option.some.inj hget).symm
    · rw [if_neg hid] at hget
      rw [hget] at hnew
      cases hnew
  · rintro rfl
    exact ⟨if_pos rfl, by rw [hfresh]; rfl⟩

end Registry

namespace Cycle

theorem snapshot_applySeed {f : Fleet} (h : f.registry.IsConsistent) (discovered : Nat)
    (result : Target × Outcome) :
    (applySeed (f, discovered) result).1.registry.snapshot.filter
      (fun p => (f.registry.get? p.id).isNone) = (enrolled? f.registry result).toList := by
  rw [applySeed_eq]
  cases henrolled : enrolled? f.registry result with
  | none => cases failureOf? result <;> exact h.filter_snapshot_eq_nil
  | some p =>
      obtain ⟨target, outcome⟩ := result
      cases outcome with
      | error e => cases henrolled
      | ok answer =>
          simp only [enrolled?] at henrolled
          split at henrolled
          · next hadmitted =>
              cases henrolled
              exact h.filter_snapshot_store hadmitted
          · cases henrolled

end Cycle

namespace CyclePhase

theorem log_eq (c : MonitorConfig) (f : Fleet) (phase : CyclePhase) (arrival : Arrival) :
    phase.log c f arrival =
      { phase.log c f arrival with told := phase.eventsOf f, recorded := phase.entriesOf f } := by
  rw [← told_log c f phase arrival, ← recorded_log c f phase arrival]

theorem log_applying (c : MonitorConfig) (f : Fleet) (report : CycleReport)
    (result : Target × Outcome) (rest : List (Target × Outcome)) (arrival : Arrival) :
    (applying report (result :: rest)).log c f arrival =
      { CycleLog.empty with
        told := (Cycle.eventOf? f.registry result).toList
        recorded := (Cycle.entryOf? f.clock result).toList
        applied := [(f.registry, result)] } :=
  (log_eq c f _ arrival).trans rfl

theorem log_admitting (c : MonitorConfig) {f : Fleet} (h : f.registry.IsConsistent)
    (report : CycleReport) (result : Target × Outcome) (rest : List (Target × Outcome))
    (arrival : Arrival) :
    (admitting report (result :: rest)).log c f arrival =
      { CycleLog.empty with
        told := ((Cycle.enrolled? f.registry result).map Cycle.discovery).toList
        recorded := (Cycle.entryOf? f.clock result).toList
        admitted := [result]
        inserted := (Cycle.enrolled? f.registry result).toList } := by
  rw [← Cycle.snapshot_applySeed h report.discovered result]
  exact (log_eq c f _ arrival).trans rfl

theorem log_completing (c : MonitorConfig) {f : Fleet} (h : f.registry.IsConsistent)
    (report : CycleReport) (arrival : Arrival) :
    (admitting report []).log c f arrival =
      { CycleLog.empty with
        told := [.completed { report with cycle := f.completed + 1 }] } := by
  have hnone : (Cycle.complete c f report).1.registry.snapshot.filter
      (fun p => (f.registry.get? p.id).isNone) = [] := by
    rw [Cycle.complete_registry]
    exact h.filter_snapshot_eq_nil
  refine (log_eq c f _ arrival).trans ?_
  exact congrArg (fun inserted => CycleLog.mk _ [] [] [] [] [] inserted) hnone

end CyclePhase

namespace Traffic

variable {t : Traffic} {place : Nat}

theorem logOf_proceed {call : Call} {arrival : Arrival} (hcall : t.calls[place]? = some call) :
    t.logOf place (.proceed place arrival) = call.log t.fleet arrival := by
  simp only [logOf, if_true, hcall]
  rfl

/-- A move that does not take the call at a place further leaves nothing behind there. -/
theorem logOf_of_ne {m : Move} (hmove : ∀ arrival, m ≠ .proceed place arrival) :
    t.logOf place m = .empty := by
  cases m with
  | proceed place' arrival =>
      exact if_neg fun heq => hmove arrival (congrArg (Move.proceed · arrival) heq)
  | access a => rfl
  | add address name => rfl
  | load path => rfl
  | cycle c => rfl
  | drop place' => rfl
  | beside f => rfl

theorem logOf_of_none {m : Move} (hnone : t.calls[place]? = none) : t.logOf place m = .empty := by
  by_cases hmove : ∃ arrival, m = .proceed place arrival
  · obtain ⟨arrival, rfl⟩ := hmove
    simp only [logOf, if_true, hnone]
    rfl
  · exact logOf_of_ne fun arrival heq => hmove ⟨arrival, heq⟩

/-- Where no call is yet, none has left anything behind. -/
theorem cycleLog_eq_empty {moves : List Move} (hnone : (t.run moves).calls[place]? = none) :
    t.cycleLog place moves = .empty := by
  induction moves using List.reverseRecOn with
  | nil => rfl
  | append_singleton moves m ih =>
      rw [run_concat] at hnone
      have hbefore : (t.run moves).calls[place]? = none := by
        cases hold : (t.run moves).calls[place]? with
        | none => rfl
        | some old =>
            rcases getElem?_calls_step hold with ⟨-, hsame⟩ | ⟨arrival, -, hnext⟩ | hdropped
            · cases hnone.symm.trans hsame
            · cases hnone.symm.trans hnext
            · cases hnone.symm.trans hdropped
      rw [cycleLog_concat, ih hbefore, logOf_of_none hbefore, CycleLog.empty_append]

/-- A move that takes the call at a place further tells just what its log holds, to whoever listens,
and gives the error window just the entries that its log holds. -/
theorem events_errors_step (t : Traffic) (place : Nat) (arrival : Arrival) :
    (t.step (.proceed place arrival)).fleet.events =
      t.fleet.events.map (· ++ (t.logOf place (.proceed place arrival)).told) ∧
    (t.step (.proceed place arrival)).fleet.errors =
      Cycle.pushAll (t.logOf place (.proceed place arrival)).recorded t.fleet.errors := by
  cases hcall : t.calls[place]? with
  | none =>
      rw [logOf_of_none hcall]
      simp only [step, hcall]
      exact ⟨by simp [CycleLog.empty], rfl⟩
  | some call =>
      rw [logOf_proceed hcall, step_proceed hcall]
      exact call.events_errors_advance t.fleet arrival

end Traffic

end InferenceFleet
