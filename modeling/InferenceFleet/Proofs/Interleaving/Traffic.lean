import InferenceFleet.Monitor.Cycle
import InferenceFleet.Proofs.Registry.Access
import Mathlib.Data.List.Induction

/-!
# Traffic on a fleet

Any number of calls may be under way on one fleet at a time. A call takes the shared state in
single steps, each with at most one access to the registry, and between two of its steps the others
take theirs: adding a peer checks it first and enrolls it after its probe, loading a file goes
through its records one by one, and a cycle enters this node, reads the registered peers, applies
their outcomes one by one, looks the seeds up one by one, takes in those that answered one by one,
and saves. What the network brings is arbitrary, except that a batch brings one outcome for each of
its targets. Calls that make a single access are moves of their own, as is whatever happens beside
the registry, and a call may be dropped at any time.

A run is a list of moves. A move that is not possible changes nothing, so the runs are all the ways
in which calls can interleave. `step_registry` says what one move does to the registry, `call_step`
where the call at a place comes from, and `getElem?_calls_step` what becomes of it.
-/

namespace InferenceFleet

/-- How far a cycle has come. -/
inductive CyclePhase
  /-- The answer of this node is awaited. -/
  | thisNode (address : Address)
  /-- The registered peers are read next. -/
  | reading (report : CycleReport)
  /-- The outcomes of the registered peers are awaited. -/
  | probing (report : CycleReport) (targets : List Target)
  /-- The outcomes of the registered peers that are still to be applied. -/
  | applying (report : CycleReport) (results : List (Target × Outcome))
  /-- The seeds that are still to be looked up, and those found at hosts where no peer is. -/
  | seeking (report : CycleReport) (seeds : List Address) (found : List Target)
  /-- The outcomes of the seeds are awaited. -/
  | probingSeeds (report : CycleReport) (targets : List Target)
  /-- The outcomes of the seeds that are still to be applied. -/
  | admitting (report : CycleReport) (results : List (Target × Outcome))
  | finished (report : CycleReport)

/-- A call under way, or what came of it. -/
inductive Call
  /-- A peer that was checked and is being probed. -/
  | adding (candidate : Peer)
  | added (result : Except RegistryError String)
  /-- The records of a file that are still to be gone through, the first of which has the place
  `index`. -/
  | loading (report : LoadReport) (index : Nat) (entries : List Tree)
  | loaded (result : Except RegistryError LoadReport)
  | cycling (settings : MonitorConfig) (phase : CyclePhase)
  | dropped

/-- What a call was waiting for. -/
inductive Arrival
  | nothing
  | thisNode (c : Capability)
  | outcome (o : Outcome)
  /-- The outcomes of a batch, in the order they came. -/
  | outcomes (results : List (Target × Outcome))

/-- Something that happens to a fleet. -/
inductive Move
  /-- A call that is done with one access. -/
  | access (a : Access)
  | add (address : Address) (name : Option String)
  | load (path : String)
  | cycle (settings : MonitorConfig)
  /-- The next step of the call at a place. -/
  | proceed (place : Nat) (arrival : Arrival)
  | drop (place : Nat)
  /-- Everything but the registry becomes what it is in another fleet: time passes, files change,
  events are taken. -/
  | beside (f : Fleet)

namespace CyclePhase

/-- The first phase of a cycle, with the lock held. -/
def first (c : MonitorConfig) : CyclePhase :=
  match c.localAddress with
  | some address => .thisNode address
  | none => .reading .zero

/-- Whether a batch of targets can bring some outcomes: one for each target, in any order. -/
def matchesTargets (targets : List Target) (results : List (Target × Outcome)) : Bool :=
  (results.map Prod.fst).isPerm targets

/-- The next step of a cycle. -/
def advance (c : MonitorConfig) (f : Fleet) : CyclePhase → Arrival → Fleet × CyclePhase
  | .thisNode address, .thisNode answer =>
      (Cycle.applyLocal f address answer, .reading (Cycle.localReport answer))
  | .reading report, _ =>
      let targets := Cycle.targets f
      (f, .probing { report with probed := targets.length } targets)
  | .probing report targets, .outcomes results =>
      (f, if matchesTargets targets results then .applying report results
        else .probing report targets)
  | .applying report (result :: rest), _ =>
      let (f, report) := Cycle.applyOutcome (f, report) result
      (f, .applying report rest)
  | .applying report [], _ => (f, .seeking report c.seeds [])
  | .seeking report (seed :: rest) found, _ =>
      (f, .seeking report rest (found ++ Cycle.candidates f [seed]))
  | .seeking report [] found, _ => (f, .probingSeeds report found)
  | .probingSeeds report targets, .outcomes results =>
      (f, if matchesTargets targets results then .admitting report results
        else .probingSeeds report targets)
  | .admitting report (result :: rest), _ =>
      let (f, discovered) := Cycle.applySeed (f, report.discovered) result
      (f, .admitting { report with discovered := discovered } rest)
  | .admitting report [], _ =>
      let (f, report) := Cycle.complete c f report
      (f, .finished report)
  | phase, _ => (f, phase)

/-- The access that a cycle makes with its next step. -/
def access? (f : Fleet) : CyclePhase → Arrival → Option Access
  | .thisNode address, .thisNode answer => some (.registerLocal address answer)
  | .applying _ ((target, .ok c) :: _), _ => some (.update target.id c f.clock.now.wall)
  | .applying _ ((target, .error _) :: _), _ => some (.markUnavailable target.id)
  | .admitting _ ((target, .ok c) :: _), _ => some (.enroll (Peer.named target.address none c))
  | _, _ => none

end CyclePhase

namespace Call

/-- Begins to add a peer. -/
def add (f : Fleet) (address : Address) (name : Option String) : Call :=
  match f.registry.candidate address name with
  | .error e => .added (.error e)
  | .ok candidate => .adding candidate

/-- Begins to load a file. -/
def load (f : Fleet) (path : String) : Call :=
  match Registry.textOf f.files path with
  | .error e => .loaded (.error e)
  | .ok none => .loaded (.ok .zero)
  | .ok (some text) =>
      match Registry.entriesOf path text with
      | .error e => .loaded (.error e)
      | .ok entries => .loading .zero 0 entries

/-- The next step of a call. -/
def advance (f : Fleet) : Call → Arrival → Fleet × Call
  | .adding candidate, .outcome o =>
      match f.registry.enrollProbed candidate o.toOption with
      | .error e => (f, .added (.error e))
      | .ok registry => ({ f with registry := registry }, .added (.ok candidate.id))
  | .loading report index (entry :: rest), _ =>
      match f.registry.loadEntry entry with
      | .error reason =>
          (f, .loading { report with skipped := report.skipped ++ [(index, reason)] } (index + 1)
            rest)
      | .ok registry =>
          ({ f with registry := registry },
            .loading { report with loaded := report.loaded + 1 } (index + 1) rest)
  | .loading report _ [], _ => (f, .loaded (.ok report))
  | .cycling c phase, arrival =>
      let (f, phase) := phase.advance c f arrival
      (f, .cycling c phase)
  | call, _ => (f, call)

/-- The access that a call makes with its next step. -/
def access? (f : Fleet) : Call → Arrival → Option Access
  | .adding candidate, .outcome o =>
      some (.enroll { candidate with capability := o.toOption.getD .unseen })
  | .loading _ _ (entry :: _), _ => (Registry.peerOfEntry entry).toOption.map .enroll
  | .cycling _ phase, arrival => phase.access? f arrival
  | _, _ => none

end Call

/-- A fleet and the calls on it, by their places. -/
structure Traffic where
  fleet : Fleet
  calls : List Call

namespace Traffic

/-- No calls yet, and no peers. -/
def start (f : Fleet) : Traffic := ⟨{ f with registry := ∅ }, []⟩

/-- The registry of the fleet. -/
def registry (t : Traffic) : Registry := t.fleet.registry

/-- The traffic after a move. -/
def step (t : Traffic) : Move → Traffic
  | .access a => { t with fleet := { t.fleet with registry := t.registry.perform a } }
  | .add address name => { t with calls := t.calls ++ [.add t.fleet address name] }
  | .load path => { t with calls := t.calls ++ [.load t.fleet path] }
  | .cycle c => { t with calls := t.calls ++ [.cycling c (.first c)] }
  | .proceed place arrival =>
      match t.calls[place]? with
      | none => t
      | some call =>
          let (fleet, call) := call.advance t.fleet arrival
          ⟨fleet, t.calls.set place call⟩
  | .drop place => { t with calls := t.calls.set place .dropped }
  | .beside f => { t with fleet := { f with registry := t.registry } }

/-- The access that a move makes. -/
def access? (t : Traffic) : Move → Option Access
  | .access a => some a
  | .proceed place arrival => t.calls[place]?.bind fun call => call.access? t.fleet arrival
  | _ => none

/-- The traffic after a run. -/
def run (t : Traffic) (moves : List Move) : Traffic := moves.foldl step t

@[simp]
theorem run_nil (t : Traffic) : t.run [] = t := rfl

theorem run_append (t : Traffic) (before after : List Move) :
    t.run (before ++ after) = (t.run before).run after := List.foldl_append

theorem run_concat (t : Traffic) (moves : List Move) (m : Move) :
    t.run (moves ++ [m]) = (t.run moves).step m := t.run_append moves [m]

theorem step_proceed {t : Traffic} {place : Nat} {call : Call}
    (hcall : t.calls[place]? = some call) (arrival : Arrival) :
    t.step (.proceed place arrival) =
      ⟨(call.advance t.fleet arrival).1, t.calls.set place (call.advance t.fleet arrival).2⟩ := by
  simp only [step, hcall]

theorem access?_proceed {t : Traffic} {place : Nat} {call : Call}
    (hcall : t.calls[place]? = some call) (arrival : Arrival) :
    t.access? (.proceed place arrival) = call.access? t.fleet arrival := by
  simp only [access?, hcall]
  rfl

end Traffic

/-! ## The access of a step -/

namespace Registry

/-- A record of a file that is taken in is enrolled, and one that is skipped leaves the registry
as it is. -/
theorem orKeep_loadEntry (r : Registry) (entry : Tree) :
    (match r.loadEntry entry with
      | .error _ => r
      | .ok r' => r') = r.performAny ((peerOfEntry entry).toOption.map .enroll) := by
  unfold loadEntry
  cases peerOfEntry entry with
  | error reason => rfl
  | ok peer =>
      simp only [Except.toOption, Option.map_some, performAny, Option.getD_some, perform]
      cases r.enroll peer <;> rfl

end Registry

namespace Cycle

theorem applyOutcome_registry (f : Fleet) (report : CycleReport) (result : Target × Outcome) :
    (applyOutcome (f, report) result).1.registry =
      f.registry.perform
        (match result.2 with
          | .ok c => .update result.1.id c f.clock.now.wall
          | .error _ => .markUnavailable result.1.id) := by
  obtain ⟨target, outcome⟩ := result
  cases outcome with
  | ok c =>
      simp only [applyOutcome, Fleet.update, Registry.perform]
      cases f.registry.update target.id c f.clock.now.wall <;> rfl
  | error e =>
      simp only [applyOutcome, Fleet.markUnavailable, Registry.perform, Fleet.emit_registry,
        Fleet.recordFailure_registry]
      cases f.registry.markUnavailable target.id <;> rfl

theorem applySeed_registry (f : Fleet) (discovered : Nat) (result : Target × Outcome) :
    (applySeed (f, discovered) result).1.registry =
      f.registry.performAny
        (result.2.toOption.map fun c => .enroll (Peer.named result.1.address none c)) := by
  obtain ⟨target, outcome⟩ := result
  cases outcome with
  | ok c =>
      show _ = f.registry.orKeep (f.registry.enroll (Peer.named target.address none c))
      simp only [applySeed]
      cases f.registry.enroll (Peer.named target.address none c) <;> rfl
  | error e => rfl

/-- Completing a cycle may write a file; else it is counting and telling. -/
theorem exists_complete_eq (c : MonitorConfig) (f : Fleet) (report : CycleReport) :
    ∃ files, complete c f report =
      (({ f with files := files, completed := f.completed + 1 } : Fleet).emit
        (.completed { report with cycle := f.completed + 1 }),
        { report with cycle := f.completed + 1 }) := by
  have hpersist : ∃ files, persist c f report = { f with files := files } := by
    unfold persist
    cases c.peersFile with
    | none => exact ⟨f.files, rfl⟩
    | some path =>
        dsimp only
        split
        · exact ⟨_, rfl⟩
        · exact ⟨f.files, rfl⟩
  obtain ⟨files, hfiles⟩ := hpersist
  exact ⟨files, by rw [complete, hfiles]⟩

@[simp]
theorem complete_registry (c : MonitorConfig) (f : Fleet) (report : CycleReport) :
    (complete c f report).1.registry = f.registry := by
  obtain ⟨files, hcomplete⟩ := exists_complete_eq c f report
  rw [hcomplete]
  rfl

end Cycle

namespace CyclePhase

theorem advance_registry (c : MonitorConfig) (f : Fleet) (phase : CyclePhase)
    (arrival : Arrival) :
    (phase.advance c f arrival).1.registry = f.registry.performAny (phase.access? f arrival) := by
  cases phase with
  | thisNode address => cases arrival <;> rfl
  | reading report => rfl
  | probing report targets => cases arrival <;> rfl
  | applying report results =>
      cases results with
      | nil => rfl
      | cons result rest =>
          obtain ⟨target, outcome⟩ := result
          simp only [advance, Cycle.applyOutcome_registry]
          cases outcome <;> rfl
  | seeking report seeds found => cases seeds <;> rfl
  | probingSeeds report targets => cases arrival <;> rfl
  | admitting report results =>
      cases results with
      | nil => simp only [advance, Cycle.complete_registry]; rfl
      | cons result rest =>
          obtain ⟨target, outcome⟩ := result
          simp only [advance, Cycle.applySeed_registry]
          cases outcome <;> rfl
  | finished report => rfl

end CyclePhase

namespace Call

theorem advance_registry (f : Fleet) (call : Call) (arrival : Arrival) :
    (call.advance f arrival).1.registry = f.registry.performAny (call.access? f arrival) := by
  cases call with
  | adding candidate =>
      cases arrival with
      | outcome o =>
          show _ = f.registry.orKeep (f.registry.enrollProbed candidate o.toOption)
          simp only [advance]
          cases f.registry.enrollProbed candidate o.toOption <;> rfl
      | nothing => rfl
      | thisNode c => rfl
      | outcomes results => rfl
  | added result => rfl
  | loading report index entries =>
      cases entries with
      | nil => rfl
      | cons entry rest =>
          have hload := Registry.orKeep_loadEntry f.registry entry
          simp only [advance, access?]
          rw [← hload]
          cases f.registry.loadEntry entry <;> rfl
  | loaded result => rfl
  | cycling c phase => exact CyclePhase.advance_registry c f phase arrival
  | dropped => rfl

end Call

namespace Traffic

/-- What a move does to the registry: the access that it makes, if it makes one. -/
theorem step_registry (t : Traffic) (m : Move) :
    (t.step m).registry = t.registry.performAny (t.access? m) := by
  cases m with
  | proceed place arrival =>
      simp only [step, access?]
      cases t.calls[place]? with
      | none => rfl
      | some call => exact call.advance_registry t.fleet arrival
  | access a => rfl
  | add address name => rfl
  | load path => rfl
  | cycle c => rfl
  | drop place => rfl
  | beside f => rfl

/-- The call that a move begins. -/
def begun? (t : Traffic) : Move → Option Call
  | .add address name => some (.add t.fleet address name)
  | .load path => some (.load t.fleet path)
  | .cycle c => some (.cycling c (.first c))
  | _ => none

/-- What leads up to an item of a list that was made longer leads up to the new last, or to an item
that was there before. -/
theorem prefix_concat_cases {α : Type} {items before : List α} {last item : α}
    (hbegin : before ++ [item] <+: items ++ [last]) :
    (before = items ∧ item = last) ∨ before ++ [item] <+: items := by
  rcases List.prefix_concat_iff.1 hbegin with heq | hearlier
  · obtain ⟨hbefore, hitem⟩ := List.append_inj' heq rfl
    exact .inl ⟨hbefore, List.singleton_inj.1 hitem⟩
  · exact .inr hearlier

/-- What is in a place of a list that was made longer was there before, or is the new last. -/
theorem getElem?_concat_cases {α : Type} {items : List α} {new item : α} {place : Nat}
    (hget : (items ++ [new])[place]? = some item) :
    items[place]? = some item ∨ place = items.length ∧ new = item := by
  rcases Nat.lt_trichotomy place items.length with hlt | rfl | hgt
  · rw [List.getElem?_append_left hlt] at hget
    exact .inl hget
  · rw [List.getElem?_concat_length] at hget
    exact .inr ⟨rfl, Option.some.inj hget⟩
  · have hlength : (items ++ [new]).length ≤ place := by
      rw [List.length_append]
      exact hgt
    rw [List.getElem?_eq_none hlength] at hget
    cases hget

/-- What is in a place of a list after one place was set was there before, or was put there. -/
theorem getElem?_set_cases {α : Type} {items : List α} {new item : α} {place place' : Nat}
    (hget : (items.set place' new)[place]? = some item) :
    items[place]? = some item ∨ place' = place ∧ item = new := by
  rw [List.getElem?_set] at hget
  split at hget
  · next heq =>
      split at hget
      · exact .inr ⟨heq, (Option.some.inj hget).symm⟩
      · cases hget
  · exact .inl hget

/-- The call at a place after a move: the one that was there, that one a step further, one that the
move begins there, or a dropped one. -/
theorem call_step {t : Traffic} {m : Move} {place : Nat} {call : Call}
    (hcall : (t.step m).calls[place]? = some call) :
    t.calls[place]? = some call ∨
      (∃ arrival old, m = .proceed place arrival ∧ t.calls[place]? = some old ∧
        call = (old.advance t.fleet arrival).2) ∨
      (place = t.calls.length ∧ t.begun? m = some call) ∨ call = .dropped := by
  have hbegins : ∀ new : Call, (t.calls ++ [new])[place]? = some call → t.begun? m = some new →
      t.calls[place]? = some call ∨ place = t.calls.length ∧ t.begun? m = some call := by
    intro new hget hbegun
    rcases getElem?_concat_cases hget with hold | ⟨hplace, rfl⟩
    · exact .inl hold
    · exact .inr ⟨hplace, hbegun⟩
  cases m with
  | access a => exact .inl hcall
  | beside f => exact .inl hcall
  | add address name => exact (hbegins _ hcall rfl).imp_right fun hnew => .inr (.inl hnew)
  | load path => exact (hbegins _ hcall rfl).imp_right fun hnew => .inr (.inl hnew)
  | cycle c => exact (hbegins _ hcall rfl).imp_right fun hnew => .inr (.inl hnew)
  | drop place' =>
      rcases getElem?_set_cases hcall with hold | ⟨-, rfl⟩
      · exact .inl hold
      · exact .inr (.inr (.inr rfl))
  | proceed place' arrival =>
      simp only [step] at hcall
      cases hplace : t.calls[place']? with
      | none =>
          rw [hplace] at hcall
          exact .inl hcall
      | some old =>
          rw [hplace] at hcall
          rcases getElem?_set_cases hcall with hold | ⟨rfl, rfl⟩
          · exact .inl hold
          · exact .inr (.inl ⟨arrival, old, rfl, hplace, rfl⟩)

/-- A call that is there is a step further after a move that asks it to go on; else it is as it was,
or dropped. -/
theorem getElem?_calls_step {t : Traffic} {m : Move} {place : Nat} {old : Call}
    (hold : t.calls[place]? = some old) :
    ((∀ arrival, m ≠ .proceed place arrival) ∧ (t.step m).calls[place]? = some old) ∨
      (∃ arrival, m = .proceed place arrival ∧
        (t.step m).calls[place]? = some (old.advance t.fleet arrival).2) ∨
      (t.step m).calls[place]? = some .dropped := by
  have hlt : place < t.calls.length := (List.getElem?_eq_some_iff.1 hold).1
  have happended : ∀ new : Call, (t.calls ++ [new])[place]? = some old := by
    intro new
    rw [List.getElem?_append_left hlt, hold]
  cases m with
  | access a => exact .inl ⟨nofun, hold⟩
  | beside f => exact .inl ⟨nofun, hold⟩
  | add address name => exact .inl ⟨nofun, happended _⟩
  | load path => exact .inl ⟨nofun, happended _⟩
  | cycle c => exact .inl ⟨nofun, happended _⟩
  | drop other =>
      by_cases hplace : other = place
      · subst hplace
        exact .inr (.inr (List.getElem?_set_self hlt))
      · exact .inl ⟨nofun, (List.getElem?_set_ne hplace).trans hold⟩
  | proceed other arrival =>
      by_cases hplace : other = place
      · subst hplace
        refine .inr (.inl ⟨arrival, rfl, ?_⟩)
        rw [step_proceed hold]
        exact List.getElem?_set_self hlt
      · refine .inl ⟨fun arrival' heq => hplace (Move.proceed.inj heq).1, ?_⟩
        simp only [step]
        cases t.calls[other]? with
        | none => exact hold
        | some call => exact (List.getElem?_set_ne hplace).trans hold

/-- What a cycle has at the beginning of a run, and what the moves beside it and its own steps leave
it, it has after the run, unless it is dropped. -/
theorem cycling_run {t : Traffic} {place : Nat} {moves : List Move} {c : MonitorConfig}
    {phase : CyclePhase} (has : List Move → CyclePhase → Prop)
    (hcall : t.calls[place]? = some (.cycling c phase)) (hbegin : has [] phase)
    (hbeside : ∀ before m phase, before ++ [m] <+: moves →
      (∀ arrival, m ≠ .proceed place arrival) → has before phase → has (before ++ [m]) phase)
    (hown : ∀ before arrival phase, (t.run before).calls[place]? = some (.cycling c phase) →
      has before phase →
        has (before ++ [.proceed place arrival]) (phase.advance c (t.run before).fleet arrival).2) :
    (t.run moves).calls[place]? = some .dropped ∨
      ∃ phase, (t.run moves).calls[place]? = some (.cycling c phase) ∧ has moves phase := by
  induction moves using List.reverseRecOn with
  | nil => exact .inr ⟨phase, hcall, hbegin⟩
  | append_singleton moves m ih =>
      have hearlier := ih fun before m' phase hbegins =>
        hbeside before m' phase (hbegins.trans (List.prefix_append moves [m]))
      rw [run_concat]
      rcases hearlier with hdropped | ⟨phase', hcall', hhas⟩
      · -- A dropped call stays where it is, whatever it is asked to do.
        rcases getElem?_calls_step (m := m) hdropped with ⟨-, hsame⟩ | ⟨arrival, -, hnext⟩ | hagain
        · exact .inl hsame
        · exact .inl hnext
        · exact .inl hagain
      · rcases getElem?_calls_step (m := m) hcall' with
          ⟨hother, hsame⟩ | ⟨arrival, rfl, hnext⟩ | hdropped
        · exact .inr ⟨phase', hsame, hbeside moves m phase' List.prefix_rfl hother hhas⟩
        · exact .inr ⟨_, hnext, hown moves arrival phase' hcall' hhas⟩
        · exact .inl hdropped

end Traffic

end InferenceFleet
