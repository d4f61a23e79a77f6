import InferenceFleet.Proofs.Interleaving.Consistency

/-!
# Where the outcome of a probe lands

A cycle reads the registered peers, probes their addresses, and applies what the probes brought by
identifier. What is stored under an identifier may be another peer by then: the one that was read
may have been removed and another enrolled in its place. So an outcome lands on the address that
was probed exactly if no peer was enrolled under that identifier since the read, or the last one
was enrolled at that address. Removal alone does no harm, as the outcome then lands nowhere.
-/

namespace InferenceFleet

namespace Traffic

/-- The address at which a move enrolls a peer under an identifier. -/
def enrolled? (t : Traffic) (id : String) (m : Move) : Option Address :=
  match t.access? m with
  | some (.enroll p) =>
      if p.id = id ∧ t.registry.refusal? p = none then some p.address else none
  | _ => none

/-- The address at which a run last enrolls a peer under an identifier. -/
def lastEnrolled? (t : Traffic) (id : String) : List Move → Option Address
  | [] => none
  | m :: rest => ((t.step m).lastEnrolled? id rest).or (t.enrolled? id m)

/-- A remote peer that is there after a move was enrolled by it, or was at the same address before
and nothing was enrolled in its place. -/
theorem address_step {t : Traffic} {m : Move} {id : String} {p : Peer} (hremote : id ≠ localId)
    (hget : (t.step m).registry.get? id = some p) :
    t.enrolled? id m = some p.address ∨
      t.enrolled? id m = none ∧ ∃ q, t.registry.get? id = some q ∧ q.address = p.address := by
  rw [step_registry] at hget
  unfold enrolled?
  cases haccess : t.access? m with
  | none =>
      rw [haccess] at hget
      exact .inr ⟨rfl, p, hget, rfl⟩
  | some a =>
      rw [haccess] at hget
      rcases Registry.kept_or_enrolled hremote hget with ⟨q, hq, -, haddress⟩ | ⟨rfl, hid, hrefusal⟩
      · refine .inr ⟨?_, q, hq, haddress⟩
        cases a with
        | enroll candidate =>
            refine if_neg ?_
            rintro ⟨hid, hrefusal⟩
            have hfree := (Registry.refusal?_eq_none_iff.1 hrefusal).2.2
            rw [hid, hq] at hfree
            cases hfree
        | registerLocal address c => rfl
        | update key c now => rfl
        | markUnavailable key => rfl
        | remove key => rfl
      · exact .inl (if_pos ⟨hid, hrefusal⟩)

/-- A remote peer that is there after a run is at the address at which the run last enrolled one
under its identifier; if it enrolled none, the peer was there before, at the same address. -/
theorem address_run {t : Traffic} {moves : List Move} {id : String} {p : Peer}
    (hremote : id ≠ localId) (hget : (t.run moves).registry.get? id = some p) :
    t.lastEnrolled? id moves = some p.address ∨
      t.lastEnrolled? id moves = none ∧
        ∃ q, t.registry.get? id = some q ∧ q.address = p.address := by
  induction moves generalizing t with
  | nil => exact .inr ⟨rfl, p, hget, rfl⟩
  | cons m rest ih =>
      rcases ih hget with hlast | ⟨hnone, q, hq, haddress⟩
      · exact .inl (by simp [lastEnrolled?, hlast])
      · rw [lastEnrolled?, hnone, Option.none_or, ← haddress]
        exact address_step hremote hq

/-- The targets whose outcomes a call waits for or has yet to apply to registered peers. -/
def awaited : Call → List Target
  | .cycling _ (.probing _ targets) => targets
  | .cycling _ (.applying _ results) => results.map Prod.fst
  | _ => []

/-- After a run, the cycle at a place is about to read a target off the registry. -/
def Reads (t : Traffic) (before : List Move) (place : Nat) (target : Target) : Prop :=
  (∃ c report, (t.run before).calls[place]? = some (.cycling c (.reading report))) ∧
    target ∈ Cycle.targets (t.run before).fleet

/-- What a call awaits it awaited before, or reads it off the registry. -/
theorem mem_awaited_advance {f : Fleet} {call : Call} {arrival : Arrival} {target : Target}
    (hmem : target ∈ awaited (call.advance f arrival).2) :
    target ∈ awaited call ∨
      (∃ c report, call = .cycling c (.reading report)) ∧ target ∈ Cycle.targets f := by
  -- Reading is the one step that brings targets in; every other keeps them or drops some.
  cases call with
  | adding candidate =>
      cases arrival with
      | outcome o =>
          simp only [Call.advance] at hmem
          split at hmem <;> cases hmem
      | nothing => cases hmem
      | thisNode c => cases hmem
      | outcomes results => cases hmem
  | added result => cases hmem
  | loading report index entries =>
      cases entries with
      | nil => cases hmem
      | cons entry rest =>
          simp only [Call.advance] at hmem
          split at hmem <;> cases hmem
  | loaded result => cases hmem
  | cycling c phase =>
      cases phase with
      | thisNode address => cases arrival <;> cases hmem
      | reading report => exact .inr ⟨⟨c, report, rfl⟩, hmem⟩
      | probing report targets =>
          cases arrival with
          | outcomes results =>
              simp only [Call.advance, CyclePhase.advance] at hmem
              split at hmem
              · next hmatches =>
                  have hperm : (results.map Prod.fst).Perm targets :=
                    List.isPerm_iff.1 hmatches
                  exact .inl (hperm.mem_iff.1 hmem)
              · exact .inl hmem
          | nothing => exact .inl hmem
          | thisNode answer => exact .inl hmem
          | outcome o => exact .inl hmem
      | applying report results =>
          cases results with
          | nil => cases hmem
          | cons result rest => exact .inl (List.mem_cons_of_mem _ hmem)
      | seeking report seeds found => cases seeds <;> cases hmem
      | probingSeeds report targets =>
          cases arrival with
          | outcomes results =>
              simp only [Call.advance, CyclePhase.advance] at hmem
              split at hmem <;> cases hmem
          | nothing => cases hmem
          | thisNode answer => cases hmem
          | outcome o => cases hmem
      | admitting report results => cases results <;> cases hmem
      | finished report => cases hmem
  | dropped => cases hmem

theorem awaited_add (f : Fleet) (address : Address) (name : Option String) :
    awaited (.add f address name) = [] := by
  unfold Call.add
  split <;> rfl

theorem awaited_load (f : Fleet) (path : String) : awaited (.load f path) = [] := by
  unfold Call.load
  split
  · rfl
  · rfl
  · split <;> rfl

theorem awaited_first (c : MonitorConfig) : awaited (.cycling c (.first c)) = [] := by
  unfold CyclePhase.first
  split <;> rfl

/-- A call that begins awaits nothing. -/
theorem awaited_of_begun {t : Traffic} {m : Move} {call : Call} (hbegun : t.begun? m = some call) :
    awaited call = [] := by
  cases m with
  | add address name =>
      cases hbegun
      exact awaited_add t.fleet address name
  | load path =>
      cases hbegun
      exact awaited_load t.fleet path
  | cycle c =>
      cases hbegun
      exact awaited_first c
  | access a => cases hbegun
  | proceed place arrival => cases hbegun
  | drop place => cases hbegun
  | beside f => cases hbegun

/-- What a call awaits after a run it read off the registry in the course of the run. -/
theorem read_of_awaited {f : Fleet} {moves : List Move} {place : Nat} {call : Call}
    {target : Target} (hcall : ((start f).run moves).calls[place]? = some call)
    (hmem : target ∈ awaited call) :
    ∃ before arrival after, moves = before ++ .proceed place arrival :: after ∧
      (start f).Reads before place target := by
  induction moves using List.reverseRecOn generalizing call with
  | nil => cases hcall
  | append_singleton moves m ih =>
      have hearlier : (∃ before arrival after, moves = before ++ .proceed place arrival :: after ∧
          (start f).Reads before place target) →
          ∃ before arrival after, moves ++ [m] = before ++ .proceed place arrival :: after ∧
            (start f).Reads before place target := by
        rintro ⟨before, arrival, after, rfl, hreads⟩
        exact ⟨before, arrival, after ++ [m], by simp, hreads⟩
      rw [run_concat] at hcall
      rcases call_step hcall with hold | ⟨arrival, old, rfl, hold, rfl⟩ | ⟨-, hbegun⟩ | rfl
      · exact hearlier (ih hold hmem)
      · rcases mem_awaited_advance hmem with hbefore | ⟨⟨c, report, rfl⟩, htarget⟩
        · exact hearlier (ih hold hbefore)
        · exact ⟨moves, arrival, [], rfl, ⟨c, report, hold⟩, htarget⟩
      · rw [awaited_of_begun hbegun] at hmem
        cases hmem
      · cases hmem

/-- What an outcome makes of a peer that it is applied to. -/
def landed (f : Fleet) (p : Peer) (outcome : Outcome) : Peer :=
  match outcome with
  | .ok c => { p with capability := Registry.refreshed p.capability c f.clock.now.wall }
  | .error _ => { p with capability := { p.capability with available := false } }

/-- The next step of a cycle that has an outcome to apply: what is stored under the name of the
target takes the outcome in, whatever it is, and nothing else changes. -/
theorem get?_step_applying {t : Traffic} {place : Nat} {c : MonitorConfig} {report : CycleReport}
    {target : Target} {outcome : Outcome} {rest : List (Target × Outcome)}
    (hcall : t.calls[place]? =
      some (.cycling c (.applying report ((target, outcome) :: rest))))
    (arrival : Arrival) (id : String) :
    (t.step (.proceed place arrival)).registry.get? id =
      if target.id = id then (t.registry.get? target.id).map fun p => landed t.fleet p outcome
      else t.registry.get? id := by
  rw [step_registry]
  cases outcome with
  | ok answer =>
      have haccess : t.access? (.proceed place arrival) =
          some (.update target.id answer t.fleet.clock.now.wall) := access?_proceed hcall arrival
      rw [haccess]
      exact Registry.get?_perform t.registry (.update target.id answer t.fleet.clock.now.wall) id
  | error e =>
      have haccess : t.access? (.proceed place arrival) = some (.markUnavailable target.id) :=
        access?_proceed hcall arrival
      rw [haccess]
      exact Registry.get?_perform t.registry (.markUnavailable target.id) id

/-- A target that is read off a registry is a remote peer at its address there. -/
theorem exists_of_mem_targets {f : Fleet} {target : Target} (hconsistent : f.registry.IsConsistent)
    (hmem : target ∈ Cycle.targets f) :
    target.id ≠ localId ∧ ∃ q, f.registry.get? target.id = some q ∧ q.address = target.address := by
  obtain ⟨q, hq, rfl⟩ := List.mem_map.1 hmem
  obtain ⟨hsnapshot, hremote⟩ := List.mem_filter.1 hq
  refine ⟨?_, q, hconsistent.mem_snapshot_iff.1 hsnapshot, rfl⟩
  intro hlocal
  have hislocal : q.isLocal = true := by simpa [Peer.isLocal] using hlocal
  rw [hislocal] at hremote
  cases hremote

/-- An outcome that a cycle applies to a peer lands on the address that was probed exactly if, since
the cycle read that address, no peer was enrolled under the same identifier or the last one was
enrolled at that address. -/
theorem lands_where_probed_iff {f : Fleet} {moves : List Move} {place : Nat} {c : MonitorConfig}
    {report : CycleReport} {target : Target} {outcome : Outcome}
    {rest : List (Target × Outcome)} {p : Peer}
    (hcall : ((start f).run moves).calls[place]? =
      some (.cycling c (.applying report ((target, outcome) :: rest))))
    (hget : ((start f).run moves).registry.get? target.id = some p) :
    (∀ arrival, (((start f).run moves).step (.proceed place arrival)).registry.get? target.id =
      some (landed ((start f).run moves).fleet p outcome)) ∧
    ∃ before arrival after, moves = before ++ .proceed place arrival :: after ∧
      (start f).Reads before place target ∧
      (p.address = target.address ↔
        ∀ address,
          ((start f).run (before ++ [.proceed place arrival])).lastEnrolled? target.id after =
            some address → address = target.address) := by
  constructor
  · intro arrival
    rw [get?_step_applying hcall, if_pos rfl, hget]
    rfl
  · have hawaited :
        target ∈ awaited (.cycling c (.applying report ((target, outcome) :: rest))) :=
      List.mem_cons_self
    obtain ⟨before, arrival, after, rfl, hreads⟩ := read_of_awaited hcall hawaited
    refine ⟨before, arrival, after, rfl, hreads, ?_⟩
    obtain ⟨⟨c₀, report₀, hreading⟩, htarget⟩ := hreads
    -- The peer that was read is followed from there on; only an enrolment moves it elsewhere.
    obtain ⟨hremote, q, hq, hqaddress⟩ :=
      exists_of_mem_targets (isConsistent_run f before) htarget
    have hread : ((start f).run (before ++ [.proceed place arrival])).registry.get? target.id =
        some q := by
      rw [run_concat, step_registry, access?_proceed hreading]
      exact hq
    have hsplit : before ++ .proceed place arrival :: after =
        (before ++ [.proceed place arrival]) ++ after := by simp
    rw [hsplit, run_append] at hget
    rcases address_run hremote hget with hlast | ⟨hnone, q', hq', haddress⟩
    · rw [hlast]
      constructor
      · intro hsame address heq
        rw [← Option.some.inj heq, hsame]
      · intro hall
        exact hall p.address rfl
    · rw [hread] at hq'
      obtain rfl := Option.some.inj hq'
      rw [hnone, ← haddress, hqaddress]
      constructor
      · intro _ address heq
        cases heq
      · intro _
        rfl

/-- A fleet without files, whose clock stands still. -/
def quiet : Fleet :=
  { registry := ∅, files := ⟨.empty, []⟩, faults := .none, errors := .empty 0, events := none,
    completed := 0, clock := .steady .epoch 0 }

/-- A peer at a host. -/
def nodeAt (host : String) : Peer := ⟨"node", ⟨host, defaultPort⟩, .unseen⟩

/-- The peer as a cycle reads it. -/
def readNode : Target := ⟨"node", ⟨"10.0.0.1", defaultPort⟩⟩

/-- What the probe of the peer brings. -/
def nodeAnswer : Outcome := .ok { Capability.unseen with available := true }

/-- While its probe is under way, the peer is removed and enrolled again, at a host. -/
def replacedAt (host : String) : List Move :=
  [.access (.enroll (nodeAt "10.0.0.1")), .cycle .builtin, .proceed 0 .nothing,
    .access (.remove "node"), .access (.enroll (nodeAt host)),
    .proceed 0 (.outcomes [(readNode, nodeAnswer)])]

theorem lands_where_probed_iff_replacedAt :
    let t := (start quiet).run (replacedAt "10.0.0.1")
    t.calls[0]? = some (.cycling .builtin
      (.applying { CycleReport.zero with probed := 1 } [(readNode, nodeAnswer)])) ∧
    t.registry.get? "node" = some (nodeAt "10.0.0.1") ∧
    (∀ arrival, (t.step (.proceed 0 arrival)).registry.get? "node" =
      some (landed t.fleet (nodeAt "10.0.0.1") nodeAnswer)) ∧
    ∃ before arrival after, replacedAt "10.0.0.1" = before ++ .proceed 0 arrival :: after ∧
      (start quiet).Reads before 0 readNode ∧
      ((nodeAt "10.0.0.1").address = readNode.address ↔
        ∀ address,
          ((start quiet).run (before ++ [.proceed 0 arrival])).lastEnrolled? "node" after =
            some address → address = readNode.address) := by
  intro t
  have hcall : t.calls[0]? = some (.cycling .builtin
      (.applying { CycleReport.zero with probed := 1 } [(readNode, nodeAnswer)])) := rfl
  have hget : t.registry.get? readNode.id = some (nodeAt "10.0.0.1") := rfl
  exact ⟨hcall, hget, lands_where_probed_iff hcall hget⟩

/-- Not every outcome that changes a peer comes from the address of that peer: the answer of a peer
that was removed is taken for the answer of the one that was enrolled in its place. -/
theorem lands_elsewhere :
    ¬ ∀ (f : Fleet) (moves : List Move) (place : Nat) (c : MonitorConfig) (report : CycleReport)
        (target : Target) (outcome : Outcome) (rest : List (Target × Outcome)) (p : Peer),
      ((start f).run moves).calls[place]? =
          some (.cycling c (.applying report ((target, outcome) :: rest))) →
      ((start f).run moves).registry.get? target.id = some p →
      (((start f).run moves).step (.proceed place .nothing)).registry.get? target.id ≠ some p →
      p.address = target.address := by
  intro hall
  have hsame : (nodeAt "10.0.0.2").address = readNode.address :=
    hall quiet (replacedAt "10.0.0.2") 0 .builtin { CycleReport.zero with probed := 1 } readNode
      nodeAnswer [] (nodeAt "10.0.0.2") rfl rfl (by decide)
  exact absurd hsame (by decide)

end Traffic

end InferenceFleet
