import InferenceFleet.Proofs.Interleaving.Consistency
import InferenceFleet.Proofs.Probe.Soundness
import InferenceFleet.Proofs.Registry.PeerFile

/-!
# Peers are sound in all traffic

Peers that are added or loaded are checked, and a capability that was probed over HTTP is sound. So
in traffic where peers come in by calls and capabilities by HTTP, all remote peers are sound, provided
that the seeds of all cycles are at sound addresses, which a cycle does not check (`isRegular_run`).

This is an invariant of moves, and it takes in the calls that are under way: what a call is going to
enter has been checked before, or is going to be.
-/

namespace InferenceFleet

/-- A peer that is named as peers are and sound. -/
structure Peer.IsRegular (p : Peer) : Prop where
  isNamed : p.IsNamed
  isSound : p.IsSound

/-- Whether and when a node answered has no part in the soundness of what is known of it. -/
theorem Capability.IsSound.stamped {c : Capability} (h : c.IsSound) (available : Bool)
    (lastSeen : Timestamp) :
    ({ c with available := available, lastSeen := lastSeen } : Capability).IsSound := h

theorem Peer.IsRegular.with_capability {p : Peer} (h : p.IsRegular) {c : Capability}
    (hc : c.IsSound) : ({ p with capability := c } : Peer).IsRegular :=
  ⟨h.isNamed, h.isSound.1, hc⟩

theorem Capability.isSound_unseen : Capability.unseen.IsSound := by
  decide

/-- An access that enters what is regular only. -/
def Access.IsRegular : Access → Prop
  | .enroll p => p.IsRegular
  | .update _ c _ => c.IsSound
  | _ => True

namespace Registry

/-- All remote peers are regular. -/
def IsRegular (r : Registry) : Prop := ∀ id p, id ≠ localId → r.get? id = some p → p.IsRegular

theorem IsRegular.perform {r : Registry} (h : r.IsRegular) {a : Access} (ha : a.IsRegular) :
    (r.perform a).IsRegular := by
  intro id p hremote hget
  rw [get?_perform] at hget
  split at hget
  · next hid =>
      subst hid
      cases a with
      | enroll q =>
          simp only [Access.entry] at hget
          split at hget
          · cases hget
            exact ha
          · exact h _ p hremote hget
      | registerLocal address c => exact absurd rfl hremote
      | update key c now =>
          obtain ⟨q, hq, rfl⟩ := Option.map_eq_some_iff.1 hget
          have hc : c.IsSound := ha
          exact (h _ q hremote hq).with_capability (hc.stamped _ _)
      | markUnavailable key =>
          obtain ⟨q, hq, rfl⟩ := Option.map_eq_some_iff.1 hget
          have hknown := h _ q hremote hq
          exact hknown.with_capability (hknown.isSound.2.stamped _ _)
      | remove key => cases hget
  · exact h id p hremote hget

theorem IsRegular.performAny {r : Registry} (h : r.IsRegular) {a : Option Access}
    (ha : ∀ b, a = some b → b.IsRegular) : (r.performAny a).IsRegular := by
  cases a with
  | none => exact h
  | some a => exact h.perform (ha a rfl)

/-- What a record of a file has enrolled is the peer of it. -/
theorem exists_of_entry_access {entry : Tree} {a : Access}
    (h : (peerOfEntry entry).toOption.map .enroll = some a) :
    ∃ p, peerOfEntry entry = .ok p ∧ a = .enroll p := by
  cases hentry : peerOfEntry entry with
  | error reason => simp [hentry, Except.toOption] at h
  | ok p =>
      rw [hentry] at h
      exact ⟨p, rfl, (Option.some.inj h).symm⟩

/-- The peer of a record in a file is regular. -/
theorem isRegular_of_peerOfEntry {entry : Tree} {p : Peer} (h : peerOfEntry entry = .ok p) :
    p.IsRegular := by
  obtain ⟨record, -, hpeer⟩ := peerOfEntry_eq_ok_iff.1 h
  obtain ⟨hsound, hnamed⟩ := PeerRecord.toPeer_eq_ok_iff.1 hpeer
  exact ⟨hnamed ▸ Peer.isNamed_named _ _ _, hsound⟩

/-- A candidate is a peer at a sound address that there is no reason yet not to enroll. -/
theorem candidate_eq_ok_iff {r : Registry} {address : Address} {name : Option String} {p : Peer} :
    r.candidate address name = .ok p ↔
      address.IsSound ∧ r.refusal? (Peer.named address name .unseen) = none ∧
        p = Peer.named address name .unseen := by
  rw [← Address.check_eq_ok_iff]
  unfold candidate
  cases address.check with
  | error e => simp
  | ok sound =>
      dsimp only
      cases r.refusal? (Peer.named address name .unseen) <;> simp [eq_comm]

/-- A peer that is about to be added is regular: its address was checked. -/
theorem isRegular_of_candidate {r : Registry} {address : Address} {name : Option String} {p : Peer}
    (h : r.candidate address name = .ok p) : p.IsRegular := by
  obtain ⟨hsound, -, rfl⟩ := candidate_eq_ok_iff.1 h
  exact ⟨Peer.isNamed_named _ _ _, hsound, Capability.isSound_unseen⟩

end Registry

/-! ## Calls -/

/-- What a probe brought is sound, if it brought anything. -/
def BringsSound (o : Outcome) : Prop := ∀ c, o = .ok c → c.IsSound

/-- What a call waited for is sound. -/
def Arrival.IsRegular : Arrival → Prop
  | .outcome o => BringsSound o
  | .outcomes results => ∀ result ∈ results, BringsSound result.2
  | _ => True

/-- All that a cycle has in hand for the registry is sound. -/
def CyclePhase.IsRegular : CyclePhase → Prop
  | .applying _ results => ∀ result ∈ results, BringsSound result.2
  | .seeking _ seeds found =>
      (∀ seed ∈ seeds, seed.IsSound) ∧ ∀ target ∈ found, target.address.IsSound
  | .probingSeeds _ targets => ∀ target ∈ targets, target.address.IsSound
  | .admitting _ results => ∀ result ∈ results, result.1.address.IsSound ∧ BringsSound result.2
  | _ => True

/-- All that a call has in hand for the registry is sound. -/
def Call.IsRegular : Call → Prop
  | .adding candidate => candidate.IsRegular
  | .cycling c phase => (∀ seed ∈ c.seeds, seed.IsSound) ∧ phase.IsRegular
  | _ => True

theorem isSound_getD_toOption {o : Outcome} (h : BringsSound o) :
    (o.toOption.getD .unseen).IsSound := by
  cases o with
  | ok c => exact h c rfl
  | error e => exact Capability.isSound_unseen

theorem CyclePhase.IsRegular.access {f : Fleet} {phase : CyclePhase} {arrival : Arrival}
    (h : phase.IsRegular) {a : Access} (haccess : phase.access? f arrival = some a) :
    a.IsRegular := by
  cases phase with
  | thisNode address =>
      cases arrival with
      | thisNode answer =>
          obtain rfl := Option.some.inj haccess
          trivial
      | nothing => cases haccess
      | outcome o => cases haccess
      | outcomes results => cases haccess
  | applying report results =>
      cases results with
      | nil => cases haccess
      | cons result rest =>
          obtain ⟨target, outcome⟩ := result
          have hresult := h _ List.mem_cons_self
          cases outcome with
          | ok c =>
              obtain rfl := Option.some.inj haccess
              exact hresult c rfl
          | error e =>
              obtain rfl := Option.some.inj haccess
              trivial
  | admitting report results =>
      cases results with
      | nil => cases haccess
      | cons result rest =>
          obtain ⟨target, outcome⟩ := result
          have hresult := h _ List.mem_cons_self
          cases outcome with
          | ok c =>
              obtain rfl := Option.some.inj haccess
              exact ⟨Peer.isNamed_named _ _ _, hresult.1, hresult.2 c rfl⟩
          | error e => cases haccess
  | reading report => cases haccess
  | probing report targets => cases haccess
  | seeking report seeds found => cases haccess
  | probingSeeds report targets => cases haccess
  | finished report => cases haccess

theorem Call.IsRegular.access {f : Fleet} {call : Call} {arrival : Arrival} (h : call.IsRegular)
    (harrival : arrival.IsRegular) {a : Access} (haccess : call.access? f arrival = some a) :
    a.IsRegular := by
  cases call with
  | adding candidate =>
      cases arrival with
      | outcome o =>
          obtain rfl := Option.some.inj haccess
          have hcandidate : candidate.IsRegular := h
          exact hcandidate.with_capability (isSound_getD_toOption harrival)
      | nothing => cases haccess
      | thisNode c => cases haccess
      | outcomes results => cases haccess
  | loading report index entries =>
      cases entries with
      | nil => cases haccess
      | cons entry rest =>
          obtain ⟨p, hpeer, rfl⟩ := Registry.exists_of_entry_access haccess
          exact Registry.isRegular_of_peerOfEntry hpeer
  | cycling c phase => exact h.2.access haccess
  | added result => cases haccess
  | loaded result => cases haccess
  | dropped => cases haccess

theorem CyclePhase.IsRegular.advance {c : MonitorConfig} {f : Fleet} {phase : CyclePhase}
    {arrival : Arrival} (h : phase.IsRegular) (hseeds : ∀ seed ∈ c.seeds, seed.IsSound)
    (harrival : arrival.IsRegular) : (phase.advance c f arrival).2.IsRegular := by
  cases phase with
  | thisNode address => cases arrival <;> trivial
  | reading report => trivial
  | probing report targets =>
      cases arrival with
      | outcomes results =>
          simp only [CyclePhase.advance]
          split
          · exact harrival
          · trivial
      | nothing => trivial
      | thisNode answer => trivial
      | outcome o => trivial
  | applying report results =>
      cases results with
      | nil => exact ⟨hseeds, List.forall_mem_nil _⟩
      | cons result rest => exact (List.forall_mem_cons.1 h).2
  | seeking report seeds found =>
      obtain ⟨hleft, hfound⟩ := h
      cases seeds with
      | nil => exact hfound
      | cons seed rest =>
          obtain ⟨hseed, hrest⟩ := List.forall_mem_cons.1 hleft
          refine ⟨hrest, fun target htarget => ?_⟩
          rcases List.mem_append.1 htarget with hold | hnew
          · exact hfound target hold
          · obtain ⟨a, ha, rfl⟩ := List.mem_map.1 hnew
            obtain rfl := List.mem_singleton.1 (List.mem_filter.1 ha).1
            exact hseed
  | probingSeeds report targets =>
      cases arrival with
      | outcomes results =>
          simp only [CyclePhase.advance]
          split
          · next hmatches =>
              have hperm : (results.map Prod.fst).Perm targets := List.isPerm_iff.1 hmatches
              intro result hresult
              exact ⟨h result.1 (hperm.subset (List.mem_map_of_mem hresult)),
                harrival result hresult⟩
          · exact h
      | nothing => exact h
      | thisNode answer => exact h
      | outcome o => exact h
  | admitting report results =>
      cases results with
      | nil => trivial
      | cons result rest => exact (List.forall_mem_cons.1 h).2
  | finished report => trivial

theorem Call.IsRegular.advance {f : Fleet} {call : Call} {arrival : Arrival} (h : call.IsRegular)
    (harrival : arrival.IsRegular) : (call.advance f arrival).2.IsRegular := by
  cases call with
  | adding candidate =>
      cases arrival with
      | outcome o =>
          simp only [Call.advance]
          split <;> trivial
      | nothing => exact h
      | thisNode c => exact h
      | outcomes results => exact h
  | loading report index entries =>
      cases entries with
      | nil => trivial
      | cons entry rest =>
          simp only [Call.advance]
          split <;> trivial
  | cycling c phase => exact ⟨h.1, h.2.advance h.1 harrival⟩
  | added result => trivial
  | loaded result => trivial
  | dropped => trivial

theorem Call.isRegular_add (f : Fleet) (address : Address) (name : Option String) :
    (Call.add f address name).IsRegular := by
  unfold Call.add
  split
  · trivial
  · next hcandidate => exact Registry.isRegular_of_candidate hcandidate

theorem Call.isRegular_load (f : Fleet) (path : String) : (Call.load f path).IsRegular := by
  unfold Call.load
  split
  · trivial
  · trivial
  · split <;> trivial

theorem Call.isRegular_first {c : MonitorConfig} (hseeds : ∀ seed ∈ c.seeds, seed.IsSound) :
    (Call.cycling c (.first c)).IsRegular := by
  refine ⟨hseeds, ?_⟩
  unfold CyclePhase.first
  split <;> trivial

/-- What is known of a node that answered a probe over HTTP. -/
def ProbedOverHttp (c : Capability) : Prop :=
  ∃ (transport : Transport) (deadline : Duration) (address : Address) (now : Timestamp),
    (Exchange.probe transport deadline address now).2 = .ok c

/-- A move by which peers come in by adding them, by loading a file, or as seeds, and by which what
is known of them comes from probes over HTTP. -/
def Move.IsProbed : Move → Prop
  | .access (.enroll _) => False
  | .access (.update _ c _) => ProbedOverHttp c
  | .proceed _ (.outcome o) => ∀ c, o = .ok c → ProbedOverHttp c
  | .proceed _ (.outcomes results) => ∀ result ∈ results, ∀ c, result.2 = .ok c → ProbedOverHttp c
  | _ => True

/-- A move that begins no cycle with an unsound seed. -/
def Move.HasSoundSeeds : Move → Prop
  | .cycle c => ∀ seed ∈ c.seeds, seed.IsSound
  | _ => True

theorem ProbedOverHttp.isSound {c : Capability} (h : ProbedOverHttp c) : c.IsSound := by
  obtain ⟨transport, deadline, address, now, hprobe⟩ := h
  exact Exchange.isSound_of_probe hprobe

theorem Move.IsProbed.arrival {place : Nat} {arrival : Arrival}
    (h : (Move.proceed place arrival).IsProbed) : arrival.IsRegular := by
  cases arrival with
  | nothing => trivial
  | thisNode c => trivial
  | outcome o => exact fun c hc => (h c hc).isSound
  | outcomes results => exact fun result hresult c hc => (h result hresult c hc).isSound

namespace Traffic

/-- The registry of a fleet and all calls on it are regular. -/
structure IsRegular (t : Traffic) : Prop where
  registry : t.registry.IsRegular
  calls : ∀ call ∈ t.calls, call.IsRegular

theorem isRegular_start (f : Fleet) : (start f).IsRegular where
  registry := by
    intro id p hremote hget
    cases hget
  calls := List.forall_mem_nil _

theorem IsRegular.access {t : Traffic} (h : t.IsRegular) {m : Move} (hm : m.IsProbed) {a : Access}
    (haccess : t.access? m = some a) : a.IsRegular := by
  cases m with
  | access b =>
      obtain rfl := Option.some.inj haccess
      cases b with
      | enroll p => exact hm.elim
      | update id c now => exact hm.isSound
      | registerLocal address c => trivial
      | markUnavailable id => trivial
      | remove id => trivial
  | proceed place arrival =>
      obtain ⟨call, hcall, hstep⟩ := Option.bind_eq_some_iff.1 haccess
      exact (h.calls call (List.mem_of_getElem? hcall)).access hm.arrival hstep
  | add address name => cases haccess
  | load path => cases haccess
  | cycle c => cases haccess
  | drop place => cases haccess
  | beside f => cases haccess

/-- No probed move with sound seeds makes a regular fleet irregular. -/
theorem IsRegular.step {t : Traffic} (h : t.IsRegular) {m : Move} (hm : m.IsProbed)
    (hseeds : m.HasSoundSeeds) : (t.step m).IsRegular where
  registry := by
    rw [step_registry]
    exact h.registry.performAny fun a haccess => h.access hm haccess
  calls := by
    have hbegun : ∀ new : Call, new.IsRegular → ∀ call ∈ t.calls ++ [new], call.IsRegular :=
      fun new hnew => List.forall_mem_append.2 ⟨h.calls, List.forall_mem_singleton.2 hnew⟩
    have hset : ∀ (place : Nat) (new : Call), new.IsRegular →
        ∀ call ∈ t.calls.set place new, call.IsRegular := by
      intro place new hnew call hcall
      rcases List.mem_or_eq_of_mem_set hcall with hold | rfl
      · exact h.calls call hold
      · exact hnew
    cases m with
    | access a => exact h.calls
    | beside f => exact h.calls
    | add address name => exact hbegun _ (Call.isRegular_add t.fleet address name)
    | load path => exact hbegun _ (Call.isRegular_load t.fleet path)
    | cycle c => exact hbegun _ (Call.isRegular_first hseeds)
    | drop place => exact hset place .dropped trivial
    | proceed place arrival =>
        simp only [Traffic.step]
        cases hplace : t.calls[place]? with
        | none => exact h.calls
        | some old =>
            exact hset place _ ((h.calls old (List.mem_of_getElem? hplace)).advance hm.arrival)

/-- After a run of probed moves with sound seeds from no peers, every remote peer is named as peers
are and sound. -/
theorem isRegular_run (f : Fleet) {moves : List Move} (hmoves : ∀ m ∈ moves, m.IsProbed)
    (hseeds : ∀ m ∈ moves, m.HasSoundSeeds) : ((start f).run moves).IsRegular := by
  induction moves using List.reverseRecOn with
  | nil => exact isRegular_start f
  | append_singleton moves m ih =>
      obtain ⟨hmoves, hm⟩ := List.forall_mem_append.1 hmoves
      obtain ⟨hseeds, hmseeds⟩ := List.forall_mem_append.1 hseeds
      rw [run_concat]
      exact (ih hmoves hseeds).step (hm m List.mem_cons_self) (hmseeds m List.mem_cons_self)

end Traffic

end InferenceFleet
