import InferenceFleet.Probe.Exchange
import InferenceFleet.Proofs.Interleaving.Frame
import InferenceFleet.Proofs.Interleaving.LastSeen
import InferenceFleet.Proofs.Interleaving.Restored

/-!
# Entries that never answered

A peer that is added comes in even if its probe fails, a record of a file may lack a capability, and
this node is entered even if it is silent; of the entries that come in without being added, only a
seed has to answer first. In traffic where nothing is learned but by probes, each entry can be
accounted for (`Peer.IsAccounted`): a probe of it succeeded, or nothing at all is known of it, or it
is this node as it was when it was first asked and was silent.

In the last case the answer carries a time though nobody was seen: that of the asking. So a remote
entry that never answered has no time at which it was last seen, but the entry of this node has one,
unless the clock stood at the epoch (`Traffic.lastSeen_of_unanswered`).
-/

namespace InferenceFleet

/-- This node is said to be seen when it was asked, whether or not it answered. -/
theorem Exchange.lastSeen_probeLocal (transport : Transport) (hardware : Hardware)
    (deadline : Duration) (a : Address) (now : Timestamp) :
    (probeLocal transport hardware deadline a now).2.lastSeen = now := by
  simp only [probeLocal]

theorem Exchange.models_probeLocal_of_silent {transport : Transport} {hardware : Hardware}
    {deadline : Duration} {a : Address} {now : Timestamp}
    (hsilent : (probeLocal transport hardware deadline a now).2.available = false) :
    (probeLocal transport hardware deadline a now).2.models = ∅ := by
  simp only [probeLocal] at hsilent ⊢
  split at hsilent
  · cases hsilent
  · rfl

/-- The record of a file, if it is one, tells nothing of a capability. -/
def PeerRecord.LacksCapability (entry : Tree) : Prop :=
  ∀ record, ofTree? entry = some record → record.capability = none

theorem PeerRecord.LacksCapability.eq_unseen {entry : Tree} (h : LacksCapability entry) {p : Peer}
    (hpeer : Registry.peerOfEntry entry = .ok p) : p.capability = .unseen := by
  obtain ⟨record, hrecord, htoPeer⟩ := Registry.peerOfEntry_eq_ok_iff.1 hpeer
  obtain ⟨-, rfl⟩ := PeerRecord.toPeer_eq_ok_iff.1 htoPeer
  rw [h record hrecord]
  rfl

/-! ## Accounted entries

What counts as a probe that succeeded and as an answer of this node that was heard is left open
here; a run settles it. -/

section Accounted

variable {succeeded succeeded' : String → Address → Prop}
  {heard heard' : Address → Capability → Prop}

/-- Why an entry is as it is. -/
inductive Peer.IsAccounted (succeeded : String → Address → Prop)
    (heard : Address → Capability → Prop) (id : String) (p : Peer) : Prop
  | answered (h : succeeded id p.address)
  | unseen (hremote : id ≠ localId) (h : p.capability = .unseen)
  | silent (hlocal : id = localId) (hsilent : p.capability.available = false)
      (h : heard p.address p.capability)

theorem Peer.IsAccounted.mono {id : String} {p : Peer} (h : p.IsAccounted succeeded heard id)
    (hsucceeded : ∀ id address, succeeded id address → succeeded' id address)
    (hheard : ∀ address answer, heard address answer → heard' address answer) :
    p.IsAccounted succeeded' heard' id := by
  cases h with
  | answered h => exact .answered (hsucceeded _ _ h)
  | unseen hremote h => exact .unseen hremote h
  | silent hlocal hsilent h => exact .silent hlocal hsilent (hheard _ _ h)

theorem Peer.IsAccounted.withdrawn {id : String} {p : Peer}
    (h : p.IsAccounted succeeded heard id) : p.withdrawn.IsAccounted succeeded heard id := by
  cases h with
  | answered h => exact .answered h
  | unseen hremote h =>
      refine .unseen hremote ?_
      show { p.capability with available := false } = Capability.unseen
      rw [h]
      rfl
  | silent hlocal hsilent h =>
      have hsame : p.withdrawn = p := by
        show { p with capability := { p.capability with available := false } } = p
        rw [← hsilent]
      rw [hsame]
      exact .silent hlocal hsilent h

/-- An access after which all entries are accounted for. -/
def Access.IsAccounted (succeeded : String → Address → Prop) (heard : Address → Capability → Prop)
    (r : Registry) : Access → Prop
  | .enroll p => succeeded p.id p.address ∨ p.capability = .unseen
  | .registerLocal address answer =>
      (answer.available = true → succeeded localId address) ∧
        (r.get? localId = none → heard address answer)
  | .update id _ _ => ∀ p, r.get? id = some p → succeeded id p.address
  | _ => True

namespace Registry

/-- All entries are accounted for. -/
def IsAccounted (succeeded : String → Address → Prop) (heard : Address → Capability → Prop)
    (r : Registry) : Prop :=
  ∀ id p, r.get? id = some p → p.IsAccounted succeeded heard id

/-- This node, once it is entered. -/
theorem IsAccounted.thisNode {r : Registry} (h : r.IsAccounted succeeded heard) {address : Address}
    {answer : Capability}
    (ha : (Access.registerLocal address answer).IsAccounted succeeded heard r) :
    (Registry.thisNode (r.get? localId) address answer).IsAccounted succeeded heard localId := by
  obtain ⟨hanswered, hheard⟩ := ha
  unfold Registry.thisNode
  cases hknown : r.get? localId with
  | none =>
      cases havailable : answer.available with
      | true => exact .answered (hanswered havailable)
      | false => exact .silent rfl havailable (hheard hknown)
  | some p =>
      cases havailable : answer.available with
      | true => exact .answered (hanswered havailable)
      | false => exact (h localId p hknown).withdrawn

theorem IsAccounted.perform {r : Registry} (h : r.IsAccounted succeeded heard) {a : Access}
    (ha : a.IsAccounted succeeded heard r) : (r.perform a).IsAccounted succeeded heard := by
  intro id p hget
  rw [get?_perform] at hget
  split at hget
  · next hid =>
      subst hid
      cases a with
      | enroll q =>
          simp only [Access.entry] at hget
          split at hget
          · next hadmitted =>
              obtain rfl := Option.some.inj hget
              have hremote : q.id ≠ localId := (refusal?_eq_none_iff.1 hadmitted).1
              exact ha.elim .answered (.unseen hremote)
          · exact h _ p hget
      | registerLocal address answer =>
          cases hget
          exact h.thisNode ha
      | update key c now =>
          obtain ⟨q, hq, rfl⟩ := Option.map_eq_some_iff.1 hget
          exact .answered (ha q hq)
      | markUnavailable key =>
          obtain ⟨q, hq, rfl⟩ := Option.map_eq_some_iff.1 hget
          exact (h key q hq).withdrawn
      | remove key => cases hget
  · exact h id p hget

theorem IsAccounted.performAny {r : Registry} (h : r.IsAccounted succeeded heard)
    {a : Option Access} (ha : ∀ b, a = some b → b.IsAccounted succeeded heard r) :
    (r.performAny a).IsAccounted succeeded heard := by
  cases a with
  | none => exact h
  | some a => exact h.perform (ha a rfl)

end Registry

/-- The answers that a cycle has yet to apply came from probes that succeeded. -/
def CyclePhase.IsAccounted (succeeded : String → Address → Prop) : CyclePhase → Prop
  | .applying _ results =>
      ∀ target answer, (target, .ok answer) ∈ results → succeeded target.id target.address
  | .admitting _ results =>
      ∀ target answer, (target, .ok answer) ∈ results →
        succeeded target.address.host target.address
  | _ => True

/-- What a call has in hand came from probes that succeeded, or tells nothing of capabilities. -/
def Call.IsAccounted (succeeded : String → Address → Prop) : Call → Prop
  | .loading _ _ entries => ∀ entry ∈ entries, PeerRecord.LacksCapability entry
  | .cycling _ phase => phase.IsAccounted succeeded
  | _ => True

theorem Call.IsAccounted.mono {call : Call} (h : call.IsAccounted succeeded)
    (hsucceeded : ∀ id address, succeeded id address → succeeded' id address) :
    call.IsAccounted succeeded' := by
  cases call with
  | cycling c phase =>
      cases phase with
      | applying report results =>
          exact fun target answer hresult => hsucceeded _ _ (h target answer hresult)
      | admitting report results =>
          exact fun target answer hresult => hsucceeded _ _ (h target answer hresult)
      | thisNode address => trivial
      | reading report => trivial
      | probing report targets => trivial
      | seeking report seeds found => trivial
      | probingSeeds report targets => trivial
      | finished report => trivial
  | loading report index entries => exact h
  | adding candidate => trivial
  | added result => trivial
  | loaded result => trivial
  | dropped => trivial

end Accounted

namespace Traffic

/-- With this move a probe succeeds, of the node that goes by an identifier, at an address: a peer
that is being added, a registered one, a seed, which goes by its host, or this node. -/
inductive ProbeSucceeds (t : Traffic) : String → Address → Move → Prop
  | candidate {place : Nat} {p : Peer} (hcall : t.calls[place]? = some (.adding p))
      (answer : Capability) :
      t.ProbeSucceeds p.id p.address (.proceed place (.outcome (.ok answer)))
  | registered {place : Nat} {c : MonitorConfig} {report : CycleReport} {targets : List Target}
      {results : List (Target × Outcome)} {target : Target} {answer : Capability}
      (hcall : t.calls[place]? = some (.cycling c (.probing report targets)))
      (hmatches : CyclePhase.matchesTargets targets results = true)
      (hresult : (target, .ok answer) ∈ results) :
      t.ProbeSucceeds target.id target.address (.proceed place (.outcomes results))
  | seed {place : Nat} {c : MonitorConfig} {report : CycleReport} {targets : List Target}
      {results : List (Target × Outcome)} {target : Target} {answer : Capability}
      (hcall : t.calls[place]? = some (.cycling c (.probingSeeds report targets)))
      (hmatches : CyclePhase.matchesTargets targets results = true)
      (hresult : (target, .ok answer) ∈ results) :
      t.ProbeSucceeds target.address.host target.address (.proceed place (.outcomes results))
  | thisNode {place : Nat} {c : MonitorConfig} {address : Address} {answer : Capability}
      (hcall : t.calls[place]? = some (.cycling c (.thisNode address)))
      (havailable : answer.available = true) :
      t.ProbeSucceeds localId address (.proceed place (.thisNode answer))

/-- In the course of a run, a probe of a node at an address succeeded. -/
def Succeeded (t : Traffic) (moves : List Move) (id : String) (address : Address) : Prop :=
  ∃ before m after, moves = before ++ m :: after ∧ (t.run before).ProbeSucceeds id address m

/-- In the course of a run, this node was heard from at an address while it had no entry. -/
def FirstHeard (t : Traffic) (moves : List Move) (address : Address) (answer : Capability) : Prop :=
  ∃ before place c after, moves = before ++ .proceed place (.thisNode answer) :: after ∧
    (t.run before).calls[place]? = some (.cycling c (.thisNode address)) ∧
    (t.run before).registry.get? localId = none

/-- What is known of this node after its model server was asked over HTTP at a time, wherever. -/
def AskedOverHttp (now : Timestamp) (answer : Capability) : Prop :=
  ∃ transport hardware deadline a,
    answer = (Exchange.probeLocal transport hardware deadline a now).2

/-- In the course of a run, this node was asked over HTTP at a time, for the entry that it did not
have and that is at an address. -/
def FirstAsked (t : Traffic) (moves : List Move) (address : Address) (now : Timestamp) : Prop :=
  ∃ answer, t.FirstHeard moves address answer ∧ AskedOverHttp now answer

/-- With this move nothing is learned but by probes, and of this node by asking it over HTTP: only
calls access the registry, and no file that is loaded tells of capabilities. -/
def LearnsByProbes (t : Traffic) : Move → Prop
  | .access _ => False
  | .load path =>
      ∀ report index entries, Call.load t.fleet path = .loading report index entries →
        ∀ entry ∈ entries, PeerRecord.LacksCapability entry
  | .proceed _ (.thisNode answer) => ∃ now, AskedOverHttp now answer
  | _ => True

variable {f : Fleet} {t : Traffic} {moves : List Move} {m : Move} {id : String} {address : Address}

theorem Succeeded.concat (h : t.Succeeded moves id address) (m : Move) :
    t.Succeeded (moves ++ [m]) id address := by
  obtain ⟨before, m', after, rfl, hsucceeds⟩ := h
  exact ⟨before, m', after ++ [m], by simp, hsucceeds⟩

theorem ProbeSucceeds.succeeded (h : (t.run moves).ProbeSucceeds id address m) :
    t.Succeeded (moves ++ [m]) id address := ⟨moves, m, [], rfl, h⟩

theorem AskedOverHttp.lastSeen_eq {now : Timestamp} {answer : Capability}
    (h : AskedOverHttp now answer) : answer.lastSeen = now := by
  obtain ⟨transport, hardware, deadline, a, hanswer⟩ := h
  rw [hanswer]
  exact Exchange.lastSeen_probeLocal transport hardware deadline a now

theorem AskedOverHttp.models_eq {now : Timestamp} {answer : Capability}
    (h : AskedOverHttp now answer) (hsilent : answer.available = false) : answer.models = ∅ := by
  obtain ⟨transport, hardware, deadline, a, hanswer⟩ := h
  rw [hanswer] at hsilent ⊢
  exact Exchange.models_probeLocal_of_silent hsilent

theorem FirstHeard.concat {answer : Capability} (h : t.FirstHeard moves address answer) (m : Move) :
    t.FirstHeard (moves ++ [m]) address answer := by
  obtain ⟨before, place, c, after, rfl, hheard⟩ := h
  exact ⟨before, place, c, after ++ [m], by simp, hheard⟩

/-- A remote peer that a run does not remove is there after it, at the address it had. -/
theorem address_kept_run {p : Peer} (hremote : id ≠ localId) (hget : t.registry.get? id = some p)
    (hremove : .access (.remove id) ∉ moves) :
    ∃ q, (t.run moves).registry.get? id = some q ∧ q.address = p.address := by
  refine kept_run (fun p q => q.address = p.address) (fun _ => rfl)
    (fun _ _ _ hfirst hsecond => hsecond.trans hfirst) ?_ hget hremove
  intro r a p hentry hother
  obtain ⟨q, hq, -, haddress⟩ := Registry.kept_of_ne_remove hentry hother
  exact ⟨q, hq, haddress fun hlocal => absurd hlocal hremote⟩

/-- What goes by the identifier of a target whose outcome is awaited is at the address that is
probed, if the run does not remove it. -/
theorem address_of_awaited {place : Nat} {call : Call} {target : Target} {p : Peer}
    (hcall : ((start f).run moves).calls[place]? = some call) (hmem : target ∈ awaited call)
    (hremove : .access (.remove target.id) ∉ moves)
    (hget : ((start f).run moves).registry.get? target.id = some p) :
    p.address = target.address := by
  obtain ⟨before, arrival, after, rfl, -, hread⟩ := read_of_awaited hcall hmem
  obtain ⟨hremote, q, hq, haddress⟩ := exists_of_mem_targets (isConsistent_run f before) hread
  have hsince : .access (.remove target.id) ∉ .proceed place arrival :: after :=
    fun hmoves => hremove (List.mem_append_right before hmoves)
  obtain ⟨q', hq', haddress'⟩ := address_kept_run hremote hq hsince
  rw [run_append, hq'] at hget
  rw [← Option.some.inj hget, haddress', haddress]

/-- All entries, and all that calls have in hand, are accounted for by a run. -/
structure IsAccounted (t : Traffic) (succeeded : String → Address → Prop)
    (heard : Address → Capability → Prop) : Prop where
  registry : t.registry.IsAccounted succeeded heard
  calls : ∀ (place : Nat) (call : Call), t.calls[place]? = some call → call.IsAccounted succeeded

/-- The next step of a call makes an access that is accounted for, whatever it waited for counted
with the run. -/
theorem isAccounted_access {place : Nat} {arrival : Arrival} {a : Access}
    (hremove : ∀ id, .access (.remove id) ∉ moves)
    (hcalls : ∀ (place : Nat) (call : Call), ((start f).run moves).calls[place]? = some call →
      call.IsAccounted ((start f).Succeeded moves))
    (haccess : ((start f).run moves).access? (.proceed place arrival) = some a) :
    a.IsAccounted ((start f).Succeeded (moves ++ [.proceed place arrival]))
      ((start f).FirstHeard (moves ++ [.proceed place arrival]))
      ((start f).run moves).registry := by
  obtain ⟨call, hcall, hstep⟩ := Option.bind_eq_some_iff.1 haccess
  have hhand : call.IsAccounted ((start f).Succeeded moves) := hcalls place call hcall
  unfold Call.access? at hstep
  split at hstep
  · next candidate o =>
      obtain rfl := Option.some.inj hstep
      cases o with
      | ok answer => exact .inl (ProbeSucceeds.candidate hcall answer).succeeded
      | error e => exact .inr rfl
  · next entry rest =>
      obtain ⟨p, hpeer, rfl⟩ := Registry.exists_of_entry_access hstep
      exact .inr ((hhand entry List.mem_cons_self).eq_unseen hpeer)
  · next c phase =>
      unfold CyclePhase.access? at hstep
      split at hstep
      · next address answer =>
          obtain rfl := Option.some.inj hstep
          refine ⟨fun havailable => (ProbeSucceeds.thisNode hcall havailable).succeeded, ?_⟩
          intro habsent
          exact ⟨moves, place, c, [], rfl, hcall, habsent⟩
      · next report target answer rest =>
          obtain rfl := Option.some.inj hstep
          intro p hget
          have hsame : p.address = target.address :=
            address_of_awaited hcall List.mem_cons_self (hremove target.id) hget
          rw [hsame]
          exact (hhand target answer List.mem_cons_self).concat _
      · obtain rfl := Option.some.inj hstep
        trivial
      · next report target answer rest =>
          obtain rfl := Option.some.inj hstep
          exact .inl ((hhand target answer List.mem_cons_self).concat _)
      · cases hstep
  · cases hstep

/-- The next step of a cycle leaves it accounted for, whatever it waited for counted with the run. -/
theorem isAccounted_phase {place : Nat} {c : MonitorConfig} {phase : CyclePhase} {arrival : Arrival}
    (hcall : ((start f).run moves).calls[place]? = some (.cycling c phase))
    (hhand : phase.IsAccounted ((start f).Succeeded (moves ++ [.proceed place arrival]))) :
    (phase.advance c ((start f).run moves).fleet arrival).2.IsAccounted
      ((start f).Succeeded (moves ++ [.proceed place arrival])) := by
  cases phase with
  | thisNode address => cases arrival <;> trivial
  | reading report => trivial
  | probing report targets =>
      cases arrival with
      | outcomes results =>
          simp only [CyclePhase.advance]
          split
          · next hmatches =>
              intro target answer hresult
              exact (ProbeSucceeds.registered hcall hmatches hresult).succeeded
          · trivial
      | nothing => trivial
      | thisNode answer => trivial
      | outcome o => trivial
  | applying report results =>
      cases results with
      | nil => trivial
      | cons result rest =>
          intro target answer hresult
          exact hhand target answer (List.mem_cons_of_mem _ hresult)
  | seeking report seeds found => cases seeds <;> trivial
  | probingSeeds report targets =>
      cases arrival with
      | outcomes results =>
          simp only [CyclePhase.advance]
          split
          · next hmatches =>
              intro target answer hresult
              exact (ProbeSucceeds.seed hcall hmatches hresult).succeeded
          · trivial
      | nothing => trivial
      | thisNode answer => trivial
      | outcome o => trivial
  | admitting report results =>
      cases results with
      | nil => trivial
      | cons result rest =>
          intro target answer hresult
          exact hhand target answer (List.mem_cons_of_mem _ hresult)
  | finished report => trivial

/-- The next step of a call leaves it accounted for, whatever it waited for counted with the run. -/
theorem isAccounted_advance {place : Nat} {call : Call} {arrival : Arrival}
    (hcall : ((start f).run moves).calls[place]? = some call)
    (hhand : call.IsAccounted ((start f).Succeeded (moves ++ [.proceed place arrival]))) :
    (call.advance ((start f).run moves).fleet arrival).2.IsAccounted
      ((start f).Succeeded (moves ++ [.proceed place arrival])) := by
  cases call with
  | adding candidate =>
      cases arrival with
      | outcome o =>
          simp only [Call.advance]
          split <;> trivial
      | nothing => trivial
      | thisNode answer => trivial
      | outcomes results => trivial
  | loading report index entries =>
      cases entries with
      | nil => trivial
      | cons entry rest =>
          simp only [Call.advance]
          split <;> exact (List.forall_mem_cons.1 hhand).2
  | cycling c phase => exact isAccounted_phase hcall hhand
  | added result => trivial
  | loaded result => trivial
  | dropped => trivial

/-- A call that begins has nothing in hand that is not accounted for. -/
theorem LearnsByProbes.isAccounted_begun (h : t.LearnsByProbes m) {call : Call}
    (hbegun : t.begun? m = some call) {succeeded : String → Address → Prop} :
    call.IsAccounted succeeded := by
  cases m with
  | add address name =>
      obtain rfl := Option.some.inj hbegun
      unfold Call.add
      split <;> trivial
  | load path =>
      obtain rfl := Option.some.inj hbegun
      cases hload : Call.load t.fleet path with
      | loading report index entries => exact h report index entries hload
      | cycling c phase => exact absurd hload (load_ne_cycling _ _ _ _)
      | adding candidate => trivial
      | added result => trivial
      | loaded result => trivial
      | dropped => trivial
  | cycle c =>
      obtain rfl := Option.some.inj hbegun
      show (CyclePhase.first c).IsAccounted succeeded
      unfold CyclePhase.first
      split <;> trivial
  | access a => cases hbegun
  | proceed place arrival => cases hbegun
  | drop place => cases hbegun
  | beside f => cases hbegun

/-- A run in which nothing is learned but by probes. -/
def RunsByProbes (t : Traffic) (moves : List Move) : Prop :=
  ∀ before m, before ++ [m] <+: moves → (t.run before).LearnsByProbes m

theorem RunsByProbes.access_notMem (h : t.RunsByProbes moves) (a : Access) :
    .access a ∉ moves := by
  intro hmem
  obtain ⟨before, after, rfl⟩ := List.append_of_mem hmem
  exact h before (.access a) ⟨after, by simp⟩

theorem RunsByProbes.of_concat (h : t.RunsByProbes (moves ++ [m])) : t.RunsByProbes moves :=
  fun before m' hbegins => h before m' (hbegins.trans (List.prefix_append moves [m]))

theorem isAccounted_run (hmoves : (start f).RunsByProbes moves) :
    ((start f).run moves).IsAccounted ((start f).Succeeded moves) ((start f).FirstHeard moves) := by
  induction moves using List.reverseRecOn with
  | nil => exact ⟨nofun, nofun⟩
  | append_singleton moves m ih =>
      have hbefore : ((start f).run moves).IsAccounted ((start f).Succeeded moves)
          ((start f).FirstHeard moves) := ih hmoves.of_concat
      have hlearns : ((start f).run moves).LearnsByProbes m := hmoves moves m List.prefix_rfl
      have hcalls : ∀ (place : Nat) (call : Call),
          ((start f).run moves).calls[place]? = some call →
          call.IsAccounted ((start f).Succeeded (moves ++ [m])) := fun place call hcall =>
        (hbefore.calls place call hcall).mono fun id address h => h.concat m
      have hregistry : ((start f).run moves).registry.IsAccounted
          ((start f).Succeeded (moves ++ [m])) ((start f).FirstHeard (moves ++ [m])) :=
        fun id p hget => (hbefore.registry id p hget).mono (fun id address h => h.concat m)
          fun address answer h => h.concat m
      rw [run_concat]
      constructor
      · rw [step_registry]
        refine hregistry.performAny fun a haccess => ?_
        cases m with
        | access a => exact hlearns.elim
        | proceed place arrival =>
            exact isAccounted_access (fun id => hmoves.of_concat.access_notMem _) hbefore.calls
              haccess
        | add address name => cases haccess
        | load path => cases haccess
        | cycle c => cases haccess
        | drop place => cases haccess
        | beside f => cases haccess
      · intro place call hcall
        rcases call_step hcall with hold | ⟨arrival, old, rfl, hold, rfl⟩ | ⟨-, hbegun⟩ | rfl
        · exact hcalls place call hold
        · exact isAccounted_advance hold (hcalls place old hold)
        · exact hlearns.isAccounted_begun hbegun
        · trivial

theorem FirstHeard.there {answer : Capability} (h : t.FirstHeard moves address answer)
    (hremove : .access (.remove localId) ∉ moves) :
    ∃ p, (t.run moves).registry.get? localId = some p := by
  obtain ⟨before, place, c, after, rfl, hcall, habsent⟩ := h
  have hentered : ((t.run before).step (.proceed place (.thisNode answer))).registry.get? localId =
      some (Registry.thisNode ((t.run before).registry.get? localId) address answer) := by
    have haccess : (t.run before).access? (.proceed place (.thisNode answer)) =
        some (.registerLocal address answer) := access?_proceed hcall _
    rw [step_registry, haccess]
    exact (Registry.get?_perform _ (.registerLocal address answer) localId).trans (if_pos rfl)
  have hsince : .access (.remove localId) ∉ after := fun hafter =>
    hremove (List.mem_append_right before (List.mem_cons_of_mem _ hafter))
  obtain ⟨p, hp, -⟩ := lastSeen_le_run hentered hsince
  rw [run_append]
  exact ⟨p, hp⟩

/-- This node was first heard in the course of a run, or is with its last move. -/
theorem FirstHeard.concat_cases {answer : Capability}
    (h : t.FirstHeard (moves ++ [m]) address answer) :
    t.FirstHeard moves address answer ∨
      (∃ place, m = .proceed place (.thisNode answer)) ∧
        (t.run moves).registry.get? localId = none := by
  obtain ⟨before, place, c, after, hsplit, hcall, habsent⟩ := h
  rcases List.eq_nil_or_concat' after with rfl | ⟨after, last, rfl⟩
  · obtain ⟨rfl, hm⟩ := List.append_inj' hsplit rfl
    exact .inr ⟨⟨place, List.singleton_inj.1 hm⟩, habsent⟩
  · rw [← List.cons_append, ← List.append_assoc] at hsplit
    obtain ⟨rfl, -⟩ := List.append_inj' hsplit rfl
    exact .inl ⟨before, place, c, after, rfl, hcall, habsent⟩

/-- If it is not removed, this node is first heard once. -/
theorem FirstHeard.unique {address' : Address} {answer answer' : Capability}
    (h : t.FirstHeard moves address answer) (h' : t.FirstHeard moves address' answer')
    (hremove : .access (.remove localId) ∉ moves) : answer = answer' := by
  induction moves using List.reverseRecOn with
  | nil =>
      obtain ⟨before, place, c, after, hsplit, -⟩ := h
      cases before <;> cases hsplit
  | append_singleton moves m ih =>
      have hearlier : .access (.remove localId) ∉ moves := fun hmem =>
        hremove (List.mem_append_left [m] hmem)
      rcases h.concat_cases with hold | ⟨⟨place, rfl⟩, habsent⟩
      · rcases h'.concat_cases with hold' | ⟨-, habsent⟩
        · exact ih hold hold' hearlier
        · obtain ⟨p, hp⟩ := hold.there hearlier
          cases habsent.symm.trans hp
      · rcases h'.concat_cases with hold' | ⟨⟨place', heq⟩, -⟩
        · obtain ⟨p, hp⟩ := hold'.there hearlier
          cases habsent.symm.trans hp
        · cases heq
          rfl

/-- In a run in which nothing is learned but by probes, this node was asked when it was heard. -/
theorem FirstHeard.asked {answer : Capability} (h : t.FirstHeard moves address answer)
    (hmoves : t.RunsByProbes moves) : AskedOverHttp answer.lastSeen answer := by
  obtain ⟨before, place, c, after, rfl, -⟩ := h
  have hlearns : (t.run before).LearnsByProbes (.proceed place (.thisNode answer)) :=
    hmoves before _ ⟨after, by simp⟩
  obtain ⟨now, hasked⟩ := hlearns
  rw [hasked.lastSeen_eq]
  exact hasked

/-- In traffic from no peers in which nothing is learned but by probes, an entry of which no probe has
succeeded is unavailable and serves no models. If it is a remote one, nothing at all is known of it.
If it is this node, then the time at which it was last seen is that at which it was asked while it
had no entry. So that time is the epoch exactly if it is a remote entry, or if this node was so asked
at the epoch. -/
theorem lastSeen_of_unanswered {p : Peer} (hmoves : (start f).RunsByProbes moves)
    (hget : ((start f).run moves).registry.get? id = some p)
    (hunanswered : ¬ (start f).Succeeded moves id p.address) :
    p.capability.available = false ∧ p.capability.models = ∅ ∧
      (id ≠ localId → p.capability = .unseen) ∧
      (id = localId → (start f).FirstAsked moves p.address p.capability.lastSeen) ∧
      (p.capability.lastSeen = .epoch ↔
        (id = localId → (start f).FirstAsked moves p.address .epoch)) := by
  cases (isAccounted_run hmoves).registry id p hget with
  | answered h => exact absurd h hunanswered
  | unseen hremote h =>
      rw [h]
      exact ⟨rfl, rfl, fun _ => rfl, fun hlocal => absurd hlocal hremote,
        iff_of_true rfl fun hlocal => absurd hlocal hremote⟩
  | silent hlocal hsilent h =>
      have hasked : AskedOverHttp p.capability.lastSeen p.capability := h.asked hmoves
      refine ⟨hsilent, hasked.models_eq hsilent, fun hremote => absurd hlocal hremote,
        fun _ => ⟨_, h, hasked⟩, ?_⟩
      constructor
      · intro hepoch _
        rw [← hepoch]
        exact ⟨_, h, hasked⟩
      · intro hfirst
        obtain ⟨answer, hheard, hanswer⟩ := hfirst hlocal
        rw [h.unique hheard (hmoves.access_notMem _), hanswer.lastSeen_eq]

/-- An answer comes with this move, whoever it is of. -/
def BringsAnswer : Move → Prop
  | .proceed _ (.outcome o) => ∃ answer, o = .ok answer
  | .proceed _ (.outcomes results) => ∃ target answer, (target, .ok answer) ∈ results
  | .proceed _ (.thisNode answer) => answer.available = true
  | _ => False

/-- Where no answer comes no probe succeeds. -/
theorem Succeeded.exists_bringsAnswer (h : t.Succeeded moves id address) :
    ∃ m ∈ moves, BringsAnswer m := by
  obtain ⟨before, m, after, rfl, hsucceeds⟩ := h
  refine ⟨m, List.mem_append_right before List.mem_cons_self, ?_⟩
  cases hsucceeds with
  | candidate hcall answer => exact ⟨answer, rfl⟩
  | registered hcall hmatches hresult => exact ⟨_, _, hresult⟩
  | seed hcall hmatches hresult => exact ⟨_, _, hresult⟩
  | thisNode hcall havailable => exact havailable

theorem runsByProbes_cons (hm : t.LearnsByProbes m) (hrest : (t.step m).RunsByProbes moves) :
    t.RunsByProbes (m :: moves) := by
  intro before m' hbegins
  cases before with
  | nil =>
      obtain rfl : m' = m := (List.cons_prefix_cons.1 hbegins).1
      exact hm
  | cons first before =>
      obtain ⟨rfl, hlater⟩ := List.cons_prefix_cons.1 hbegins
      exact hrest before m' hlater

/-- Where this node is asked. -/
def ownAddress : Address := ⟨"127.0.0.1", defaultPort⟩

/-- What is known of this node if no connection to it opens. -/
def ownSilence : Capability := { Capability.unseen with cpuCores := 4, lastSeen := noon }

theorem askedOverHttp_ownSilence : AskedOverHttp noon ownSilence :=
  ⟨.closed, ⟨4, .zero, .zero, .zero⟩, 1, ownAddress, by decide +kernel⟩

/-- A peer is added that gives no answer. At noon this node is asked for the first time, and it is
silent. -/
def silence : List Move :=
  [.add seedAddress none, .proceed 0 (.outcome (.error ⟨seedAddress.text, .timeout 1⟩)),
    .cycle { MonitorConfig.builtin with localAddress := some ownAddress },
    .proceed 1 (.thisNode ownSilence)]

theorem runsByProbes_silence : (start quiet).RunsByProbes silence := by
  refine runsByProbes_cons trivial (runsByProbes_cons trivial (runsByProbes_cons trivial
    (runsByProbes_cons ?_ ?_)))
  · exact ⟨noon, askedOverHttp_ownSilence⟩
  · intro before m hbegins
    cases before <;> cases List.prefix_nil.1 hbegins

theorem get?_localId_silence :
    ((start quiet).run silence).registry.get? localId =
      some ⟨localId, ownAddress, ownSilence⟩ := by
  decide +kernel

theorem not_succeeded_silence (id : String) (address : Address) :
    ¬ (start quiet).Succeeded silence id address := by
  intro h
  obtain ⟨m, hm, hanswer⟩ := h.exists_bringsAnswer
  simp only [silence, List.mem_cons, List.not_mem_nil, or_false] at hm
  rcases hm with rfl | rfl | rfl | rfl
  · exact hanswer
  · obtain ⟨answer, hok⟩ := hanswer
    cases hok
  · exact hanswer
  · cases hanswer

theorem lastSeen_of_unanswered_silence :
    let t := (start quiet).run silence
    (start quiet).RunsByProbes silence ∧
    (∃ p, t.registry.get? "10.0.0.1" = some p ∧
      ¬ (start quiet).Succeeded silence "10.0.0.1" p.address ∧ p.capability = .unseen) ∧
    ∃ p, t.registry.get? localId = some p ∧ ¬ (start quiet).Succeeded silence localId p.address ∧
      p.capability.available = false ∧ p.capability.models = ∅ ∧
      (start quiet).FirstAsked silence p.address p.capability.lastSeen ∧
      (p.capability.lastSeen = .epoch ↔ (start quiet).FirstAsked silence p.address .epoch) := by
  intro t
  have hremote : t.registry.get? "10.0.0.1" = some (Peer.named seedAddress none .unseen) := by
    decide +kernel
  have hlocal : t.registry.get? localId = some ⟨localId, ownAddress, ownSilence⟩ :=
    get?_localId_silence
  obtain ⟨-, -, hunseen, -⟩ :=
    lastSeen_of_unanswered runsByProbes_silence hremote (not_succeeded_silence _ _)
  obtain ⟨hunavailable, hmodels, -, hasked, hepoch⟩ :=
    lastSeen_of_unanswered runsByProbes_silence hlocal (not_succeeded_silence _ _)
  refine ⟨runsByProbes_silence, ⟨_, hremote, not_succeeded_silence _ _, hunseen (by decide)⟩, _,
    hlocal, not_succeeded_silence _ _, hunavailable, hmodels, hasked rfl, hepoch.trans ?_⟩
  exact forall_prop_of_true rfl

/-- Not every entry that never answered is without a time: this node was silent when it was first
asked, and yet it counts as seen at that time. -/
theorem silent_node_counts_as_seen :
    ¬ ∀ (f : Fleet) (moves : List Move) (id : String) (p : Peer),
      (start f).RunsByProbes moves → ((start f).run moves).registry.get? id = some p →
      ¬ (start f).Succeeded moves id p.address →
      p.capability.available = false ∧ p.capability.models = ∅ ∧
        p.capability.lastSeen = .epoch := by
  intro hall
  obtain ⟨-, -, hepoch⟩ := hall quiet silence localId ⟨localId, ownAddress, ownSilence⟩
    runsByProbes_silence get?_localId_silence (not_succeeded_silence _ _)
  exact absurd hepoch (by decide)

end Traffic

end InferenceFleet
