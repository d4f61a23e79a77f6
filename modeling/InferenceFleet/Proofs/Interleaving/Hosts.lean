import InferenceFleet.Proofs.Interleaving.Landing
import InferenceFleet.Proofs.Peer.Endpoint
import InferenceFleet.Proofs.Registry.Remote

/-!
# Who is at a host

Hosts are compared when a peer is enrolled, and only then. Two things escape the comparison in all
traffic, and nothing else does. A literal with and without brackets is two hosts and one URL, so two
remote peers have one endpoint exactly if the host of one is the host of the other between brackets
(`endpoint_shared_iff`). And this node is registered without a comparison, so it shares its host with
a remote peer exactly if it was registered there while the peer was there already
(`host_shared_iff`); a peer that comes later is refused.
-/

namespace InferenceFleet

namespace Registry

/-- The remote peer under an identifier is at the host of this node. -/
def SharesHost (r : Registry) (id : String) : Prop :=
  id ≠ localId ∧ ∃ p n, r.get? id = some p ∧ r.get? localId = some n ∧
    Text.sameUpToAsciiCase p.address.host n.address.host = true

/-- An address is taken over unless this node is there and has become unavailable. -/
theorem thisNode_address (known : Option Peer) (address : Address) (c : Capability) :
    (thisNode known address c).address =
      match known with
      | none => address
      | some p => if c.available then address else p.address := by
  unfold thisNode
  cases known with
  | none => rfl
  | some p => cases c.available <;> rfl

/-- The entry of this node that is there after an access was there before at the same address, or
was registered there by the access: for the first time, or because this node is available. -/
theorem kept_or_registered {r : Registry} {a : Access} {n : Peer}
    (hget : (r.perform a).get? localId = some n) :
    (∃ n', r.get? localId = some n' ∧ n'.address = n.address) ∨
      ∃ c, a = .registerLocal n.address c ∧ (r.get? localId = none ∨ c.available = true) := by
  rw [get?_perform] at hget
  by_cases hid : a.id = localId
  · rw [if_pos hid] at hget
    cases a with
    | enroll p =>
        have hreserved : p.id = localId := hid
        have hrefusal : r.refusal? p ≠ none := by simp [refusal?, hreserved]
        rw [Access.entry, if_neg hrefusal, hreserved] at hget
        exact .inl ⟨n, hget, rfl⟩
    | registerLocal address c =>
        have haddress := thisNode_address (r.get? localId) address c
        have hentry : thisNode (r.get? localId) address c = n := Option.some.inj hget
        rw [hentry] at haddress
        cases hknown : r.get? localId with
        | none =>
            rw [hknown] at haddress
            exact .inr ⟨c, by rw [haddress], .inl rfl⟩
        | some n' =>
            rw [hknown] at haddress
            cases havailable : c.available with
            | true =>
                rw [havailable] at haddress
                exact .inr ⟨c, by rw [haddress]; rfl, .inr havailable⟩
            | false =>
                rw [havailable] at haddress
                exact .inl ⟨n', rfl, haddress.symm⟩
    | update key c now =>
        obtain rfl : key = localId := hid
        obtain ⟨n', hn', rfl⟩ := Option.map_eq_some_iff.1 hget
        exact .inl ⟨n', hn', rfl⟩
    | markUnavailable key =>
        obtain rfl : key = localId := hid
        obtain ⟨n', hn', rfl⟩ := Option.map_eq_some_iff.1 hget
        exact .inl ⟨n', hn', rfl⟩
    | remove key => cases hget
  · rw [if_neg hid] at hget
    exact .inl ⟨n, hget, rfl⟩

/-- An access registers this node at the host of the remote peer under an identifier. -/
def TakesHost (r : Registry) (a : Access) (id : String) : Prop :=
  ∃ address c p, a = .registerLocal address c ∧
    (r.get? localId = none ∨ c.available = true) ∧
    id ≠ localId ∧ r.get? id = some p ∧
    Text.sameUpToAsciiCase p.address.host address.host = true

/-- A host is shared after an access only if it was shared before, or the access registers this node
there: a peer that is enrolled is at another host than this node. -/
theorem sharesHost_or_takesHost {r : Registry} {a : Access} {id : String}
    (h : (r.perform a).SharesHost id) : r.SharesHost id ∨ r.TakesHost a id := by
  obtain ⟨hremote, p, n, hp, hn, hsame⟩ := h
  rcases kept_or_registered hn with ⟨n', hn', hnaddress⟩ | ⟨c, rfl, hput⟩
  · rcases kept_or_enrolled hremote hp with ⟨p', hp', -, hpaddress⟩ | ⟨rfl, -, hrefusal⟩
    · refine .inl ⟨hremote, p', n', hp', hn', ?_⟩
      rw [hpaddress, hnaddress]
      exact hsame
    · have hfree := (refusal?_eq_none_iff.1 hrefusal).2.1 localId n' hn'
      rw [hnaddress, Text.sameUpToAsciiCase_comm, hsame] at hfree
      cases hfree
  · rcases kept_or_enrolled hremote hp with ⟨p', hp', -, hpaddress⟩ | ⟨hother, -, -⟩
    · refine .inr ⟨n.address, c, p', rfl, hput, hremote, hp', ?_⟩
      rw [hpaddress]
      exact hsame
    · cases hother

/-- Once this node is registered at the host of a remote peer, the host is shared. -/
theorem TakesHost.sharesHost {r : Registry} {a : Access} {id : String} (h : r.TakesHost a id) :
    (r.perform a).SharesHost id := by
  obtain ⟨address, c, p, rfl, hput, hremote, hp, hsame⟩ := h
  have hother : (Access.registerLocal address c).id ≠ id := Ne.symm hremote
  have hown : (Access.registerLocal address c).id = localId := rfl
  refine ⟨hremote, p, thisNode (r.get? localId) address c, ?_, ?_, ?_⟩
  · rw [get?_perform, if_neg hother]
    exact hp
  · rw [get?_perform, if_pos hown]
    rfl
  · have haddress : (thisNode (r.get? localId) address c).address = address := by
      rw [thisNode_address]
      cases hknown : r.get? localId with
      | none => rfl
      | some n =>
          have havailable : c.available = true :=
            hput.resolve_left fun hnone => by simp [hknown] at hnone
          exact if_pos havailable
    rw [haddress]
    exact hsame

/-- An access removes the remote peer under an identifier or the entry of this node, or registers
this node, which is available, at another host than that of the peer. -/
def PartsHost (r : Registry) (a : Access) (id : String) : Prop :=
  a = .remove id ∨ a = .remove localId ∨
    ∃ address c p, a = .registerLocal address c ∧ c.available = true ∧ r.get? id = some p ∧
      Text.sameUpToAsciiCase p.address.host address.host = false

/-- A shared host is shared after an access as well, unless the access parts the two. -/
theorem SharesHost.perform_iff {r : Registry} {a : Access} {id : String} (h : r.SharesHost id) :
    (r.perform a).SharesHost id ↔ ¬ r.PartsHost a id := by
  obtain ⟨hremote, p, n, hp, hn, hsame⟩ := h
  constructor
  · rintro ⟨-, p', n', hp', hn', hsame'⟩ (rfl | rfl | ⟨address, c, q, rfl, havailable, hq, hother⟩)
    · rw [get?_perform, if_pos (show (Access.remove id).id = id from rfl)] at hp'
      cases hp'
    · rw [get?_perform, if_pos (show (Access.remove localId).id = localId from rfl)] at hn'
      cases hn'
    · have haddress := thisNode_address (r.get? localId) address c
      rw [get?_perform, if_neg (Ne.symm hremote : (Access.registerLocal address c).id ≠ id), hq]
        at hp'
      rw [get?_perform, if_pos (show (Access.registerLocal address c).id = localId from rfl)]
        at hn'
      have hentry : thisNode (r.get? localId) address c = n' := Option.some.inj hn'
      rw [hentry, hn, havailable] at haddress
      have hown : n'.address = address := haddress
      obtain rfl := Option.some.inj hp'
      rw [hown, hother] at hsame'
      cases hsame'
  · intro hstays
    have hkeep : a ≠ .remove id := fun heq => hstays (.inl heq)
    have hkeep' : a ≠ .remove localId := fun heq => hstays (.inr (.inl heq))
    obtain ⟨p', hp', -, hpaddress⟩ := kept_of_ne_remove hp hkeep
    obtain ⟨n', hn', -, hnaddress⟩ := kept_of_ne_remove hn hkeep'
    have hphost : p'.address = p.address := hpaddress fun heq => absurd heq hremote
    refine ⟨hremote, p', n', hp', hn', ?_⟩
    rw [hphost]
    rcases kept_or_registered hn' with ⟨n₀, hn₀, hkept⟩ | ⟨c, rfl, hput⟩
    · rw [hn] at hn₀
      obtain rfl := Option.some.inj hn₀
      rw [← hkept]
      exact hsame
    · have havailable : c.available = true :=
        hput.resolve_left fun hnone => by simp [hn] at hnone
      rw [← Bool.not_eq_false]
      intro hother
      exact hstays (.inr (.inr ⟨n'.address, c, p, rfl, havailable, hp, hother⟩))

/-- Two entries at one host are one entry, unless one is that of this node, and it shares its host
with the other. -/
theorem IsConsistent.eq_or_sharesHost {r : Registry} (h : r.IsConsistent) {host id id' : String}
    {p q : Peer} (hp : r.get? id = some p) (hq : r.get? id' = some q)
    (hphost : Text.sameUpToAsciiCase p.address.host host = true)
    (hqhost : Text.sameUpToAsciiCase q.address.host host = true) :
    id = id' ∨ (id = localId ∧ r.SharesHost id') ∨ (id' = localId ∧ r.SharesHost id) := by
  have hsame : Text.sameUpToAsciiCase p.address.host q.address.host = true :=
    Text.sameUpToAsciiCase_trans hphost (by rw [Text.sameUpToAsciiCase_comm]; exact hqhost)
  by_cases hid : id = localId
  · subst hid
    by_cases hid' : id' = localId
    · exact .inl hid'.symm
    · refine .inr (.inl ⟨rfl, hid', q, p, hq, hp, ?_⟩)
      rw [Text.sameUpToAsciiCase_comm]
      exact hsame
  · by_cases hid' : id' = localId
    · subst hid'
      exact .inr (.inr ⟨rfl, hid, p, q, hp, hq, hsame⟩)
    · exact .inl (h.id_eq_of_host hp hq hid hid' hsame)

end Registry

namespace Traffic

/-! ## One endpoint, two peers -/

/-- Two remote peers have one endpoint exactly if they have one port and the host of one is the host
of the other between brackets; they never do if their addresses were read from texts. Indeed, of two
addresses with one URL the hosts count as the same unless one is the other between brackets. -/
theorem endpoint_shared_iff (f : Fleet) (moves : List Move) {p q : Peer}
    (hp : p ∈ ((start f).run moves).registry.remotePeers)
    (hq : q ∈ ((start f).run moves).registry.remotePeers) (hne : p ≠ q) :
    (p.endpointUrl = q.endpointUrl ↔
      p.address.port = q.address.port ∧
        (Address.Brackets p.address.host q.address.host ∨
          Address.Brackets q.address.host p.address.host)) ∧
    (∀ s s', Address.parse s = .ok p.address → Address.parse s' = .ok q.address →
      p.endpointUrl ≠ q.endpointUrl) ∧
    ∀ a b : Address, a.baseUrl = b.baseUrl →
      (Text.sameUpToAsciiCase a.host b.host = true ↔
        ¬ Address.Brackets a.host b.host ∧ ¬ Address.Brackets b.host a.host) := by
  have hconsistent : ((start f).run moves).registry.IsConsistent := isConsistent_run f moves
  have hhosts : p.address.host ≠ q.address.host := by
    intro heq
    obtain ⟨hpremote, hpget⟩ := hconsistent.mem_remotePeers_iff.1 hp
    obtain ⟨hqremote, hqget⟩ := hconsistent.mem_remotePeers_iff.1 hq
    have hid : p.id = q.id :=
      hconsistent.id_eq_of_host hpget hqget hpremote hqremote (by rw [heq]; simp)
    rw [hid, hqget] at hpget
    exact hne (Option.some.inj hpget).symm
  have hiff : p.endpointUrl = q.endpointUrl ↔
      p.address.port = q.address.port ∧
        (Address.Brackets p.address.host q.address.host ∨
          Address.Brackets q.address.host p.address.host) := by
    rw [Peer.endpointUrl, Peer.endpointUrl, Address.baseUrl_eq_iff, or_iff_right hhosts]
  refine ⟨hiff, fun s s' hparse hparse' heq => ?_, fun a b heq => ?_⟩
  · rcases (hiff.1 heq).2 with hbrackets | hbrackets
    · exact Address.not_brackets_of_parse hparse _ hbrackets
    · exact Address.not_brackets_of_parse hparse' _ hbrackets
  · constructor
    · intro hsame
      refine ⟨fun hbrackets => ?_, fun hbrackets => ?_⟩
      · rw [hbrackets.not_same] at hsame
        cases hsame
      · rw [Text.sameUpToAsciiCase_comm, hbrackets.not_same] at hsame
        cases hsame
    · rintro ⟨hnot, hnot'⟩
      have hhost : a.host = b.host :=
        (Address.baseUrl_eq_iff.1 heq).2.resolve_right (not_or.2 ⟨hnot, hnot'⟩)
      rw [hhost]
      exact Text.sameUpToAsciiCase_refl _

/-- A peer that was added and did not answer. -/
def silentAt (host : String) : Peer := ⟨host, ⟨host, defaultPort⟩, .unseen⟩

/-- Three peers are added one after the other, and none of them answers. -/
def threeAdded : List Move :=
  ["fd00::1", "[fd00::1]", "gpu-box"].zipIdx.flatMap fun (host, place) =>
    [.add ⟨host, defaultPort⟩ none, .proceed place (.outcome (.error ⟨host, .network "refused"⟩))]

theorem remotePeers_threeAdded :
    ((start quiet).run threeAdded).registry.remotePeers =
      [silentAt "[fd00::1]", silentAt "fd00::1", silentAt "gpu-box"] := by
  decide +kernel

theorem endpoint_shared_iff_threeAdded :
    let r := ((start quiet).run threeAdded).registry
    silentAt "fd00::1" ∈ r.remotePeers ∧ silentAt "[fd00::1]" ∈ r.remotePeers ∧
    silentAt "gpu-box" ∈ r.remotePeers ∧
    (silentAt "fd00::1").endpointUrl = (silentAt "[fd00::1]").endpointUrl ∧
    Address.parse "[fd00::1]" = .ok (silentAt "fd00::1").address ∧
    Address.parse "gpu-box" = .ok (silentAt "gpu-box").address ∧
    (silentAt "fd00::1").endpointUrl ≠ (silentAt "gpu-box").endpointUrl := by
  intro r
  have hbare : silentAt "fd00::1" ∈ r.remotePeers := by
    rw [remotePeers_threeAdded]
    decide
  have hbracketed : silentAt "[fd00::1]" ∈ r.remotePeers := by
    rw [remotePeers_threeAdded]
    decide
  have hnamed : silentAt "gpu-box" ∈ r.remotePeers := by
    rw [remotePeers_threeAdded]
    decide
  have hread : Address.parse "[fd00::1]" = .ok (silentAt "fd00::1").address := by decide +kernel
  have hread' : Address.parse "gpu-box" = .ok (silentAt "gpu-box").address := by decide +kernel
  exact ⟨hbare, hbracketed, hnamed,
    (endpoint_shared_iff quiet threeAdded hbare hbracketed (by decide)).1.2
      ⟨rfl, .inr (by decide +kernel)⟩,
    hread, hread',
    (endpoint_shared_iff quiet threeAdded hbare hnamed (by decide)).2.1 _ _ hread hread'⟩

/-- Two remote peers at sound addresses can be one endpoint. -/
theorem endpoint_is_shared :
    ¬ ∀ (f : Fleet) (moves : List Move) (p q : Peer),
      p ∈ ((start f).run moves).registry.remotePeers →
      q ∈ ((start f).run moves).registry.remotePeers →
      p.address.IsSound → q.address.IsSound → p ≠ q → p.endpointUrl ≠ q.endpointUrl := by
  intro hall
  refine hall quiet threeAdded (silentAt "fd00::1") (silentAt "[fd00::1]") ?_ ?_ (by decide)
    (by decide) (by decide) (by decide +kernel)
  · rw [remotePeers_threeAdded]
    decide
  · rw [remotePeers_threeAdded]
    decide

/-- A move registers this node at the host of the remote peer under an identifier. -/
def TakesHost (t : Traffic) (m : Move) (id : String) : Prop :=
  ∃ a, t.access? m = some a ∧ t.registry.TakesHost a id

/-- A move parts this node and the remote peer under an identifier. -/
def PartsHost (t : Traffic) (m : Move) (id : String) : Prop :=
  ∃ a, t.access? m = some a ∧ t.registry.PartsHost a id

/-- After one more move a host is shared exactly if the move takes it, or it was shared before and
the move does not part the two. -/
theorem sharesHost_step_iff {t : Traffic} {m : Move} {id : String} :
    (t.step m).registry.SharesHost id ↔
      t.TakesHost m id ∨ t.registry.SharesHost id ∧ ¬ t.PartsHost m id := by
  rw [step_registry]
  unfold TakesHost PartsHost
  cases haccess : t.access? m with
  | none => simp [Registry.performAny]
  | some a =>
      simp only [Option.some.injEq, exists_eq_left']
      constructor
      · intro hafter
        by_cases hbefore : t.registry.SharesHost id
        · exact .inr ⟨hbefore, hbefore.perform_iff.1 hafter⟩
        · exact .inl ((Registry.sharesHost_or_takesHost hafter).resolve_left hbefore)
      · rintro (htakes | ⟨hbefore, hstays⟩)
        · exact htakes.sharesHost
        · exact hbefore.perform_iff.2 hstays

/-- A host is shared after a run exactly if a move of the run took it and none after it parted the
two. -/
theorem sharesHost_run_iff {f : Fleet} {moves : List Move} {id : String} :
    ((start f).run moves).registry.SharesHost id ↔
      ∃ before m after, moves = before ++ m :: after ∧ ((start f).run before).TakesHost m id ∧
        ∀ later m', later ++ [m'] <+: after →
          ¬ ((start f).run (before ++ m :: later)).PartsHost m' id := by
  induction moves using List.reverseRecOn with
  | nil =>
      constructor
      · rintro ⟨-, p, -, hget, -⟩
        cases hget
      · rintro ⟨before, m, after, heq, -⟩
        simp at heq
  | append_singleton moves m ih =>
      rw [run_concat, sharesHost_step_iff, ih]
      constructor
      · rintro (htakes | ⟨⟨before, first, after, rfl, htakes, hsince⟩, hstays⟩)
        · refine ⟨moves, m, [], rfl, htakes, fun later m' hlater => ?_⟩
          simp at hlater
        · refine ⟨before, first, after ++ [m], by simp, htakes, fun later m' hlater => ?_⟩
          rcases prefix_concat_cases hlater with ⟨rfl, rfl⟩ | hearlier
          · exact hstays
          · exact hsince later m' hearlier
      · rintro ⟨before, first, after, heq, htakes, hsince⟩
        rcases List.eq_nil_or_concat' after with rfl | ⟨after, last, rfl⟩
        · obtain ⟨rfl, hm⟩ := List.append_inj' heq rfl
          obtain rfl := List.singleton_inj.1 hm
          exact .inl htakes
        · have hsplit : moves ++ [m] = (before ++ first :: after) ++ [last] := by simpa using heq
          obtain ⟨rfl, hm⟩ := List.append_inj' hsplit rfl
          obtain rfl := List.singleton_inj.1 hm
          refine .inr ⟨⟨before, first, after, rfl, htakes, fun later m' hlater => ?_⟩, ?_⟩
          · exact hsince later m' (hlater.trans (List.prefix_append after [m]))
          · exact hsince after m List.prefix_rfl

/-- A remote peer is at the host of this node exactly if, at some move of the run, this node was
registered at the host of the peer, which was there already, and since then neither was removed and
this node was not registered elsewhere. And two entries are at one host only if this node shares it:
else whoever looks for a host finds one candidate at most. -/
theorem host_shared_iff (f : Fleet) (moves : List Move) :
    let t := (start f).run moves
    (∀ id, t.registry.SharesHost id ↔
      ∃ before m after, moves = before ++ m :: after ∧ ((start f).run before).TakesHost m id ∧
        ∀ later m', later ++ [m'] <+: after →
          ¬ ((start f).run (before ++ m :: later)).PartsHost m' id) ∧
    ∀ host id id' p q, t.registry.get? id = some p → t.registry.get? id' = some q →
      Text.sameUpToAsciiCase p.address.host host = true →
      Text.sameUpToAsciiCase q.address.host host = true →
      id = id' ∨ (id = localId ∧ t.registry.SharesHost id') ∨
        (id' = localId ∧ t.registry.SharesHost id) := by
  intro t
  constructor
  · intro id
    exact sharesHost_run_iff
  · intro host id id' p q hp hq hphost hqhost
    exact (isConsistent_run f moves).eq_or_sharesHost hp hq hphost hqhost

/-- A peer is there before this node is registered, at its host. -/
def lateRegistration : List Move :=
  [.access (.enroll (nodeAt "127.0.0.1")),
    .access (.registerLocal ⟨"127.0.0.1", defaultPort⟩ .unseen)]

theorem sharesHost_lateRegistration :
    ((start quiet).run lateRegistration).registry.SharesHost "node" :=
  ⟨by decide, nodeAt "127.0.0.1", ⟨localId, ⟨"127.0.0.1", defaultPort⟩, .unseen⟩, rfl, rfl, rfl⟩

theorem host_shared_iff_lateRegistration :
    ∃ before m after, lateRegistration = before ++ m :: after ∧
      ((start quiet).run before).TakesHost m "node" ∧
      ∀ later m', later ++ [m'] <+: after →
        ¬ ((start quiet).run (before ++ m :: later)).PartsHost m' "node" :=
  ((host_shared_iff quiet lateRegistration).1 "node").1 sharesHost_lateRegistration

/-- The host of this node can be that of a remote peer. -/
theorem host_is_shared :
    ¬ ∀ (f : Fleet) (moves : List Move) (id : String) (p n : Peer), id ≠ localId →
      ((start f).run moves).registry.get? id = some p →
      ((start f).run moves).registry.get? localId = some n →
      Text.sameUpToAsciiCase p.address.host n.address.host = false := by
  intro hall
  obtain ⟨hremote, p, n, hp, hn, hsame⟩ := sharesHost_lateRegistration
  have hother := hall quiet lateRegistration "node" p n hremote hp hn
  rw [hsame] at hother
  cases hother

end Traffic

end InferenceFleet
