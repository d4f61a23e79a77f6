import InferenceFleet.Proofs.Registry.Access

/-!
# Consistent registries

A registry is consistent if each peer is stored under its own identifier and no two peers, this
node aside, are at the same host. Every access keeps a consistent registry consistent; what makes
it so is that an access either leaves the address of a remote peer as it was or enrolls a peer that
was not refused (`kept_or_enrolled`). The entry of this node is another matter: only registering
this node puts it in place, and it may share its host with a peer.
-/

namespace InferenceFleet

namespace Registry

/-- Each peer under its own identifier, and no two remote peers at one host. -/
structure IsConsistent (r : Registry) : Prop where
  id_eq : ∀ {id : String} {p : Peer}, r.get? id = some p → p.id = id
  id_eq_of_host : ∀ {id id' : String} {p q : Peer}, r.get? id = some p → r.get? id' = some q →
    id ≠ localId → id' ≠ localId →
    Text.sameUpToAsciiCase p.address.host q.address.host = true → id = id'

theorem isConsistent_empty : empty.IsConsistent where
  id_eq hget := by cases hget
  id_eq_of_host hget := by cases hget

@[simp]
theorem thisNode_id (known : Option Peer) (address : Address) (c : Capability) :
    (thisNode known address c).id = (known.map Peer.id).getD localId := by
  unfold thisNode
  cases known with
  | none => rfl
  | some p => cases c.available <;> rfl

/-- A remote peer that is there after an access was there before with the same address, or is the
peer that the access enrolled. -/
theorem kept_or_enrolled {r : Registry} {a : Access} {id : String} {p : Peer}
    (hremote : id ≠ localId) (hget : (r.perform a).get? id = some p) :
    (∃ q, r.get? id = some q ∧ q.id = p.id ∧ q.address = p.address) ∨
      (a = .enroll p ∧ p.id = id ∧ r.refusal? p = none) := by
  rw [get?_perform] at hget
  by_cases hid : a.id = id
  · rw [if_pos hid] at hget
    subst hid
    cases a with
    | enroll candidate =>
        simp only [Access.entry] at hget
        by_cases hrefusal : r.refusal? candidate = none
        · rw [if_pos hrefusal] at hget
          cases hget
          exact .inr ⟨rfl, rfl, hrefusal⟩
        · rw [if_neg hrefusal] at hget
          exact .inl ⟨p, hget, rfl, rfl⟩
    | registerLocal address c => exact absurd rfl hremote
    | update key c now =>
        obtain ⟨q, hq, rfl⟩ := Option.map_eq_some_iff.1 hget
        exact .inl ⟨q, hq, rfl, rfl⟩
    | markUnavailable key =>
        obtain ⟨q, hq, rfl⟩ := Option.map_eq_some_iff.1 hget
        exact .inl ⟨q, hq, rfl, rfl⟩
    | remove key => cases hget
  · rw [if_neg hid] at hget
    exact .inl ⟨p, hget, rfl, rfl⟩

/-- Where no entry of this node was, only registering this node puts one. -/
theorem registered_of_get?_localId {r : Registry} {a : Access} {p : Peer}
    (habsent : r.get? localId = none) (hget : (r.perform a).get? localId = some p) :
    ∃ address c, a = .registerLocal address c ∧ p = ⟨localId, address, c⟩ := by
  rw [get?_perform] at hget
  by_cases hid : a.id = localId
  · rw [if_pos hid] at hget
    cases a with
    | enroll candidate =>
        have hreserved : candidate.id = localId := hid
        simp [Access.entry, refusal?, hreserved, habsent] at hget
    | registerLocal address c =>
        simp only [Access.entry, habsent, thisNode, Option.some.injEq] at hget
        exact ⟨address, c, rfl, hget.symm⟩
    | update key c now =>
        have hkey : key = localId := hid
        simp [Access.entry, hkey, habsent] at hget
    | markUnavailable key =>
        have hkey : key = localId := hid
        simp [Access.entry, hkey, habsent] at hget
    | remove key => cases hget
  · rw [if_neg hid, habsent] at hget
    cases hget

/-- Enrolling a peer leaves the entry of this node alone. -/
theorem get?_localId_enroll (r : Registry) (p : Peer) :
    (r.perform (.enroll p)).get? localId = r.get? localId := by
  rw [get?_perform]
  by_cases hid : p.id = localId
  · have hrefusal : r.refusal? p ≠ none := by simp [refusal?, hid]
    simp [Access.id, Access.entry, hid, hrefusal]
  · exact if_neg hid

/-- A peer that is there is not displaced by enrolling one. -/
theorem get?_enroll_of_some {r : Registry} {id : String} {p : Peer} (hget : r.get? id = some p)
    (q : Peer) : (r.perform (.enroll q)).get? id = some p := by
  rw [get?_perform]
  by_cases hid : q.id = id
  · have htaken : r.refusal? q ≠ none := by
      intro hfree
      have habsent := (refusal?_eq_none_iff.1 hfree).2.2
      rw [hid, hget] at habsent
      cases habsent
    simp [Access.id, Access.entry, hid, htaken, hget]
  · exact (if_neg hid).trans hget

/-- A peer that is there stays there unless it is removed. It keeps its identifier, and it keeps its
address unless it is the entry of this node and this node is registered. -/
theorem kept_of_ne_remove {r : Registry} {a : Access} {id : String} {p : Peer}
    (hget : r.get? id = some p) (hremove : a ≠ .remove id) :
    ∃ q, (r.perform a).get? id = some q ∧ q.id = p.id ∧
      ((id = localId → ∀ address c, a ≠ .registerLocal address c) → q.address = p.address) := by
  rw [get?_perform]
  by_cases hid : a.id = id
  · rw [if_pos hid]
    subst hid
    cases a with
    | enroll candidate =>
        have hthere := get?_enroll_of_some hget candidate
        rw [get?_perform, if_pos rfl] at hthere
        exact ⟨p, hthere, rfl, fun _ => rfl⟩
    | registerLocal address c =>
        have hknown : r.get? localId = some p := hget
        refine ⟨thisNode (r.get? localId) address c, rfl, ?_, fun hother => ?_⟩
        · rw [thisNode_id, hknown]
          rfl
        · exact absurd rfl (hother rfl address c)
    | update key c now => exact ⟨_, congrArg (Option.map _) hget, rfl, fun _ => rfl⟩
    | markUnavailable key => exact ⟨_, congrArg (Option.map _) hget, rfl, fun _ => rfl⟩
    | remove key => exact absurd rfl hremove
  · rw [if_neg hid]
    exact ⟨p, hget, rfl, fun _ => rfl⟩

/-- What an access leaves under its identifier has that identifier. -/
theorem IsConsistent.id_eq_of_entry {r : Registry} (h : r.IsConsistent) {a : Access} {p : Peer}
    (hentry : a.entry r = some p) : p.id = a.id := by
  cases a with
  | enroll candidate =>
      simp only [Access.entry] at hentry
      split at hentry
      · cases hentry
        rfl
      · exact h.id_eq hentry
  | registerLocal address c =>
      cases hentry
      rw [thisNode_id]
      cases hknown : r.get? localId with
      | none => rfl
      | some q => exact h.id_eq hknown
  | update key c now =>
      obtain ⟨q, hq, rfl⟩ := Option.map_eq_some_iff.1 hentry
      show q.id = key
      exact h.id_eq hq
  | markUnavailable key =>
      obtain ⟨q, hq, rfl⟩ := Option.map_eq_some_iff.1 hentry
      show q.id = key
      exact h.id_eq hq
  | remove key => cases hentry

/-- No access makes a consistent registry inconsistent. -/
theorem IsConsistent.perform {r : Registry} (h : r.IsConsistent) (a : Access) :
    (r.perform a).IsConsistent where
  id_eq := by
    intro id p hget
    rw [get?_perform] at hget
    split at hget
    · next hid => exact (h.id_eq_of_entry hget).trans hid
    · exact h.id_eq hget
  id_eq_of_host := by
    intro id id' p q hp hq hlocal hlocal' hsame
    -- Two kept peers were consistent before, and an enrolled one was checked against a kept one.
    rcases kept_or_enrolled hlocal hp with ⟨p₀, hp₀, -, hpaddress⟩ | ⟨ha, hpid, hprefusal⟩
    · rcases kept_or_enrolled hlocal' hq with ⟨q₀, hq₀, -, hqaddress⟩ | ⟨ha', hqid, hqrefusal⟩
      · exact h.id_eq_of_host hp₀ hq₀ hlocal hlocal' (by rw [hpaddress, hqaddress]; exact hsame)
      · have hfree := (refusal?_eq_none_iff.1 hqrefusal).2.1 id p₀ hp₀
        rw [hpaddress, hsame] at hfree
        cases hfree
    · rcases kept_or_enrolled hlocal' hq with ⟨q₀, hq₀, -, hqaddress⟩ | ⟨ha', hqid, -⟩
      · have hfree := (refusal?_eq_none_iff.1 hprefusal).2.1 id' q₀ hq₀
        rw [hqaddress, Text.sameUpToAsciiCase_comm, hsame] at hfree
        cases hfree
      · have heq : p = q := by
          rw [ha] at ha'
          injection ha'
        rw [← hpid, ← hqid, heq]

theorem IsConsistent.performAny {r : Registry} (h : r.IsConsistent) (a : Option Access) :
    (r.performAny a).IsConsistent := by
  cases a with
  | none => exact h
  | some a => exact h.perform a

theorem IsConsistent.mem_snapshot_iff {r : Registry} (h : r.IsConsistent) {p : Peer} :
    p ∈ r.snapshot ↔ r.get? p.id = some p := by
  rw [Registry.mem_snapshot_iff]
  constructor
  · rintro ⟨id, hget⟩
    rw [h.id_eq hget]
    exact hget
  · intro hget
    exact ⟨p.id, hget⟩

/-- The snapshot of a consistent registry ascends strictly by identifier. -/
theorem IsConsistent.snapshot_ascending {r : Registry} (h : r.IsConsistent) :
    r.snapshot.Pairwise fun p q => p.id < q.id := by
  refine List.pairwise_map.2 (r.peers.ascending.imp_of_mem fun {a b} ha hb hlt => ?_)
  have hida : a.2.id = a.1 := h.id_eq (TextMap.mem_entries_iff.1 ha)
  have hidb : b.2.id = b.1 := h.id_eq (TextMap.mem_entries_iff.1 hb)
  rw [hida, hidb]
  exact hlt

end Registry

end InferenceFleet
