import InferenceFleet.Registry.Basic

/-!
# Accesses to the registry

Whatever works on the registry does so by single accesses, one at a time, of five kinds: a peer is
enrolled, this node is entered, an answered or a failed probe is noted, a peer is removed. A
refused access leaves the registry as it is. An access concerns one identifier and leaves all
others alone, so one equation (`get?_perform`) says what is read after it, and what holds of all
registries that accesses can lead to is shown from that equation.
-/

namespace InferenceFleet

/-- What one access to the registry asks for. -/
inductive Access
  | enroll (p : Peer)
  | registerLocal (address : Address) (c : Capability)
  | update (id : String) (c : Capability) (now : Timestamp)
  | markUnavailable (id : String)
  | remove (id : String)

namespace Registry

@[simp]
theorem get?_empty (id : String) : empty.get? id = none := rfl

/-- The snapshot lists what is stored, under whatever identifier. -/
theorem mem_snapshot_iff {r : Registry} {p : Peer} :
    p ∈ r.snapshot ↔ ∃ id, r.get? id = some p := by
  constructor
  · intro hmem
    obtain ⟨⟨id, q⟩, hentry, rfl⟩ := List.mem_map.1 hmem
    exact ⟨id, TextMap.mem_entries_iff.1 hentry⟩
  · rintro ⟨id, hget⟩
    exact List.mem_map.2 ⟨(id, p), TextMap.mem_entries_iff.2 hget, rfl⟩

@[simp]
theorem get?_store (r : Registry) (p : Peer) (id : String) :
    (r.store p).get? id = if p.id = id then some p else r.get? id :=
  TextMap.get?_insert r.peers p.id id p

theorem get?_store_eq_some_iff {r : Registry} {p : Peer} (habsent : r.get? p.id = none)
    {id : String} {q : Peer} :
    (r.store p).get? id = some q ↔ r.get? id = some q ∨ q = p ∧ q.id = id := by
  rw [get?_store]
  by_cases hid : p.id = id
  · subst hid
    rw [if_pos rfl, habsent]
    constructor
    · intro heq
      obtain rfl := Option.some.inj heq
      exact .inr ⟨rfl, rfl⟩
    · rintro (hnone | ⟨rfl, -⟩)
      · cases hnone
      · rfl
  · rw [if_neg hid]
    refine (or_iff_left ?_).symm
    rintro ⟨rfl, hsame⟩
    exact hid hsame

theorem size_store {r : Registry} {p : Peer} (habsent : r.get? p.id = none) :
    (r.store p).size = r.size + 1 := TextMap.size_insert habsent p

theorem atHost?_eq_none_iff {r : Registry} {host : String} :
    r.atHost? host = none ↔
      ∀ id q, r.get? id = some q → Text.sameUpToAsciiCase q.address.host host = false := by
  constructor
  · intro hnone id q hget
    have hmem : q ∈ r.snapshot := mem_snapshot_iff.2 ⟨id, hget⟩
    exact Bool.eq_false_iff.2 (List.find?_eq_none.1 hnone q hmem)
  · intro hall
    refine List.find?_eq_none.2 fun q hmem => ?_
    obtain ⟨id, hget⟩ := mem_snapshot_iff.1 hmem
    simp [hall id q hget]

/-- A candidate is not refused exactly if its identifier is not the reserved one and neither its
host nor its identifier is taken. -/
theorem refusal?_eq_none_iff {r : Registry} {p : Peer} :
    r.refusal? p = none ↔
      p.id ≠ localId ∧
        (∀ id q, r.get? id = some q →
          Text.sameUpToAsciiCase q.address.host p.address.host = false) ∧
        r.get? p.id = none := by
  unfold refusal?
  by_cases hreserved : p.id = localId
  · simp [hreserved]
  · rw [if_neg hreserved, ← atHost?_eq_none_iff]
    cases hhost : r.atHost? p.address.host with
    | some existing => simp
    | none => cases hid : r.get? p.id <;> simp_all [TextMap.contains, get?]

theorem enroll_eq_ok_iff {r r' : Registry} {p : Peer} :
    r.enroll p = .ok r' ↔ r.refusal? p = none ∧ r' = r.store p := by
  unfold enroll
  cases r.refusal? p with
  | some e => simp
  | none => simp [eq_comm]

/-- The registry that an operation gives, or the one before if the operation is refused. -/
def orKeep (r : Registry) : Except RegistryError Registry → Registry
  | .ok r' => r'
  | .error _ => r

/-- The registry after an access. -/
def perform (r : Registry) : Access → Registry
  | .enroll p => r.orKeep (r.enroll p)
  | .registerLocal address c => r.registerLocal address c
  | .update id c now => r.orKeep (r.update id c now)
  | .markUnavailable id => r.orKeep (r.markUnavailable id)
  | .remove id => r.orKeep ((r.remove id).map Prod.snd)

/-- A peer that is not refused is stored. -/
theorem perform_enroll {r : Registry} {p : Peer} (hadmitted : r.refusal? p = none) :
    r.perform (.enroll p) = r.store p := by
  rw [perform, enroll_eq_ok_iff.2 ⟨hadmitted, rfl⟩]
  rfl

/-- The registry after an access, if there is one. -/
def performAny (r : Registry) (a : Option Access) : Registry := (a.map r.perform).getD r

/-- This node's entry once it is registered, from the entry there was. -/
def thisNode (known : Option Peer) (address : Address) (c : Capability) : Peer :=
  match known with
  | none => ⟨localId, address, c⟩
  | some p =>
      if c.available then
        { p with
          address := address
          capability := { c with lastSeen := p.capability.lastSeen.later c.lastSeen } }
      else { p with capability := { p.capability with available := false } }

end Registry

namespace Access

/-- The identifier that an access concerns. -/
def id : Access → String
  | .enroll p => p.id
  | .registerLocal _ _ => localId
  | .update id _ _ => id
  | .markUnavailable id => id
  | .remove id => id

/-- What is stored under the identifier of an access once it is performed. -/
def entry (r : Registry) : Access → Option Peer
  | .enroll p => if r.refusal? p = none then some p else r.get? p.id
  | .registerLocal address c => some (Registry.thisNode (r.get? localId) address c)
  | .update id c now =>
      (r.get? id).map fun p => { p with capability := Registry.refreshed p.capability c now }
  | .markUnavailable id =>
      (r.get? id).map fun p => { p with capability := { p.capability with available := false } }
  | .remove _ => none

end Access

namespace Registry

theorem registerLocal_eq (r : Registry) (address : Address) (c : Capability) :
    r.registerLocal address c =
      ⟨r.peers.insert localId (thisNode (r.get? localId) address c)⟩ := by
  unfold registerLocal thisNode
  cases r.get? localId with
  | none => rfl
  | some p => cases hc : c.available <;> simp

/-- Nothing changes if what is there stays there. -/
private theorem get?_eq_ite {r : Registry} {key : String} {there : Option Peer}
    (hkey : r.get? key = there) (id : String) :
    r.get? id = if key = id then there else r.get? id := by
  by_cases heq : key = id
  · rw [if_pos heq, ← heq, hkey]
  · rw [if_neg heq]

/-- What is read after an access: under its own identifier the entry it leaves there, and all else
as before. -/
theorem get?_perform (r : Registry) (a : Access) (id : String) :
    (r.perform a).get? id = if a.id = id then a.entry r else r.get? id := by
  cases a with
  | enroll p =>
      simp only [perform, enroll, Access.id, Access.entry]
      cases hrefusal : r.refusal? p with
      | none => simp [orKeep]
      | some e => exact get?_eq_ite rfl id
  | registerLocal address c =>
      rw [perform, registerLocal_eq]
      exact TextMap.get?_insert r.peers localId id _
  | update key c now =>
      simp only [perform, update, Access.id, Access.entry]
      cases hkey : r.get? key with
      | none => exact get?_eq_ite hkey id
      | some p => exact TextMap.get?_insert r.peers key id _
  | markUnavailable key =>
      simp only [perform, markUnavailable, Access.id, Access.entry]
      cases hkey : r.get? key with
      | none => exact get?_eq_ite hkey id
      | some p => exact TextMap.get?_insert r.peers key id _
  | remove key =>
      simp only [perform, remove, Access.id, Access.entry]
      cases hkey : r.get? key with
      | none => exact get?_eq_ite hkey id
      | some p => exact TextMap.get?_erase r.peers key id

end Registry

end InferenceFleet
