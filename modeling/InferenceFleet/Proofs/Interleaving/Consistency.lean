import InferenceFleet.Proofs.Interleaving.Traffic
import InferenceFleet.Proofs.Registry.Consistency
import Mathlib.Data.List.Induction

/-!
# What holds of the registry in all traffic

However calls interleave, from no peers on: the registry stays consistent, and the entry of this
node, once registering this node put it in place, is there until it is removed. Both are shown move
by move from what single accesses do; no call has to be looked at for it.
-/

namespace InferenceFleet

namespace Traffic

@[simp]
theorem registry_start (f : Fleet) : (start f).registry = .empty := rfl

/-- The entry of this node that is there after a run was put in place by a move that registered
this node, with the address and the capability given there, and was never removed since. -/
def RegisteredThisNode (t : Traffic) (moves : List Move) : Prop :=
  ∃ (before : List Move) (m : Move) (after : List Move) (address : Address) (c : Capability),
    moves = before ++ m :: after ∧
    (t.run before).registry.get? localId = none ∧
    (t.run before).access? m = some (.registerLocal address c) ∧
    (t.run (before ++ [m])).registry.get? localId = some ⟨localId, address, c⟩ ∧
    ∀ later, later <+: after → ((t.run (before ++ m :: later)).registry.get? localId).isSome

/-- No run makes a consistent registry inconsistent. -/
theorem isConsistent_run_from {t : Traffic} (hconsistent : t.registry.IsConsistent)
    (moves : List Move) : (t.run moves).registry.IsConsistent := by
  induction moves using List.reverseRecOn with
  | nil => exact hconsistent
  | append_singleton moves m ih =>
      rw [run_concat, step_registry]
      exact ih.performAny _

theorem isConsistent_run (f : Fleet) (moves : List Move) :
    ((start f).run moves).registry.IsConsistent :=
  isConsistent_run_from (t := start f) Registry.isConsistent_empty moves

/-- A move puts an entry where none was. -/
def Inserts (t : Traffic) (m : Move) (id : String) (q : Peer) : Prop :=
  t.registry.get? id = none ∧ (t.step m).registry.get? id = some q

/-- What is under an identifier after a run that began without it was put there by one of its moves
and was there ever since. -/
theorem exists_inserts {t : Traffic} {moves : List Move} {id : String} {p : Peer}
    (habsent : t.registry.get? id = none) (hget : (t.run moves).registry.get? id = some p) :
    ∃ before m after q, moves = before ++ m :: after ∧ (t.run before).Inserts m id q ∧
      ∀ later, later <+: after → ((t.run (before ++ m :: later)).registry.get? id).isSome := by
  induction moves using List.reverseRecOn generalizing p with
  | nil => cases habsent.symm.trans hget
  | append_singleton moves m ih =>
      cases hbefore : (t.run moves).registry.get? id with
      | none =>
          rw [run_concat] at hget
          refine ⟨moves, m, [], p, rfl, ⟨hbefore, hget⟩, fun later hlater => ?_⟩
          obtain rfl := List.prefix_nil.1 hlater
          rw [run_concat, hget]
          rfl
      | some q =>
          obtain ⟨before, first, after, q, rfl, hinserts, hsince⟩ := ih hbefore
          refine ⟨before, first, after ++ [m], q, by simp, hinserts, fun later hlater => ?_⟩
          rcases List.prefix_concat_iff.1 hlater with rfl | hearlier
          · have hsplit : before ++ first :: (after ++ [m]) = before ++ first :: after ++ [m] := by
              simp
            rw [hsplit, hget]
            rfl
          · exact hsince later hearlier

/-- A move that puts an entry of this node where none was registers this node. -/
theorem registersThisNode_of_step {t : Traffic} {m : Move} {p : Peer}
    (habsent : t.registry.get? localId = none)
    (hget : (t.step m).registry.get? localId = some p) :
    ∃ address c, t.access? m = some (.registerLocal address c) ∧ p = ⟨localId, address, c⟩ := by
  rw [step_registry] at hget
  cases haccess : t.access? m with
  | none =>
      rw [haccess] at hget
      have hsame : t.registry.get? localId = some p := hget
      rw [habsent] at hsame
      cases hsame
  | some a =>
      rw [haccess] at hget
      obtain ⟨address, c, rfl, rfl⟩ := Registry.registered_of_get?_localId habsent hget
      exact ⟨address, c, rfl, rfl⟩

theorem registeredThisNode_run {f : Fleet} {moves : List Move} {p : Peer}
    (hget : ((start f).run moves).registry.get? localId = some p) :
    (start f).RegisteredThisNode moves := by
  obtain ⟨before, m, after, q, rfl, ⟨habsent, hstep⟩, hsince⟩ := exists_inserts rfl hget
  obtain ⟨address, c, haccess, rfl⟩ := registersThisNode_of_step habsent hstep
  refine ⟨before, m, after, address, c, rfl, habsent, haccess, ?_, hsince⟩
  rw [run_concat]
  exact hstep

/-- A move that enrolls a peer, whether admitted, loaded or discovered, leaves the entry of this
node alone. -/
theorem get?_localId_step_of_enroll {t : Traffic} {m : Move} {p : Peer}
    (haccess : t.access? m = some (.enroll p)) :
    (t.step m).registry.get? localId = t.registry.get? localId := by
  rw [step_registry, haccess]
  exact Registry.get?_localId_enroll t.registry p

/-- After every run from no peers: each peer is stored under its own identifier, and no two remote
peers have the same host; the entry of this node was put in place by registering this node, and no
move that enrolls a peer touches it; and the snapshot ascends strictly by identifier and lists
exactly what is stored. -/
theorem registry_invariant (f : Fleet) (moves : List Move) :
    let t := (start f).run moves
    t.registry.IsConsistent ∧
      (∀ p, t.registry.get? localId = some p → (start f).RegisteredThisNode moves) ∧
      (∀ m p, t.access? m = some (.enroll p) →
        (t.step m).registry.get? localId = t.registry.get? localId) ∧
      t.registry.snapshot.Pairwise (fun p q => p.id < q.id) ∧
      ∀ id p, t.registry.get? id = some p ↔ p ∈ t.registry.snapshot ∧ p.id = id := by
  intro t
  have hconsistent : t.registry.IsConsistent := isConsistent_run f moves
  refine ⟨hconsistent, fun p hget => registeredThisNode_run hget,
    fun m p haccess => get?_localId_step_of_enroll haccess, hconsistent.snapshot_ascending, ?_⟩
  intro id p
  constructor
  · intro hget
    exact ⟨Registry.mem_snapshot_iff.2 ⟨id, hget⟩, hconsistent.id_eq hget⟩
  · rintro ⟨hmem, rfl⟩
    exact hconsistent.mem_snapshot_iff.1 hmem

end Traffic

end InferenceFleet
