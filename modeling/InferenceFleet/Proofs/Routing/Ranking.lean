import InferenceFleet.Routing.Selection
import Mathlib.Data.List.Nodup
import Mathlib.Data.Prod.Lex
import Mathlib.Data.String.Basic

/-!
# Ranks

The comparison of candidates is the lexicographic order of their *ranks*: this node before all
others, then the place of the load in the total order of binary64 numbers, in which every NaN, both
zeros and both infinities have places of their own, then the identifier. Ranks are linearly ordered,
and peers with different identifiers have different ranks; so of peers with distinct identifiers
one is strictly first, and it is the one that is taken.
-/

namespace InferenceFleet

namespace Peer

/-- What the comparison of candidates goes by. -/
def rank (p : Peer) : Bool ×ₗ Int ×ₗ String :=
  toLex (!p.isLocal, toLex (Binary64.orderKey p.capability.load, p.id))

theorem rank_lt_rank_iff {p q : Peer} :
    p.rank < q.rank ↔
      (p.isLocal = true ∧ q.isLocal = false) ∨
        p.isLocal = q.isLocal ∧
          (Binary64.orderKey p.capability.load < Binary64.orderKey q.capability.load ∨
            p.capability.load = q.capability.load ∧ p.id < q.id) := by
  have hload : Binary64.orderKey p.capability.load = Binary64.orderKey q.capability.load ↔
      p.capability.load = q.capability.load :=
    ⟨Binary64.orderKey_injective, fun heq => by rw [heq]⟩
  unfold rank
  rw [Prod.Lex.toLex_lt_toLex, Prod.Lex.toLex_lt_toLex, hload]
  cases p.isLocal <;> cases q.isLocal <;> simp

/-- The comparison of candidates compares their ranks. -/
theorem outranks_iff {p q : Peer} : p.outranks q = true ↔ p.rank < q.rank := by
  rw [rank_lt_rank_iff]
  unfold outranks
  by_cases hlocal : p.isLocal = q.isLocal
  · by_cases hload : Binary64.orderKey p.capability.load = Binary64.orderKey q.capability.load
    · have hsame := Binary64.orderKey_injective hload
      simp [hlocal, hsame]
    · have hdiffer : p.capability.load ≠ q.capability.load := fun heq => hload (by rw [heq])
      simp [hlocal, hload, hdiffer]
  · cases hp : p.isLocal <;> cases hq : q.isLocal <;> simp_all

/-- Peers with the same rank have the same identifier. -/
theorem id_eq_of_rank_eq {p q : Peer} (h : p.rank = q.rank) : p.id = q.id :=
  congrArg (fun rank => (ofLex (ofLex rank).2).2) h

/-- The best of some peers comes after none of them. -/
theorem rank_best?_le {peers : List Peer} {p : Peer} (hbest : best? peers = some p) :
    ∀ q ∈ peers, p.rank ≤ q.rank := by
  induction peers generalizing p with
  | nil => cases hbest
  | cons head rest ih =>
      intro q hq
      simp only [best?] at hbest
      split at hbest
      · next hnone =>
          obtain rfl := Option.some.inj hbest
          rw [best?_eq_none_iff.1 hnone] at hq
          rw [List.mem_singleton.1 hq]
      · next best hrest =>
          by_cases hless : best.outranks head = true
          · rw [if_pos hless] at hbest
            obtain rfl := Option.some.inj hbest
            rcases List.mem_cons.1 hq with rfl | hq
            · exact le_of_lt (outranks_iff.1 hless)
            · exact ih hrest q hq
          · rw [if_neg hless] at hbest
            obtain rfl := Option.some.inj hbest
            have hle : head.rank ≤ best.rank := not_lt.1 fun hlt => hless (outranks_iff.2 hlt)
            rcases List.mem_cons.1 hq with rfl | hq
            · exact le_refl _
            · exact hle.trans (ih hrest q hq)

/-- Among peers with distinct identifiers, the best is the one that comes before all others. -/
theorem best?_eq_some_iff {peers : List Peer} {p : Peer}
    (hdistinct : (peers.map Peer.id).Nodup) :
    best? peers = some p ↔ p ∈ peers ∧ ∀ q ∈ peers, q ≠ p → p.rank < q.rank := by
  constructor
  · intro hbest
    refine ⟨best?_mem hbest, fun q hq hne => ?_⟩
    refine lt_of_le_of_ne (rank_best?_le hbest q hq) fun heq => hne ?_
    exact List.inj_on_of_nodup_map hdistinct hq (best?_mem hbest) (id_eq_of_rank_eq heq.symm)
  · rintro ⟨hmem, hless⟩
    cases hbest : best? peers with
    | none =>
        rw [best?_eq_none_iff.1 hbest] at hmem
        cases hmem
    | some q =>
        by_contra hne
        have hqp : q ≠ p := fun heq => hne (by rw [heq])
        have hlt : p.rank < q.rank := hless q (best?_mem hbest) hqp
        exact absurd (rank_best?_le hbest p hmem) (not_le.2 hlt)

end Peer

end InferenceFleet
