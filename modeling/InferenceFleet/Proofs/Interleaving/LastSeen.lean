import InferenceFleet.Proofs.Interleaving.Landing
import Mathlib.Data.Prod.Lex

/-!
# What is known of a peer is not lost

Four kinds of access write what is known of a peer, each by a rule of its own: enrolling puts it
where nothing was, an answered probe and an answer of this node replace it, and a failed probe or a
silent node withdraws no more than the availability (`perform_cases`). Both replacements keep the
later time, so the time at which an entry that stays was last seen never moves back
(`lastSeen_le_run`), whatever the clock reads and whatever time an answer claims.

Instants are ordered by their whole seconds and then by the fraction; the later of two is their
maximum in that order.
-/

namespace InferenceFleet

namespace Timestamp

/-- Whole seconds decide, and among equal ones the fraction. -/
def orderKey (t : Timestamp) : ℤ ×ₗ ℕ := toLex (t.seconds, t.nanos)

theorem orderKey_injective : Function.Injective orderKey := by
  intro a b hkey
  obtain ⟨hseconds, hnanos⟩ := Prod.mk.inj (toLex.injective hkey)
  cases a
  cases b
  exact congrArg₂ mk hseconds hnanos

instance : LinearOrder Timestamp := LinearOrder.lift' orderKey orderKey_injective

theorem before_iff_lt {a b : Timestamp} : a.before b = true ↔ a < b := by
  have hlt : a < b ↔ a.seconds < b.seconds ∨ a.seconds = b.seconds ∧ a.nanos < b.nanos :=
    Prod.Lex.toLex_lt_toLex
  simp [hlt, before]

theorem later_eq_max (a b : Timestamp) : a.later b = max a b := by
  unfold later
  by_cases hlt : a < b
  · rw [if_pos (before_iff_lt.2 hlt), max_eq_right hlt.le]
  · have hnot : ¬ a.before b = true := fun hbefore => hlt (before_iff_lt.1 hbefore)
    rw [if_neg hnot, max_eq_left (not_lt.1 hlt)]

end Timestamp

/-- The peer as it is known, but unavailable. -/
def Peer.withdrawn (p : Peer) : Peer :=
  { p with capability := { p.capability with available := false } }

namespace Registry

/-- What an access makes of an entry that it does not remove: it stays as it is, unless the access
is for it. Then a failed probe or a silent node withdraws it, an answered probe refreshes it, and an
answer of this node replaces all but its identifier. -/
theorem perform_cases {r : Registry} {a : Access} {id : String} {p : Peer}
    (hget : r.get? id = some p) (hremove : a ≠ .remove id) :
    (r.perform a).get? id = some p ∨
      (r.perform a).get? id = some p.withdrawn ∨
      (∃ c now, a = .update id c now ∧
        (r.perform a).get? id = some { p with capability := refreshed p.capability c now }) ∨
      ∃ address c, a = .registerLocal address c ∧ c.available = true ∧
        (r.perform a).get? id = some
          { p with
            address := address
            capability := { c with lastSeen := p.capability.lastSeen.later c.lastSeen } } := by
  by_cases hid : a.id = id
  · subst hid
    cases a with
    | enroll q => exact .inl (get?_enroll_of_some hget q)
    | registerLocal address c =>
        have hknown : r.get? localId = some p := hget
        have hentry : (r.perform (.registerLocal address c)).get? localId =
            some (thisNode (some p) address c) := by
          rw [get?_perform, ← hknown]
          exact if_pos rfl
        cases havailable : c.available with
        | true =>
            refine .inr (.inr (.inr ⟨address, c, rfl, havailable, hentry.trans ?_⟩))
            simp [thisNode, havailable]
        | false =>
            refine .inr (.inl (hentry.trans ?_))
            simp [thisNode, havailable, Peer.withdrawn]
    | update key c now =>
        refine .inr (.inr (.inl ⟨c, now, rfl, ?_⟩))
        rw [get?_perform, if_pos rfl]
        exact congrArg (Option.map _) hget
    | markUnavailable key =>
        refine .inr (.inl ?_)
        rw [get?_perform, if_pos rfl]
        exact congrArg (Option.map _) hget
    | remove key => exact absurd rfl hremove
  · left
    rw [get?_perform, if_neg hid]
    exact hget

/-- An entry that an access does not remove is not seen earlier after it. -/
theorem lastSeen_le_perform {r : Registry} {a : Access} {id : String} {p : Peer}
    (hget : r.get? id = some p) (hremove : a ≠ .remove id) :
    ∃ q, (r.perform a).get? id = some q ∧ p.capability.lastSeen ≤ q.capability.lastSeen := by
  rcases perform_cases hget hremove with
    hkept | hwithdrawn | ⟨c, now, -, hrefreshed⟩ | ⟨address, c, -, -, hreplaced⟩
  · exact ⟨p, hkept, le_rfl⟩
  · exact ⟨p.withdrawn, hwithdrawn, le_rfl⟩
  · refine ⟨_, hrefreshed, ?_⟩
    show p.capability.lastSeen ≤ (p.capability.lastSeen.later c.lastSeen).later now
    rw [Timestamp.later_eq_max, Timestamp.later_eq_max]
    exact (le_max_left _ _).trans (le_max_left _ _)
  · refine ⟨_, hreplaced, ?_⟩
    show p.capability.lastSeen ≤ p.capability.lastSeen.later c.lastSeen
    rw [Timestamp.later_eq_max]
    exact le_max_left _ _

end Registry

/-- An access by which nothing is learned of a peer: its probe failed, or this node is silent. -/
def Access.LearnsNothing : Access → Prop
  | .markUnavailable _ => True
  | .registerLocal _ c => c.available = false
  | _ => False

namespace Registry

/-- An access by which nothing is learned withdraws the entry that it is for, at most. -/
theorem get?_perform_of_learnsNothing {r : Registry} {a : Access} (ha : a.LearnsNothing)
    {id : String} {p : Peer} (hget : r.get? id = some p) :
    (r.perform a).get? id = some p ∨ (r.perform a).get? id = some p.withdrawn := by
  have hremove : a ≠ .remove id := by
    rintro rfl
    exact ha
  rcases perform_cases hget hremove with
    hkept | hwithdrawn | ⟨c, now, rfl, -⟩ | ⟨address, c, rfl, havailable, -⟩
  · exact .inl hkept
  · exact .inr hwithdrawn
  · exact ha.elim
  · have hsilent : c.available = false := ha
    rw [hsilent] at havailable
    cases havailable

end Registry

namespace Traffic

/-- With this move a failed probe or a silent node is noted, whoever probed: an administrator, a
cycle that asked this node, a registered peer or a seed, or a call that adds a peer. -/
inductive NotesFailure (t : Traffic) : Move → Prop
  | withdraws (id : String) : t.NotesFailure (.access (.markUnavailable id))
  | registers (address : Address) {c : Capability} (hsilent : c.available = false) :
      t.NotesFailure (.access (.registerLocal address c))
  | thisNode {place : Nat} {c : MonitorConfig} {address : Address} {answer : Capability}
      (hcall : t.calls[place]? = some (.cycling c (.thisNode address)))
      (hsilent : answer.available = false) : t.NotesFailure (.proceed place (.thisNode answer))
  | registered {place : Nat} {c : MonitorConfig} {report : CycleReport} {target : Target}
      {e : ProbeError} {rest : List (Target × Outcome)}
      (hcall : t.calls[place]? =
        some (.cycling c (.applying report ((target, .error e) :: rest)))) (arrival : Arrival) :
      t.NotesFailure (.proceed place arrival)
  | seed {place : Nat} {c : MonitorConfig} {report : CycleReport} {target : Target}
      {e : ProbeError} {rest : List (Target × Outcome)}
      (hcall : t.calls[place]? =
        some (.cycling c (.admitting report ((target, .error e) :: rest)))) (arrival : Arrival) :
      t.NotesFailure (.proceed place arrival)
  | candidate {place : Nat} {p : Peer} (hcall : t.calls[place]? = some (.adding p))
      (e : ProbeError) : t.NotesFailure (.proceed place (.outcome (.error e)))

/-- With this move a peer is admitted, or a call that adds a peer or loads a file begins or takes
its next step. -/
inductive Admits (t : Traffic) : Move → Prop
  | admits (p : Peer) : t.Admits (.access (.enroll p))
  | beginsAdding (address : Address) (name : Option String) : t.Admits (.add address name)
  | beginsLoading (path : String) : t.Admits (.load path)
  | adds {place : Nat} {p : Peer} (hcall : t.calls[place]? = some (.adding p))
      (arrival : Arrival) : t.Admits (.proceed place arrival)
  | loads {place : Nat} {report : LoadReport} {index : Nat} {entries : List Tree}
      (hcall : t.calls[place]? = some (.loading report index entries)) (arrival : Arrival) :
      t.Admits (.proceed place arrival)

variable {t : Traffic} {m : Move} {id : String} {p : Peer}

/-- To admit peers is to enroll them, if to make an access at all. -/
theorem Admits.exists_enroll (h : t.Admits m) {a : Access} (haccess : t.access? m = some a) :
    ∃ q, a = .enroll q := by
  cases h with
  | admits q => exact ⟨q, (Option.some.inj haccess).symm⟩
  | beginsAdding address name => cases haccess
  | beginsLoading path => cases haccess
  | adds hcall arrival =>
      rw [access?_proceed hcall] at haccess
      cases arrival with
      | outcome o => exact ⟨_, (Option.some.inj haccess).symm⟩
      | nothing => cases haccess
      | thisNode c => cases haccess
      | outcomes results => cases haccess
  | @loads place report index entries hcall arrival =>
      rw [access?_proceed hcall] at haccess
      cases entries with
      | nil => cases haccess
      | cons entry rest =>
          obtain ⟨q, -, rfl⟩ := Option.map_eq_some_iff.1 haccess
          exact ⟨q, rfl⟩

/-- To note a failure is an access by which nothing is learned, unless it is a new peer that comes
in without an answer. -/
theorem NotesFailure.learnsNothing (h : t.NotesFailure m) {a : Access}
    (haccess : t.access? m = some a) : a.LearnsNothing ∨ ∃ q, a = .enroll q := by
  cases h with
  | withdraws id =>
      obtain rfl := Option.some.inj haccess
      exact .inl trivial
  | registers address hsilent =>
      obtain rfl := Option.some.inj haccess
      exact .inl hsilent
  | thisNode hcall hsilent =>
      rw [access?_proceed hcall] at haccess
      obtain rfl := Option.some.inj haccess
      exact .inl hsilent
  | registered hcall arrival =>
      rw [access?_proceed hcall] at haccess
      obtain rfl := Option.some.inj haccess
      exact .inl trivial
  | seed hcall arrival =>
      rw [access?_proceed hcall] at haccess
      cases haccess
  | candidate hcall e => exact .inr (Admits.exists_enroll (.adds hcall _) haccess)

/-- Moves that enroll, or make no access, leave every entry as it is. -/
theorem get?_step_of_exists_enroll
    (henroll : ∀ a, t.access? m = some a → ∃ q, a = .enroll q)
    (hget : t.registry.get? id = some p) : (t.step m).registry.get? id = some p := by
  rw [step_registry]
  cases haccess : t.access? m with
  | none => exact hget
  | some a =>
      obtain ⟨q, rfl⟩ := henroll a haccess
      exact Registry.get?_enroll_of_some hget q

theorem NotesFailure.get?_step (h : t.NotesFailure m) (hget : t.registry.get? id = some p) :
    (t.step m).registry.get? id = some p ∨ (t.step m).registry.get? id = some p.withdrawn := by
  rw [step_registry]
  cases haccess : t.access? m with
  | none => exact .inl hget
  | some a =>
      rcases h.learnsNothing haccess with hnothing | ⟨q, rfl⟩
      · exact Registry.get?_perform_of_learnsNothing hnothing hget
      · exact .inl (Registry.get?_enroll_of_some hget q)

/-- The accesses that calls make: they enroll peers and note outcomes, and a cycle that hears from
this node enters it. -/
theorem access?_proceed_cases {place : Nat} {arrival : Arrival} {a : Access}
    (haccess : t.access? (.proceed place arrival) = some a) :
    (∃ q, a = .enroll q) ∨ (∃ id c now, a = .update id c now) ∨ (∃ id, a = .markUnavailable id) ∨
      ∃ settings address c, a = .registerLocal address c ∧ arrival = .thisNode c ∧
        t.calls[place]? = some (.cycling settings (.thisNode address)) := by
  obtain ⟨call, hcall, hstep⟩ := Option.bind_eq_some_iff.1 haccess
  unfold Call.access? at hstep
  split at hstep
  · exact .inl ⟨_, (Option.some.inj hstep).symm⟩
  · obtain ⟨q, -, rfl⟩ := Option.map_eq_some_iff.1 hstep
    exact .inl ⟨q, rfl⟩
  · next settings phase =>
      unfold CyclePhase.access? at hstep
      split at hstep
      · next address answer =>
          exact .inr (.inr (.inr ⟨settings, address, answer, (Option.some.inj hstep).symm, rfl,
            hcall⟩))
      · exact .inr (.inl ⟨_, _, _, (Option.some.inj hstep).symm⟩)
      · exact .inr (.inr (.inl ⟨_, (Option.some.inj hstep).symm⟩))
      · exact .inl ⟨_, (Option.some.inj hstep).symm⟩
      · cases hstep
  · cases hstep

/-- No call removes a peer: only an administrator does. -/
theorem eq_access_of_remove (haccess : t.access? m = some (.remove id)) :
    m = .access (.remove id) := by
  cases m with
  | access a => exact congrArg Move.access (Option.some.inj haccess)
  | proceed place arrival =>
      rcases access?_proceed_cases haccess with
        ⟨q, hq⟩ | ⟨id', c, now, hupdate⟩ | ⟨id', hfailed⟩ | ⟨settings, address, c, hentered, -⟩
      · cases hq
      · cases hupdate
      · cases hfailed
      · cases hentered
  | add address name => cases haccess
  | load path => cases haccess
  | cycle c => cases haccess
  | drop place => cases haccess
  | beside f => cases haccess

/-- What accesses keep of the entry under an identifier, unless they remove it, moves keep that do
not remove it. -/
theorem kept_step (R : Peer → Peer → Prop) (hrefl : ∀ p, R p p)
    (hperform : ∀ (r : Registry) (a : Access) (p : Peer), r.get? id = some p → a ≠ .remove id →
      ∃ q, (r.perform a).get? id = some q ∧ R p q)
    (hget : t.registry.get? id = some p) (hremove : m ≠ .access (.remove id)) :
    ∃ q, (t.step m).registry.get? id = some q ∧ R p q := by
  rw [step_registry]
  cases haccess : t.access? m with
  | none => exact ⟨p, hget, hrefl p⟩
  | some a =>
      apply hperform t.registry a p hget
      rintro rfl
      exact hremove (eq_access_of_remove haccess)

/-- What accesses keep of the entry under an identifier, unless they remove it, runs keep that do
not remove it. -/
theorem kept_run (R : Peer → Peer → Prop) (hrefl : ∀ p, R p p)
    (htrans : ∀ p q q', R p q → R q q' → R p q')
    (hperform : ∀ (r : Registry) (a : Access) (p : Peer), r.get? id = some p → a ≠ .remove id →
      ∃ q, (r.perform a).get? id = some q ∧ R p q)
    {moves : List Move} (hget : t.registry.get? id = some p)
    (hremove : .access (.remove id) ∉ moves) :
    ∃ q, (t.run moves).registry.get? id = some q ∧ R p q := by
  induction moves generalizing t p with
  | nil => exact ⟨p, hget, hrefl p⟩
  | cons m rest ih =>
      obtain ⟨hm, hrest⟩ := not_or.1 (mt List.mem_cons.2 hremove)
      obtain ⟨q, hq, hstep⟩ := kept_step R hrefl hperform hget (Ne.symm hm)
      obtain ⟨q', hq', hrun⟩ := ih hq hrest
      exact ⟨q', hq', htrans p q q' hstep hrun⟩

/-- An entry that a run does not remove is not seen earlier after it. -/
theorem lastSeen_le_run {moves : List Move} (hget : t.registry.get? id = some p)
    (hremove : .access (.remove id) ∉ moves) :
    ∃ q, (t.run moves).registry.get? id = some q ∧
      p.capability.lastSeen ≤ q.capability.lastSeen :=
  kept_run (fun p q => p.capability.lastSeen ≤ q.capability.lastSeen) (fun _ => le_rfl)
    (fun _ _ _ => le_trans) (fun _ _ _ => Registry.lastSeen_le_perform) hget hremove

/-- In the course of every run: an entry that is there at one moment and is not removed until
another is there still, and was last seen no earlier, whatever the clock read and whatever the
probes brought. With a failed probe or a silent node no entry changes in more than being
unavailable. With a peer that is admitted, added or loaded no entry that is there changes at all. -/
theorem last_seen_never_goes_back (t : Traffic) (moves : List Move) :
    (∀ sooner later id p, sooner ++ later <+: moves →
      (t.run sooner).registry.get? id = some p → .access (.remove id) ∉ later →
      ∃ q, (t.run (sooner ++ later)).registry.get? id = some q ∧
        p.capability.lastSeen ≤ q.capability.lastSeen) ∧
    ∀ before m id p, before ++ [m] <+: moves → (t.run before).registry.get? id = some p →
      ((t.run before).NotesFailure m →
        (t.run (before ++ [m])).registry.get? id = some p ∨
          (t.run (before ++ [m])).registry.get? id = some p.withdrawn) ∧
      ((t.run before).Admits m → (t.run (before ++ [m])).registry.get? id = some p) := by
  constructor
  · intro sooner later id p _ hget hremove
    rw [run_append]
    exact lastSeen_le_run hget hremove
  · intro before m id p _ hget
    rw [run_concat]
    constructor
    · intro hfailure
      exact hfailure.get?_step hget
    · intro hadmits
      apply get?_step_of_exists_enroll _ hget
      intro a haccess
      exact hadmits.exists_enroll haccess

/-- While a peer is probed the clock is set back, and the answer claims a time to come. Later the
peer answers with no time at all, and then not any more. -/
def clockSetBack : List Move :=
  [.access (.enroll (nodeAt "10.0.0.1")), .cycle .builtin, .proceed 0 .nothing,
    .beside { quiet with clock := .steady ⟨1000, 0⟩ 0 },
    .proceed 0 (.outcomes [(readNode, .ok { Capability.unseen with lastSeen := ⟨2000, 0⟩ })]),
    .proceed 0 .nothing, .access (.update "node" .unseen ⟨500, 0⟩),
    .access (.markUnavailable "node")]

theorem last_seen_never_goes_back_clockSetBack :
    let t := start quiet
    (∃ p, (t.run (clockSetBack.take 6)).registry.get? "node" = some p ∧
      p.capability.lastSeen = ⟨2000, 0⟩ ∧
      Move.access (.remove "node") ∉ clockSetBack.drop 6 ∧
      ∃ q, (t.run clockSetBack).registry.get? "node" = some q ∧
        p.capability.lastSeen ≤ q.capability.lastSeen) ∧
    (t.run (clockSetBack.take 7)).NotesFailure (.access (.markUnavailable "node")) ∧
    ∃ p, (t.run (clockSetBack.take 7)).registry.get? "node" = some p ∧
      ((t.run clockSetBack).registry.get? "node" = some p ∨
        (t.run clockSetBack).registry.get? "node" = some p.withdrawn) := by
  intro t
  obtain ⟨hseen, hfailed⟩ := last_seen_never_goes_back t clockSetBack
  have hremove : Move.access (.remove "node") ∉ clockSetBack.drop 6 := by
    simp [clockSetBack]
  have hnotes : (t.run (clockSetBack.take 7)).NotesFailure (.access (.markUnavailable "node")) :=
    .withdraws "node"
  refine ⟨⟨_, rfl, by decide, hremove, ?_⟩, hnotes, _, rfl, ?_⟩
  · exact hseen (clockSetBack.take 6) (clockSetBack.drop 6) "node" _ List.prefix_rfl rfl hremove
  · exact (hfailed (clockSetBack.take 7) _ "node" _ List.prefix_rfl rfl).1 hnotes

end Traffic

end InferenceFleet
