import InferenceFleet.Proofs.Interleaving.Landing

/-!
# What adding a peer does

A peer is added by a check, a probe and a second check that admits it, and anything may happen in
between, so a call can pass its first check and fail its second. A call that succeeds has put its
peer in place and done nothing else (`Admitted`). One that fails has done nothing, for a reason that
its own arguments or an entry gave at one of its two checks (`Refused`). What the probe brought
decides neither (`returns_of_adding`).
-/

namespace InferenceFleet

namespace Registry

/-- A reason not to admit a peer, as the error gives it: its identifier is the reserved one, or an
entry is at its host or under its identifier. -/
inductive Excludes (r : Registry) (p : Peer) : RegistryError → Prop
  | reserved (hreserved : p.id = localId) : r.Excludes p (.reservedId p.id)
  | host {id : String} {q : Peer} (hget : r.get? id = some q)
      (hsame : Text.sameUpToAsciiCase q.address.host p.address.host = true) :
      r.Excludes p (.duplicateHost p.address.host q.id)
  | id {q : Peer} (hget : r.get? p.id = some q) : r.Excludes p (.duplicateId p.id)

theorem exists_of_atHost? {r : Registry} {host : String} {q : Peer}
    (hfound : r.atHost? host = some q) :
    (∃ id, r.get? id = some q) ∧ Text.sameUpToAsciiCase q.address.host host = true := by
  unfold atHost? at hfound
  have hsame := List.find?_some hfound
  exact ⟨mem_snapshot_iff.1 (List.mem_of_find?_eq_some hfound), hsame⟩

theorem excludes_of_refusal? {r : Registry} {p : Peer} {e : RegistryError}
    (hrefusal : r.refusal? p = some e) : r.Excludes p e := by
  unfold refusal? at hrefusal
  split at hrefusal
  · next hreserved =>
      cases hrefusal
      exact .reserved hreserved
  · split at hrefusal
    · next existing hfound =>
        cases hrefusal
        obtain ⟨⟨id, hget⟩, hsame⟩ := exists_of_atHost? hfound
        exact .host hget hsame
    · split at hrefusal
      · next hcontains =>
          cases hrefusal
          obtain ⟨q, hget⟩ := Option.isSome_iff_exists.1 hcontains
          exact .id hget
      · cases hrefusal

/-- A peer that is stored is the one at its host if nobody else is. -/
theorem atHost?_store {r : Registry} {p : Peer} {host : String} (hfree : r.atHost? host = none)
    (hsame : Text.sameUpToAsciiCase p.address.host host = true) :
    (r.store p).atHost? host = some p := by
  cases hfound : (r.store p).atHost? host with
  | none =>
      have hother := atHost?_eq_none_iff.1 hfound p.id p (by simp)
      rw [hsame] at hother
      cases hother
  | some q =>
      obtain ⟨⟨id, hget⟩, hqsame⟩ := exists_of_atHost? hfound
      rw [get?_store] at hget
      split at hget
      · exact hget.symm
      · rw [atHost?_eq_none_iff.1 hfree id q hget] at hqsame
        cases hqsame

/-- A peer at the host is the reason that is given, whatever is under the identifier. -/
theorem refusal?_of_atHost? {r : Registry} {p existing : Peer} (hremote : p.id ≠ localId)
    (hfound : r.atHost? p.address.host = some existing) :
    r.refusal? p = some (.duplicateHost p.address.host existing.id) := by
  unfold refusal?
  rw [if_neg hremote, hfound]

/-- Hosts that count as the same are free together. -/
theorem atHost?_eq_none_of_same {r : Registry} {host host' : String}
    (hfree : r.atHost? host = none) (hsame : Text.sameUpToAsciiCase host' host = true) :
    r.atHost? host' = none := by
  rw [atHost?_eq_none_iff] at hfree ⊢
  intro id q hget
  rw [← Bool.not_eq_true]
  intro hother
  have hthere := hfree id q hget
  rw [Text.sameUpToAsciiCase_trans hother hsame] at hthere
  cases hthere

end Registry

namespace Call

/-- How adding a peer begins: with the first check. -/
theorem add_eq (f : Fleet) (address : Address) (name : Option String) :
    Call.add f address name =
      match address.check with
      | .error fault => .added (.error (.ofAddress fault))
      | .ok () =>
          match f.registry.refusal? (Peer.named address name .unseen) with
          | some e => .added (.error e)
          | none => .adding (Peer.named address name .unseen) := by
  unfold Call.add Registry.candidate
  cases address.check with
  | error fault => rfl
  | ok sound =>
      dsimp only
      cases f.registry.refusal? (Peer.named address name .unseen) <;> rfl

/-- How it ends: with the second check, whatever the probe brought. -/
theorem advance_adding (f : Fleet) (p : Peer) (o : Outcome) :
    (Call.adding p).advance f (.outcome o) =
      match f.registry.refusal? p with
      | some e => (f, .added (.error e))
      | none =>
          ({ f with registry := f.registry.store { p with capability := o.toOption.getD .unseen } },
            .added (.ok p.id)) := by
  have hrefusal : f.registry.refusal? { p with capability := o.toOption.getD .unseen } =
      f.registry.refusal? p := rfl
  simp only [Call.advance, Registry.enrollProbed, Registry.enroll, hrefusal]
  cases f.registry.refusal? p <;> rfl

/-- Until the outcome of its probe comes, the call waits. -/
theorem outcome_or_still (f : Fleet) (p : Peer) (arrival : Arrival) :
    (∃ o, arrival = .outcome o) ∨ (Call.adding p).advance f arrival = (f, .adding p) := by
  cases arrival with
  | outcome o => exact .inl ⟨o, rfl⟩
  | nothing => exact .inr rfl
  | thisNode c => exact .inr rfl
  | outcomes results => exact .inr rfl

theorem advance_added (f : Fleet) (result : Except RegistryError String) (arrival : Arrival) :
    (Call.added result).advance f arrival = (f, .added result) := rfl

end Call

namespace Traffic

/-- A move begins the call at a place or takes it a step further. -/
def IsMoveOf (t : Traffic) (place : Nat) (m : Move) : Prop :=
  (place = t.calls.length ∧ (t.begun? m).isSome) ∨ ∃ arrival, m = .proceed place arrival

/-- After some moves of a run, the next one is of the call at a place and changes the registry. -/
def Changes (t : Traffic) (place : Nat) (moves before : List Move) : Prop :=
  ∃ m, before ++ [m] <+: moves ∧ (t.run before).IsMoveOf place m ∧
    ((t.run before).step m).registry ≠ (t.run before).registry

/-- After some moves of a run, the next one checks the registry for the call at a place: it begins
to add a peer, or it brings the outcome of the probe. -/
inductive ChecksAfter (t : Traffic) (place : Nat) (moves : List Move) : List Move → Prop
  | begins {before : List Move} {address : Address} {name : Option String}
      (hmove : before ++ [.add address name] <+: moves)
      (hplace : place = (t.run before).calls.length) : t.ChecksAfter place moves before
  | probed {before : List Move} {candidate : Peer} {o : Outcome}
      (hmove : before ++ [.proceed place (.outcome o)] <+: moves)
      (hcall : (t.run before).calls[place]? = some (.adding candidate)) :
      t.ChecksAfter place moves before

/-- The call at a place put a peer in place and did nothing else: of its moves, the one that brought
the outcome of the probe changed the registry, and only under an identifier that was free. -/
def Admitted (t : Traffic) (place : Nat) (moves : List Move) (address : Address)
    (name : Option String) (id : String) : Prop :=
  id = Peer.idOf address name ∧
    ∃ before o, before ++ [.proceed place (.outcome o)] <+: moves ∧
      (∀ other, t.Changes place moves other ↔ other = before) ∧
      (t.run before).registry.get? id = none ∧
      ∀ id', ((t.run before).step (.proceed place (.outcome o))).registry.get? id' =
        if id = id' then some ⟨id, address, o.toOption.getD .unseen⟩
        else (t.run before).registry.get? id'

/-- The call at a place did nothing, because of its address or of what one of its checks found. -/
def Refused (t : Traffic) (place : Nat) (moves : List Move) (address : Address)
    (name : Option String) (e : RegistryError) : Prop :=
  (∀ before, ¬ t.Changes place moves before) ∧
    ((∃ fault, address.check = .error fault ∧ e = .ofAddress fault) ∨
      ∃ before, t.ChecksAfter place moves before ∧
        (t.run before).registry.Excludes (Peer.named address name .unseen) e)

/-- What a call that adds a peer has done so far. -/
def Tells (t : Traffic) (place : Nat) (moves : List Move) (address : Address)
    (name : Option String) : Call → Prop
  | .adding candidate =>
      candidate = Peer.named address name .unseen ∧ ∀ before, ¬ t.Changes place moves before
  | .added (.ok id) => t.Admitted place moves address name id
  | .added (.error e) => t.Refused place moves address name e
  | .dropped => True
  | _ => False

variable {t : Traffic} {place : Nat} {moves : List Move} {m : Move} {address : Address}
  {name : Option String}

/-- One more move that is not of the call, or changes nothing. -/
theorem changes_concat_iff
    (hquiet : (t.run moves).IsMoveOf place m →
      ((t.run moves).step m).registry = (t.run moves).registry) (before : List Move) :
    t.Changes place (moves ++ [m]) before ↔ t.Changes place moves before := by
  constructor
  · rintro ⟨m', hbegin, hmove, hchanged⟩
    rcases prefix_concat_cases hbegin with ⟨rfl, rfl⟩ | hearlier
    · exact absurd (hquiet hmove) hchanged
    · exact ⟨m', hearlier, hmove, hchanged⟩
  · rintro ⟨m', hbegin, hmove⟩
    exact ⟨m', hbegin.trans (List.prefix_append moves [m]), hmove⟩

theorem ChecksAfter.concat {before : List Move} (h : t.ChecksAfter place moves before) (m : Move) :
    t.ChecksAfter place (moves ++ [m]) before := by
  cases h with
  | begins hmove hplace => exact .begins (hmove.trans (List.prefix_append moves [m])) hplace
  | probed hmove hcall => exact .probed (hmove.trans (List.prefix_append moves [m])) hcall

theorem Tells.concat {call : Call} (h : t.Tells place moves address name call)
    (hquiet : (t.run moves).IsMoveOf place m →
      ((t.run moves).step m).registry = (t.run moves).registry) :
    t.Tells place (moves ++ [m]) address name call := by
  have hchanges := changes_concat_iff hquiet
  match call, h with
  | .adding candidate, ⟨hcandidate, hnone⟩ =>
      exact ⟨hcandidate, fun before hchange => hnone before ((hchanges before).1 hchange)⟩
  | .added (.ok id), ⟨hid, before, o, hmove, honly, habsent, hget⟩ =>
      exact ⟨hid, before, o, hmove.trans (List.prefix_append moves [m]),
        fun other => (hchanges other).trans (honly other), habsent, hget⟩
  | .added (.error e), ⟨hnone, hreason⟩ =>
      refine ⟨fun before hchange => hnone before ((hchanges before).1 hchange), ?_⟩
      rcases hreason with hfault | ⟨before, hcheck, hexcludes⟩
      · exact .inl hfault
      · exact .inr ⟨before, hcheck.concat m, hexcludes⟩
  | .dropped, _ => trivial

theorem registry_step_proceed {call : Call} (hcall : t.calls[place]? = some call)
    (arrival : Arrival) :
    (t.step (.proceed place arrival)).registry = (call.advance t.fleet arrival).1.registry := by
  rw [step_proceed hcall]
  rfl

/-- A step that leaves the fleet and the call as they were. -/
theorem step_proceed_still {call : Call} {arrival : Arrival}
    (hcall : t.calls[place]? = some call) (hstill : call.advance t.fleet arrival = (t.fleet, call)) :
    t.step (.proceed place arrival) = t := by
  obtain ⟨hlt, hget⟩ := List.getElem?_eq_some_iff.1 hcall
  rw [step_proceed hcall, hstill, ← hget, List.set_getElem_self]

theorem Tells.still {call : Call} {arrival : Arrival} (h : t.Tells place moves address name call)
    (hcall : (t.run moves).calls[place]? = some call)
    (hstill : call.advance (t.run moves).fleet arrival = ((t.run moves).fleet, call)) :
    t.Tells place (moves ++ [.proceed place arrival]) address name
      (call.advance (t.run moves).fleet arrival).2 := by
  rw [hstill]
  refine h.concat fun _ => ?_
  rw [step_proceed_still hcall hstill]

/-- The first check: the call has done nothing yet, and if it was refused, the check tells why. -/
theorem tells_add (t : Traffic) (address : Address) (name : Option String) :
    t.Tells t.calls.length [.add address name] address name (.add t.fleet address name) := by
  have hnone : ∀ before, ¬ t.Changes t.calls.length [.add address name] before := by
    rintro before ⟨m, hbegin, -, hchanged⟩
    have hfirst : before ++ [m] <+: [] ++ [.add address name] := hbegin
    rcases prefix_concat_cases hfirst with ⟨rfl, rfl⟩ | hlater
    · exact hchanged rfl
    · exact absurd (List.prefix_nil.1 hlater) (by simp)
  rw [Call.add_eq]
  cases hcheck : address.check with
  | error fault => exact ⟨hnone, .inl ⟨fault, hcheck, rfl⟩⟩
  | ok sound =>
      cases hrefusal : t.fleet.registry.refusal? (Peer.named address name .unseen) with
      | none => exact ⟨rfl, hnone⟩
      | some e =>
          refine ⟨hnone, .inr ⟨[], ?_, Registry.excludes_of_refusal? hrefusal⟩⟩
          exact .begins List.prefix_rfl rfl

/-- The second check: whether the call admits its peer or is refused, this is what it did. -/
theorem Tells.probed (hcall : (t.run moves).calls[place]? =
      some (.adding (Peer.named address name .unseen)))
    (hnone : ∀ before, ¬ t.Changes place moves before) (o : Outcome) :
    t.Tells place (moves ++ [.proceed place (.outcome o)]) address name
      ((Call.adding (Peer.named address name .unseen)).advance (t.run moves).fleet
        (.outcome o)).2 := by
  have hregistry := registry_step_proceed hcall (.outcome o)
  rw [Call.advance_adding] at hregistry ⊢
  cases hrefusal : (t.run moves).fleet.registry.refusal? (Peer.named address name .unseen) with
  | some e =>
      rw [hrefusal] at hregistry
      have hchanges : ∀ before, t.Changes place (moves ++ [.proceed place (.outcome o)]) before ↔
          t.Changes place moves before := changes_concat_iff fun _ => hregistry
      refine ⟨fun before hchange => hnone before ((hchanges before).1 hchange), .inr ⟨moves, ?_, ?_⟩⟩
      · exact .probed List.prefix_rfl hcall
      · exact Registry.excludes_of_refusal? hrefusal
  | none =>
      rw [hrefusal] at hregistry
      have hfree : (t.run moves).registry.get? (Peer.idOf address name) = none :=
        (Registry.refusal?_eq_none_iff.1 hrefusal).2.2
      have hget : ∀ id',
          ((t.run moves).step (.proceed place (.outcome o))).registry.get? id' =
            if Peer.idOf address name = id' then
              some ⟨Peer.idOf address name, address, o.toOption.getD .unseen⟩
            else (t.run moves).registry.get? id' := by
        intro id'
        rw [hregistry]
        exact Registry.get?_store _ _ id'
      refine ⟨rfl, moves, o, List.prefix_rfl, fun other => ⟨?_, ?_⟩, hfree, hget⟩
      · rintro ⟨m, hbegin, hmove, hchanged⟩
        rcases prefix_concat_cases hbegin with ⟨hlast, -⟩ | hearlier
        · exact hlast
        · exact absurd ⟨m, hearlier, hmove, hchanged⟩ (hnone other)
      · rintro rfl
        refine ⟨_, List.prefix_rfl, .inr ⟨_, rfl⟩, fun hsame => ?_⟩
        have hthere := hget (Peer.idOf address name)
        rw [hsame, hfree, if_pos rfl] at hthere
        cases hthere

/-- After every run since a call began to add a peer, this is what it has done. -/
theorem tells_run (t : Traffic) (address : Address) (name : Option String) (after : List Move) :
    ∃ call, (t.run (.add address name :: after)).calls[t.calls.length]? = some call ∧
      t.Tells t.calls.length (.add address name :: after) address name call := by
  induction after using List.reverseRecOn with
  | nil => exact ⟨_, List.getElem?_concat_length, tells_add t address name⟩
  | append_singleton after m ih =>
      obtain ⟨call, hcall, htells⟩ := ih
      rw [← List.cons_append, run_concat]
      have hlt : t.calls.length < (t.run (.add address name :: after)).calls.length :=
        (List.getElem?_eq_some_iff.1 hcall).1
      rcases getElem?_calls_step (m := m) hcall with
        ⟨hother, hsame⟩ | ⟨arrival, rfl, hnext⟩ | hdropped
      · refine ⟨call, hsame, htells.concat ?_⟩
        rintro (⟨hplace, -⟩ | ⟨arrival, rfl⟩)
        · omega
        · exact absurd rfl (hother arrival)
      · refine ⟨_, hnext, ?_⟩
        cases call with
        | adding candidate =>
            obtain ⟨rfl, hnone⟩ := htells
            rcases Call.outcome_or_still _ _ arrival with ⟨o, rfl⟩ | hstill
            · exact .probed hcall hnone o
            · exact Tells.still ⟨rfl, hnone⟩ hcall hstill
        | added result => exact htells.still hcall (Call.advance_added _ result arrival)
        | dropped => trivial
        | loading report index entries => exact htells.elim
        | loaded result => exact htells.elim
        | cycling c phase => exact htells.elim
      · exact ⟨.dropped, hdropped, trivial⟩

/-- A second check that refuses the peer. -/
theorem step_refused {p : Peer} {e : RegistryError} (hcall : t.calls[place]? = some (.adding p))
    (hrefusal : t.registry.refusal? p = some e) (o : Outcome) :
    t.step (.proceed place (.outcome o)) =
      ⟨t.fleet, t.calls.set place (.added (.error e))⟩ := by
  rw [step_proceed hcall, Call.advance_adding,
    show t.fleet.registry.refusal? p = some e from hrefusal]

/-- A second check that admits the peer. -/
theorem step_admitted {p : Peer} (hcall : t.calls[place]? = some (.adding p))
    (hrefusal : t.registry.refusal? p = none) (o : Outcome) :
    t.step (.proceed place (.outcome o)) =
      ⟨{ t.fleet with
          registry := t.registry.store { p with capability := o.toOption.getD .unseen } },
        t.calls.set place (.added (.ok p.id))⟩ := by
  rw [step_proceed hcall, Call.advance_adding,
    show t.fleet.registry.refusal? p = none from hrefusal]
  rfl

/-- The outcome of the probe ends the call, with a result that does not depend on the outcome. -/
theorem returns_of_adding {p : Peer} (hcall : t.calls[place]? = some (.adding p)) :
    ∃ result, ∀ o, (t.step (.proceed place (.outcome o))).calls[place]? =
      some (.added result) := by
  have hlt : place < t.calls.length := (List.getElem?_eq_some_iff.1 hcall).1
  cases hrefusal : t.registry.refusal? p with
  | some e =>
      refine ⟨.error e, fun o => ?_⟩
      rw [step_refused hcall hrefusal o]
      exact List.getElem?_set_self hlt
  | none =>
      refine ⟨.ok p.id, fun o => ?_⟩
      rw [step_admitted hcall hrefusal o]
      exact List.getElem?_set_self hlt

end Traffic

end InferenceFleet
