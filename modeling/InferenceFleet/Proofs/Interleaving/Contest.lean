import InferenceFleet.Proofs.Interleaving.Adding

/-!
# Several peers for one host

Which of several calls for one free host succeeds depends on whose probe is over first, as all of
them may pass their first check. The first to be admitted takes the host, and every other call is
refused in its favour, at its first check or at its second (`Contest`). Whether their identifiers
differ does not matter, as hosts are compared first.
-/

namespace InferenceFleet

namespace Traffic

/-- A fleet with no call under way. -/
def idle (f : Fleet) : Traffic := ⟨f, []⟩

/-- The peers that a run asks for, in the order in which the calls begin. -/
def requests (moves : List Move) : List (Address × Option String) :=
  moves.filterMap fun m =>
    match m with
    | .add address name => some (address, name)
    | _ => none

/-- The peer of a request before it was probed. -/
def candidateOf (request : Address × Option String) : Peer :=
  Peer.named request.1 request.2 .unseen

/-- Each of some requests could be granted alone, and all of them are for one host. -/
structure Contested (r : Registry) (host : String) (asked : List (Address × Option String)) :
    Prop where
  free : r.atHost? host = none
  same : ∀ request ∈ asked, Text.sameUpToAsciiCase request.1.host host = true
  sound : ∀ request ∈ asked, request.1.check = .ok ()
  remote : ∀ request ∈ asked, (candidateOf request).id ≠ localId
  absent : ∀ request ∈ asked, r.get? (candidateOf request).id = none

/-- All calls passed their first check, and none is further. -/
structure Undecided (r : Registry) (asked : List (Address × Option String)) (t : Traffic) :
    Prop where
  registry_eq : t.registry = r
  calls_eq : t.calls = asked.map fun request => .adding (candidateOf request)

/-- What may have become of a request if another one was granted first. -/
def Beaten (winner : String) (request : Address × Option String) (call : Call) : Prop :=
  call = .adding (candidateOf request) ∨
    call = .added (.error (.duplicateHost request.1.host winner))

/-- A request was granted, and nothing else was done. The others are refused in its favour, or will
be. -/
structure Won (r : Registry) (asked : List (Address × Option String)) (t : Traffic) (winner : Nat)
    (granted : Address × Option String) (answer : Capability) : Prop where
  asks : asked[winner]? = some granted
  added : t.calls[winner]? = some (.added (.ok (candidateOf granted).id))
  registry_eq : t.registry = r.store { candidateOf granted with capability := answer }
  length_eq : t.calls.length = asked.length
  beaten : ∀ other request call, other ≠ winner → asked[other]? = some request →
    t.calls[other]? = some call → Beaten (candidateOf granted).id request call

/-- How several calls for one host stand. -/
inductive Contest (r : Registry) (asked : List (Address × Option String)) (t : Traffic) : Prop
  | undecided (h : Undecided r asked t)
  | won {winner : Nat} {granted : Address × Option String} {answer : Capability}
      (h : Won r asked t winner granted answer)

variable {t : Traffic} {place : Nat} {moves : List Move} {r : Registry} {host : String}
  {asked : List (Address × Option String)} {request granted : Address × Option String}

theorem Contested.of_concat (h : Contested r host (asked ++ [request])) :
    Contested r host asked where
  free := h.free
  same request' hmem := h.same request' (List.mem_append_left _ hmem)
  sound request' hmem := h.sound request' (List.mem_append_left _ hmem)
  remote request' hmem := h.remote request' (List.mem_append_left _ hmem)
  absent request' hmem := h.absent request' (List.mem_append_left _ hmem)

/-- Before one request is granted, none is refused. -/
theorem Contested.refusal?_eq_none (h : Contested r host asked) (hmem : request ∈ asked) :
    r.refusal? (candidateOf request) = none := by
  have hfree := Registry.atHost?_eq_none_of_same h.free (h.same request hmem)
  exact Registry.refusal?_eq_none_iff.2
    ⟨h.remote request hmem, Registry.atHost?_eq_none_iff.1 hfree, h.absent request hmem⟩

/-- Once one is granted, all are refused in its favour. -/
theorem Contested.refusal?_store (h : Contested r host asked) (hgranted : granted ∈ asked)
    (hmem : request ∈ asked) (answer : Capability) :
    (r.store { candidateOf granted with capability := answer }).refusal? (candidateOf request) =
      some (.duplicateHost request.1.host (candidateOf granted).id) := by
  have hsame : Text.sameUpToAsciiCase granted.1.host request.1.host = true := by
    refine Text.sameUpToAsciiCase_trans (h.same granted hgranted) ?_
    rw [Text.sameUpToAsciiCase_comm]
    exact h.same request hmem
  have hfree := Registry.atHost?_eq_none_of_same h.free (h.same request hmem)
  have htaken := Registry.atHost?_store
    (p := { candidateOf granted with capability := answer }) hfree hsame
  have hrefusal := Registry.refusal?_of_atHost? (h.remote request hmem) htaken
  exact hrefusal

/-- How one more call begins. -/
theorem Contested.add_eq (h : Contested r host asked) (hmem : request ∈ asked) :
    Call.add t.fleet request.1 request.2 =
      match t.registry.refusal? (candidateOf request) with
      | some e => .added (.error e)
      | none => .adding (candidateOf request) := by
  rw [Call.add_eq, h.sound request hmem]
  rfl

theorem Undecided.add (h : Undecided r asked t)
    (hcontested : Contested r host (asked ++ [request])) :
    Undecided r (asked ++ [request]) (t.step (.add request.1 request.2)) where
  registry_eq := h.registry_eq
  calls_eq := by
    have hmem : request ∈ asked ++ [request] :=
      List.mem_append_right _ (List.mem_singleton_self _)
    have hfree : t.registry.refusal? (candidateOf request) = none := by
      rw [h.registry_eq]
      exact hcontested.refusal?_eq_none hmem
    simp only [step, hcontested.add_eq hmem, hfree, h.calls_eq, List.map_append, List.map_cons,
      List.map_nil]

theorem Won.add {winner : Nat} {answer : Capability} (h : Won r asked t winner granted answer)
    (hcontested : Contested r host (asked ++ [request])) :
    Won r (asked ++ [request]) (t.step (.add request.1 request.2)) winner granted answer where
  asks := (List.getElem?_append_left (List.getElem?_eq_some_iff.1 h.asks).1).trans h.asks
  added := (List.getElem?_append_left (List.getElem?_eq_some_iff.1 h.added).1).trans h.added
  registry_eq := h.registry_eq
  length_eq := by simp [step, h.length_eq]
  beaten other request' call hother hasks hcall := by
    have hlength := h.length_eq
    rcases getElem?_concat_cases hcall with hold | ⟨hplace, rfl⟩
    · rcases getElem?_concat_cases hasks with hearlier | ⟨hplace, -⟩
      · exact h.beaten other request' call hother hearlier hold
      · have hlt := (List.getElem?_eq_some_iff.1 hold).1
        omega
    · rcases getElem?_concat_cases hasks with hearlier | ⟨-, rfl⟩
      · have hlt := (List.getElem?_eq_some_iff.1 hearlier).1
        omega
      · have hmem : request ∈ asked ++ [request] :=
          List.mem_append_right _ (List.mem_singleton_self _)
        have htaken := hcontested.refusal?_store
          (List.mem_append_left _ (List.mem_of_getElem? h.asks)) hmem answer
        rw [← h.registry_eq] at htaken
        refine .inr ?_
        rw [hcontested.add_eq hmem, htaken]

/-- The first of all second checks grants its request. -/
theorem Undecided.probed (h : Undecided r asked t) (hcontested : Contested r host asked)
    (hasks : asked[place]? = some request) (o : Outcome) :
    Won r asked (t.step (.proceed place (.outcome o))) place request (o.toOption.getD .unseen) := by
  have hadding : ∀ (other : Nat) (request' : Address × Option String),
      asked[other]? = some request' →
      t.calls[other]? = some (Call.adding (candidateOf request')) := by
    intro other request' hasks'
    rw [h.calls_eq, List.getElem?_map, hasks']
    rfl
  have hcall := hadding place request hasks
  have hfree : t.registry.refusal? (candidateOf request) = none := by
    rw [h.registry_eq]
    exact hcontested.refusal?_eq_none (List.mem_of_getElem? hasks)
  rw [step_admitted hcall hfree o]
  refine ⟨hasks, List.getElem?_set_self (List.getElem?_eq_some_iff.1 hcall).1, ?_, ?_, ?_⟩
  · rw [← h.registry_eq]
    rfl
  · simp [h.calls_eq]
  · intro other request' call hother hasks' hcall'
    rcases getElem?_set_cases hcall' with hold | ⟨rfl, -⟩
    · rw [hadding other request' hasks'] at hold
      exact .inl (Option.some.inj hold).symm
    · exact absurd rfl hother

/-- Every later one refuses. -/
theorem Won.probed {winner : Nat} {answer : Capability} (h : Won r asked t winner granted answer)
    (hcontested : Contested r host asked) (hother : place ≠ winner)
    (hasks : asked[place]? = some request)
    (hcall : t.calls[place]? = some (.adding (candidateOf request))) (o : Outcome) :
    Won r asked (t.step (.proceed place (.outcome o))) winner granted answer := by
  have htaken := hcontested.refusal?_store (List.mem_of_getElem? h.asks)
    (List.mem_of_getElem? hasks) answer
  rw [← h.registry_eq] at htaken
  rw [step_refused hcall htaken o]
  refine ⟨h.asks, (List.getElem?_set_ne hother).trans h.added, h.registry_eq, ?_, ?_⟩
  · simp [h.length_eq]
  · intro other request' call hother' hasks' hcall'
    rcases getElem?_set_cases hcall' with hold | ⟨rfl, rfl⟩
    · exact h.beaten other request' call hother' hasks' hold
    · rw [hasks] at hasks'
      obtain rfl := Option.some.inj hasks'
      exact .inr rfl

/-- One call goes on. -/
theorem Contest.proceed (h : Contest r asked t) (hcontested : Contested r host asked) (place : Nat)
    (arrival : Arrival) : Contest r asked (t.step (.proceed place arrival)) := by
  cases hplace : t.calls[place]? with
  | none =>
      have hstep : t.step (.proceed place arrival) = t := by simp only [step, hplace]
      rw [hstep]
      exact h
  | some call =>
      have hstill : call.advance t.fleet arrival = (t.fleet, call) →
          Contest r asked (t.step (.proceed place arrival)) := by
        intro hsame
        rw [step_proceed_still hplace hsame]
        exact h
      -- Only a call whose probe is over does anything; that is where the contest is decided.
      cases h with
      | undecided hundecided =>
          rw [hundecided.calls_eq, List.getElem?_map] at hplace
          obtain ⟨request, hasks, rfl⟩ := Option.map_eq_some_iff.1 hplace
          rcases Call.outcome_or_still _ _ arrival with ⟨o, rfl⟩ | hwaits
          · exact .won (hundecided.probed hcontested hasks o)
          · exact hstill hwaits
      | @won winner granted answer hwon =>
          by_cases hwinner : place = winner
          · subst hwinner
            obtain rfl := Option.some.inj (hplace.symm.trans hwon.added)
            exact hstill rfl
          · have hlt : place < asked.length :=
              hwon.length_eq ▸ (List.getElem?_eq_some_iff.1 hplace).1
            have hasks : asked[place]? = some asked[place] := List.getElem?_eq_getElem hlt
            rcases hwon.beaten place _ call hwinner hasks hplace with rfl | rfl
            · rcases Call.outcome_or_still _ _ arrival with ⟨o, rfl⟩ | hwaits
              · exact .won (hwon.probed hcontested hwinner hasks hplace o)
              · exact hstill hwaits
            · exact hstill rfl

/-- A move that begins to add a peer or takes a call a step further, or is beside the registry. -/
def IsAdding : Move → Prop
  | .add _ _ => True
  | .proceed _ _ => True
  | .beside _ => True
  | _ => False

theorem requests_concat (moves : List Move) (m : Move) :
    requests (moves ++ [m]) = requests moves ++ requests [m] := List.filterMap_append

/-- After every run in which peers are added and nothing else is done, the contest stands. -/
theorem contest_run {f : Fleet} (hcontested : Contested f.registry host (requests moves))
    (hadding : ∀ m ∈ moves, IsAdding m) :
    Contest f.registry (requests moves) ((idle f).run moves) := by
  induction moves using List.reverseRecOn with
  | nil => exact .undecided ⟨rfl, rfl⟩
  | append_singleton moves m ih =>
      have hearlier : ∀ m' ∈ moves, IsAdding m' := fun m' hmem =>
        hadding m' (List.mem_append_left _ hmem)
      rw [requests_concat] at hcontested ⊢
      rw [run_concat]
      cases m with
      | add address name =>
          cases ih hcontested.of_concat hearlier with
          | undecided h => exact .undecided (h.add hcontested)
          | won h => exact .won (h.add hcontested)
      | proceed place arrival =>
          rw [show requests [.proceed place arrival] = [] from rfl, List.append_nil] at hcontested ⊢
          exact (ih hcontested hearlier).proceed hcontested place arrival
      | beside f' =>
          rw [show requests [.beside f'] = [] from rfl, List.append_nil] at hcontested ⊢
          cases ih hcontested hearlier with
          | undecided h => exact .undecided ⟨h.registry_eq, h.calls_eq⟩
          | won h => exact .won ⟨h.asks, h.added, h.registry_eq, h.length_eq, h.beaten⟩
      | access a => exact (hadding _ (List.mem_append_right _ (List.mem_singleton_self _))).elim
      | load path => exact (hadding _ (List.mem_append_right _ (List.mem_singleton_self _))).elim
      | cycle c => exact (hadding _ (List.mem_append_right _ (List.mem_singleton_self _))).elim
      | drop place => exact (hadding _ (List.mem_append_right _ (List.mem_singleton_self _))).elim

/-- There is one call for each request; one of them was granted, and all others were refused in its
favour. -/
def HasOneWinner (t : Traffic) (asked : List (Address × Option String)) : Prop :=
  t.calls.length = asked.length ∧
    ∃ winner granted, asked[winner]? = some granted ∧
      t.calls[winner]? = some (Call.added (.ok (candidateOf granted).id)) ∧
      ∀ (other : Nat) (request : Address × Option String), other ≠ winner →
        asked[other]? = some request →
        t.calls[other]? =
          some (Call.added (.error (.duplicateHost request.1.host (candidateOf granted).id)))

/-- Once all calls are over, one has won. -/
theorem Contest.hasOneWinner (h : Contest r asked t) (hasked : asked ≠ [])
    (hover : ∀ call ∈ t.calls, ∃ result, call = .added result) : t.HasOneWinner asked := by
  cases h with
  | undecided h =>
      obtain ⟨request, hmem⟩ := List.exists_mem_of_ne_nil asked hasked
      have hwaiting : Call.adding (candidateOf request) ∈ t.calls := by
        rw [h.calls_eq]
        exact List.mem_map_of_mem hmem
      obtain ⟨result, hresult⟩ := hover _ hwaiting
      cases hresult
  | @won winner granted answer h =>
      refine ⟨h.length_eq, winner, granted, h.asks, h.added, ?_⟩
      intro other request hother hasks
      have hlt : other < t.calls.length := h.length_eq ▸ (List.getElem?_eq_some_iff.1 hasks).1
      have hcall : t.calls[other]? = some t.calls[other] := List.getElem?_eq_getElem hlt
      rcases h.beaten other request _ hother hasks hcall with hadding | hrefused
      · obtain ⟨result, hresult⟩ := hover _ (List.getElem_mem hlt)
        rw [hadding] at hresult
        cases hresult
      · rw [hcall, hrefused]

/-- However calls that add peers interleave, with each other and with anything else: one that returns
an identifier put one entry there, at its address, and one that returns an error did nothing, for a
reason that its arguments or one of its two checks gave; and a call whose probe is over returns, with
a result that does not depend on whether the probe failed. If peers are added and nothing else is
done, and each could be added alone but all are for one host, then one call succeeds and the others
are refused in its favour. -/
theorem peers_added_at_once (f : Fleet) (moves : List Move) :
    let t := (idle f).run moves
    (∀ before address name after, moves = before ++ .add address name :: after →
      let u := (idle f).run before
      let place := u.calls.length
      (∀ id, t.calls[place]? = some (.added (.ok id)) →
        u.Admitted place (.add address name :: after) address name id) ∧
      ∀ e, t.calls[place]? = some (.added (.error e)) →
        u.Refused place (.add address name :: after) address name e) ∧
    (∀ place candidate, t.calls[place]? = some (.adding candidate) →
      ∃ result, ∀ o,
        (t.step (.proceed place (.outcome o))).calls[place]? = some (.added result)) ∧
    ∀ host, (∀ m ∈ moves, IsAdding m) → requests moves ≠ [] →
      Contested f.registry host (requests moves) →
      (∀ call ∈ t.calls, ∃ result, call = .added result) → t.HasOneWinner (requests moves) := by
  intro t
  refine ⟨?_, fun place candidate hcall => returns_of_adding hcall, ?_⟩
  · rintro before address name after rfl u place
    obtain ⟨call, hcall, htells⟩ := tells_run u address name after
    have hsame : t.calls[place]? = some call := by
      rw [← hcall, ← run_append]
    constructor
    · intro id hadded
      obtain rfl := Option.some.inj (hsame.symm.trans hadded)
      exact htells
    · intro e hadded
      obtain rfl := Option.some.inj (hsame.symm.trans hadded)
      exact htells
  · intro host hadding hasked hcontested hover
    exact (contest_run hcontested hadding).hasOneWinner hasked hover

/-- Two peers are asked for whose hosts differ in the case of letters. Both pass the first check;
then the probe of the second fails, and that of the first succeeds. -/
def race : List Move :=
  [.add ⟨"gpu-box", defaultPort⟩ none, .add ⟨"GPU-Box", defaultPort⟩ none,
    .proceed 1 (.outcome (.error ⟨"GPU-Box", .network "refused"⟩)),
    .proceed 0 (.outcome (.ok .unseen))]

theorem calls_race : ((idle quiet).run race).calls =
    [.added (.error (.duplicateHost "gpu-box" "GPU-Box")), .added (.ok "GPU-Box")] := rfl

theorem contested_race : Contested quiet.registry "gpu-box" (requests race) := by
  constructor <;> decide +kernel

theorem peers_added_at_once_race :
    ((idle quiet).run race).HasOneWinner (requests race) ∧
    ((idle quiet).run (race.take 1)).Admitted 1 (race.drop 1) ⟨"GPU-Box", defaultPort⟩ none
      "GPU-Box" ∧
    (idle quiet).Refused 0 race ⟨"gpu-box", defaultPort⟩ none
      (.duplicateHost "gpu-box" "GPU-Box") := by
  obtain ⟨hcalls, -, hcontest⟩ := peers_added_at_once quiet race
  refine ⟨hcontest "gpu-box" ?_ (by decide) contested_race ?_, ?_, ?_⟩
  · simp [race, IsAdding]
  · rw [calls_race]
    simp
  · exact (hcalls (race.take 1) _ _ _ rfl).1 "GPU-Box" rfl
  · exact (hcalls [] _ _ _ rfl).2 _ rfl

end Traffic

end InferenceFleet
