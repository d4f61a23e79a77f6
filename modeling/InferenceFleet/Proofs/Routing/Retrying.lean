import InferenceFleet.Proofs.Routing.Counting
import InferenceFleet.Proofs.Routing.RetryWalk

/-!
# Attempts on a fleet that changes

A caller may ask for the next request and record failures in any order and as often as it likes.
What its attempts know by then is what its calls were (`Attempts.Recalls`): how many requests they
handed out, which peers failed, and whether a fallback did. So the request that is handed out next
is the one it began with, past the peers that failed so far.

If every route that a caller gets is recorded before it asks again, each request leaves out the
peers of all routes before it, so a route leads to a new peer whatever the registry has become by
then, and the fallback comes last.
-/

namespace InferenceFleet

/-- What a caller can do with its attempts. -/
inductive AttemptCall
  | next
  | recordFailure (route : Route)

namespace AttemptCall

/-- The route that a call records. -/
def recorded? : AttemptCall → Option Route
  | .next => none
  | .recordFailure route => some route

/-- The routes that were recorded, in order. -/
def recorded (calls : List AttemptCall) : List Route := calls.filterMap recorded?

theorem recorded_concat (calls : List AttemptCall) (c : AttemptCall) :
    recorded (calls ++ [c]) = recorded calls ++ c.recorded?.toList := by
  unfold recorded
  rw [List.filterMap_append]
  cases c <;> rfl

end AttemptCall

open AttemptCall (recorded)

/-- A request is the one that a caller began with, past the peers of the routes that were recorded
and are no fallbacks. -/
structure Request.LeavesOut (base : Request) (failures : List Route) (r : Request) : Prop where
  rest : r = { base with excluded := r.excluded }
  excluded_iff : ∀ id, r.excluded.contains id = true ↔
    base.excluded.contains id = true ∨
      ∃ route ∈ failures, route.isFallback = false ∧ route.peerId = id

namespace Attempts

/-- What a call hands out, and the attempts after it. -/
def call (a : Attempts) : AttemptCall → Option Request × Attempts
  | .next => a.next
  | .recordFailure route => (none, a.recordFailure route)

/-- The attempts after some calls. -/
def after (a : Attempts) (calls : List AttemptCall) : Attempts :=
  calls.foldl (fun a c => (a.call c).2) a

/-- The requests that some calls hand out, in order. -/
def handedOut : Attempts → List AttemptCall → List Request
  | _, [] => []
  | a, c :: rest => (a.call c).1.toList ++ handedOut (a.call c).2 rest

theorem after_concat (a : Attempts) (calls : List AttemptCall) (c : AttemptCall) :
    a.after (calls ++ [c]) = ((a.after calls).call c).2 := by
  unfold after
  rw [List.foldl_append]
  rfl

theorem handedOut_concat (a : Attempts) (calls : List AttemptCall) (c : AttemptCall) :
    a.handedOut (calls ++ [c]) = a.handedOut calls ++ ((a.after calls).call c).1.toList := by
  induction calls generalizing a with
  | nil => simp [handedOut, after]
  | cons first rest ih =>
      rw [List.cons_append, handedOut, handedOut, ih, List.append_assoc]
      rfl

/-- A next request is the one that the caller began with, past the failed peers; and there is one
exactly if attempts are left and no fallback failed. -/
theorem next_fst_eq_some_iff {a : Attempts} {r : Request} :
    a.next.1 = some r ↔
      a.made < a.limit ∧ a.reachedFallback = false ∧ r = a.base.excluding a.failed := by
  by_cases hleft : a.made < a.limit ∧ a.reachedFallback = false
  · rw [next_of_left hleft.1 hleft.2]
    simp [hleft, eq_comm]
  · have hdone : a.limit ≤ a.made ∨ a.reachedFallback = true := by
      rcases not_and_or.1 hleft with hspent | hreached
      · exact .inl (Nat.not_lt.1 hspent)
      · exact .inr (by simpa using hreached)
    rw [next_of_done hdone]
    constructor
    · intro hnone
      cases hnone
    · rintro ⟨hmade, hno, -⟩
      exact absurd ⟨hmade, hno⟩ hleft

theorem next_snd (a : Attempts) :
    a.next.2 = { a with made := a.made + a.next.1.toList.length } := by
  unfold next
  split <;> rfl

/-- A failure is noted by its peer, or as that of the fallback. -/
theorem mem_recordFailure_failed {a : Attempts} {route : Route} {id : String} :
    id ∈ (a.recordFailure route).failed ↔
      id ∈ a.failed ∨ route.isFallback = false ∧ route.peerId = id := by
  unfold recordFailure
  cases hfallback : route.isFallback with
  | true => simp
  | false =>
      by_cases hknown : route.peerId ∈ a.failed
      · simp only [Bool.false_eq_true, if_false, List.contains_iff_mem, hknown, if_true, true_and]
        constructor
        · exact .inl
        · rintro (hmem | rfl)
          · exact hmem
          · exact hknown
      · simp [hknown, eq_comm]

theorem recordFailure_reachedFallback (a : Attempts) (route : Route) :
    (a.recordFailure route).reachedFallback = (route.isFallback || a.reachedFallback) := by
  unfold recordFailure
  cases route.isFallback with
  | true => rfl
  | false =>
      simp only [Bool.false_eq_true, if_false, Bool.false_or]
      split <;> rfl

@[simp]
theorem recordFailure_base (a : Attempts) (route : Route) :
    (a.recordFailure route).base = a.base := by
  unfold recordFailure
  split
  · rfl
  · split <;> rfl

/-- What attempts that began with a request and a limit know after some calls. -/
structure Recalls (base : Request) (limit : Nat) (calls : List AttemptCall) (a : Attempts) :
    Prop where
  base_eq : a.base = base
  limit_eq : a.limit = limit
  made_eq : a.made = ((new base limit).handedOut calls).length
  made_le : a.made ≤ limit
  mem_failed_iff : ∀ id, id ∈ a.failed ↔
    ∃ route ∈ recorded calls, route.isFallback = false ∧ route.peerId = id
  reachedFallback_iff : a.reachedFallback = false ↔
    ∀ route ∈ recorded calls, route.isFallback = false

variable {base : Request} {limit : Nat} {calls : List AttemptCall} {a : Attempts}

theorem recalls_new (base : Request) (limit : Nat) : Recalls base limit [] (new base limit) where
  base_eq := rfl
  limit_eq := rfl
  made_eq := rfl
  made_le := Nat.zero_le limit
  mem_failed_iff id := by simp [new, recorded]
  reachedFallback_iff := by simp [new, recorded]

theorem Recalls.next (h : Recalls base limit calls ((new base limit).after calls)) :
    Recalls base limit (calls ++ [.next]) ((new base limit).after calls).next.2 := by
  have hrecorded : recorded (calls ++ [.next]) = recorded calls := by
    rw [AttemptCall.recorded_concat]
    exact List.append_nil _
  rw [next_snd]
  refine ⟨h.base_eq, h.limit_eq, ?made, ?bound, ?failed, ?fallback⟩
  case made =>
    rw [handedOut_concat, List.length_append, ← h.made_eq]
    rfl
  case bound =>
    cases hnext : ((new base limit).after calls).next.1 with
    | none => exact h.made_le
    | some r =>
        have hleft := (next_fst_eq_some_iff.1 hnext).1
        rw [h.limit_eq] at hleft
        exact hleft
  case failed =>
    rw [hrecorded]
    exact h.mem_failed_iff
  case fallback =>
    rw [hrecorded]
    exact h.reachedFallback_iff

theorem Recalls.recordFailure (h : Recalls base limit calls ((new base limit).after calls))
    (route : Route) :
    Recalls base limit (calls ++ [.recordFailure route])
      (((new base limit).after calls).recordFailure route) := by
  have hrecorded : recorded (calls ++ [.recordFailure route]) = recorded calls ++ [route] :=
    AttemptCall.recorded_concat calls (.recordFailure route)
  refine ⟨?base, ?limit, ?made, ?bound, ?failed, ?fallback⟩
  case base => rw [recordFailure_base, h.base_eq]
  case limit => rw [recordFailure_limit, h.limit_eq]
  case made =>
    rw [handedOut_concat, recordFailure_made, h.made_eq]
    simp [call]
  case bound =>
    rw [recordFailure_made]
    exact h.made_le
  case failed =>
    intro id
    rw [mem_recordFailure_failed, h.mem_failed_iff, hrecorded]
    simp [or_and_right, exists_or]
  case fallback =>
    rw [recordFailure_reachedFallback, Bool.or_eq_false_iff, h.reachedFallback_iff, hrecorded]
    simp [or_imp, forall_and, and_comm]

/-- Whatever the calls were and in whatever order, the attempts know them. -/
theorem recalls_after (base : Request) (limit : Nat) (calls : List AttemptCall) :
    Recalls base limit calls ((new base limit).after calls) := by
  induction calls using List.reverseRecOn with
  | nil => exact recalls_new base limit
  | append_singleton calls c ih =>
      rw [after_concat]
      cases c with
      | next => exact ih.next
      | recordFailure route => exact ih.recordFailure route

theorem Recalls.leavesOut (h : Recalls base limit calls a) {r : Request}
    (hnext : a.next.1 = some r) : base.LeavesOut (recorded calls) r := by
  obtain ⟨-, -, rfl⟩ := next_fst_eq_some_iff.1 hnext
  rw [h.base_eq]
  refine ⟨rfl, fun id => ?_⟩
  rw [← h.mem_failed_iff]
  simp [Request.excluding, or_comm]

/-! ## Attempts whose results are recorded -/

/-- An attempt: what the caller did with its attempts before it, and the registry and the hook that
the router meets at it. -/
structure Round where
  before : List AttemptCall
  registry : Registry
  hook : LearnedHook

/-- The attempts after a result; only a route can be recorded. -/
def recordResult (a : Attempts) : Except RoutingError Route → Attempts
  | .ok route => a.recordFailure route
  | .error _ => a

/-- The results of some attempts, each recorded before the next one. -/
def tryAll : Router → Attempts → List Round → List (Except RoutingError Route)
  | _, _, [] => []
  | router, a, round :: rest =>
      match (a.after round.before).next with
      | (none, a) => tryAll router a rest
      | (some request, a) =>
          let (result, router) := router.answer ⟨round.registry, round.hook, .route request⟩
          result :: tryAll router (a.recordResult result) rest

/-- Nothing that failed is forgotten. -/
structure Extends (a b : Attempts) : Prop where
  base_eq : b.base = a.base
  limit_eq : b.limit = a.limit
  made_le : a.made ≤ b.made
  failed_subset : ∀ id ∈ a.failed, id ∈ b.failed
  reachedFallback : a.reachedFallback = true → b.reachedFallback = true

theorem Extends.refl (a : Attempts) : Extends a a :=
  ⟨rfl, rfl, le_refl _, fun _ hmem => hmem, fun hreached => hreached⟩

theorem Extends.trans {a b c : Attempts} (hab : Extends a b) (hbc : Extends b c) :
    Extends a c where
  base_eq := hbc.base_eq.trans hab.base_eq
  limit_eq := hbc.limit_eq.trans hab.limit_eq
  made_le := hab.made_le.trans hbc.made_le
  failed_subset id hmem := hbc.failed_subset id (hab.failed_subset id hmem)
  reachedFallback hreached := hbc.reachedFallback (hab.reachedFallback hreached)

theorem extends_next (a : Attempts) : Extends a a.next.2 := by
  rw [next_snd]
  exact ⟨rfl, rfl, Nat.le_add_right _ _, fun _ hmem => hmem, fun hreached => hreached⟩

theorem extends_recordFailure (a : Attempts) (route : Route) :
    Extends a (a.recordFailure route) where
  base_eq := recordFailure_base a route
  limit_eq := recordFailure_limit a route
  made_le := le_of_eq (recordFailure_made a route).symm
  failed_subset id hmem := mem_recordFailure_failed.2 (.inl hmem)
  reachedFallback hreached := by rw [recordFailure_reachedFallback, hreached, Bool.or_true]

theorem extends_recordResult (a : Attempts) (result : Except RoutingError Route) :
    Extends a (a.recordResult result) := by
  cases result with
  | ok route => exact extends_recordFailure a route
  | error e => exact Extends.refl a

theorem extends_after (a : Attempts) (calls : List AttemptCall) : Extends a (a.after calls) := by
  induction calls using List.reverseRecOn with
  | nil => exact Extends.refl a
  | append_singleton calls c ih =>
      rw [after_concat]
      cases c with
      | next => exact ih.trans (extends_next _)
      | recordFailure route => exact ih.trans (extends_recordFailure _ route)

/-- A route to a peer of the fleet leads past the peers that the request leaves out. -/
theorem excluded_eq_false_of_answer {router router' : Router} {registry : Registry}
    {hook : LearnedHook} {r : Request} {route : Route}
    (hanswer : router.answer ⟨registry, hook, .route r⟩ = (.ok route, router'))
    (hpeer : route.isFallback = false) : r.excluded.contains route.peerId = false := by
  rw [Router.answer_eq] at hanswer
  have hresult := congrArg Prod.fst hanswer
  dsimp only at hresult
  cases houtcome : Router.outcome router.policy ⟨registry, hook, .route r⟩ with
  | ok s =>
      rw [houtcome] at hresult
      obtain rfl : s.route = route := Except.ok.inj hresult
      obtain ⟨tier, model, p, hfirst, rfl⟩ := select_eq_ok_iff_firstTier?.1 houtcome
      exact (Request.admits_iff.1 (Request.admits_of_firstTier? hfirst).2).1
  | error e =>
      rw [houtcome] at hresult
      cases hfailure : router.failure with
      | strict =>
          rw [hfailure] at hresult
          cases hresult
      | resilient fallback =>
          rw [hfailure] at hresult
          obtain rfl : fallback.route = route := Except.ok.inj hresult
          cases hpeer

/-- The peers that some results lead to, in order. -/
def fleetPeers (results : List (Except RoutingError Route)) : List String :=
  (results.filterMap served?).map Route.peerId

/-- Whether a result is the fallback. -/
def fellBack : Except RoutingError Route → Bool
  | .ok route => route.isFallback
  | .error _ => false

/-- Results that attempts may still lead to: as many as are left, to peers that neither failed nor
were left out from the start, to none of them twice, and to the fallback only once. -/
structure AreNewTo (a : Attempts) (results : List (Except RoutingError Route)) : Prop where
  nodup : (fleetPeers results).Nodup
  not_failed : ∀ id ∈ fleetPeers results, id ∉ a.failed
  not_excluded : ∀ id ∈ fleetPeers results, a.base.excluded.contains id = false
  length_le : results.length ≤ a.limit - a.made
  fallbacks_le : results.countP fellBack ≤ 1
  eq_nil : a.reachedFallback = true → results = []

variable {results : List (Except RoutingError Route)}

theorem areNewTo_nil (a : Attempts) : AreNewTo a [] where
  nodup := List.nodup_nil
  not_failed _ hmem := absurd hmem List.not_mem_nil
  not_excluded _ hmem := absurd hmem List.not_mem_nil
  length_le := Nat.zero_le _
  fallbacks_le := Nat.zero_le 1
  eq_nil _ := rfl

theorem AreNewTo.of_extends {b : Attempts} (h : AreNewTo b results) (hextends : Extends a b) :
    AreNewTo a results where
  nodup := h.nodup
  not_failed id hmem hfailed := h.not_failed id hmem (hextends.failed_subset id hfailed)
  not_excluded id hmem := by
    have hbase := h.not_excluded id hmem
    rw [hextends.base_eq] at hbase
    exact hbase
  length_le := by
    have hlength := h.length_le
    have hmade := hextends.made_le
    rw [hextends.limit_eq] at hlength
    omega
  fallbacks_le := h.fallbacks_le
  eq_nil hreached := h.eq_nil (hextends.reachedFallback hreached)

/-- A result of routing the next request, before results that are new once it is recorded. -/
theorem AreNewTo.cons {router router' : Router} {registry : Registry} {hook : LearnedHook}
    {r : Request} {result : Except RoutingError Route} (hnext : a.next.1 = some r)
    (hanswer : router.answer ⟨registry, hook, .route r⟩ = (result, router'))
    (h : AreNewTo (a.next.2.recordResult result) results) : AreNewTo a (result :: results) := by
  have hearlier : AreNewTo a results :=
    h.of_extends ((extends_next a).trans (extends_recordResult a.next.2 result))
  obtain ⟨hleft, hno, rfl⟩ := next_fst_eq_some_iff.1 hnext
  have hlength : (result :: results).length ≤ a.limit - a.made := by
    have hlater := (h.of_extends (extends_recordResult a.next.2 result)).length_le
    rw [next_snd, hnext] at hlater
    simp only [Option.toList_some, List.length_singleton] at hlater
    rw [List.length_cons]
    omega
  have hreached : a.reachedFallback = true → result :: results = [] := by
    rw [hno]
    intro hfalse
    cases hfalse
  cases result with
  | error e =>
      exact ⟨hearlier.nodup, hearlier.not_failed, hearlier.not_excluded, hlength,
        hearlier.fallbacks_le, hreached⟩
  | ok route =>
      cases hfallback : route.isFallback with
      | true =>
          have hlast : results = [] := by
            apply h.eq_nil
            rw [recordResult, recordFailure_reachedFallback, hfallback, Bool.true_or]
          subst hlast
          have hpeers : fleetPeers [.ok route] = [] := by
            simp [fleetPeers, served?, hfallback]
          refine ⟨?_, ?_, ?_, hlength, List.countP_le_length, hreached⟩ <;> rw [hpeers]
          · exact List.nodup_nil
          · exact fun id hmem => absurd hmem List.not_mem_nil
          · exact fun id hmem => absurd hmem List.not_mem_nil
      | false =>
          have hpeers : fleetPeers (.ok route :: results) = route.peerId :: fleetPeers results := by
            simp [fleetPeers, served?, hfallback]
          have hfree : route.peerId ∉ a.failed ∧ a.base.excluded.contains route.peerId = false := by
            have hexcluded := excluded_eq_false_of_answer hanswer hfallback
            simpa [Request.excluding] using hexcluded
          have hnew : route.peerId ∉ fleetPeers results := by
            intro hmem
            apply h.not_failed _ hmem
            exact mem_recordFailure_failed.2 (.inr ⟨hfallback, rfl⟩)
          have hcount : (Except.ok route :: results).countP fellBack = results.countP fellBack :=
            List.countP_cons_of_neg (by simp [fellBack, hfallback])
          refine ⟨?_, ?_, ?_, hlength, hcount.trans_le hearlier.fallbacks_le, hreached⟩ <;>
            rw [hpeers]
          · exact List.nodup_cons.2 ⟨hnew, hearlier.nodup⟩
          · exact List.forall_mem_cons.2 ⟨hfree.1, hearlier.not_failed⟩
          · exact List.forall_mem_cons.2 ⟨hfree.2, hearlier.not_excluded⟩

theorem areNewTo_tryAll (router : Router) (a : Attempts) (rounds : List Round) :
    AreNewTo a (tryAll router a rounds) := by
  induction rounds generalizing router a with
  | nil => exact areNewTo_nil a
  | cons round rest ih =>
      have hbefore : Extends a (a.after round.before) := extends_after a round.before
      rw [tryAll]
      rcases hnext : (a.after round.before).next with ⟨_ | r, a'⟩
      · have hsame : (a.after round.before).next.2 = a' := by rw [hnext]
        exact (ih router a').of_extends (hbefore.trans (hsame ▸ extends_next _))
      · rcases hanswer : router.answer ⟨round.registry, round.hook, .route r⟩ with
          ⟨result, router'⟩
        have hrequest : (a.after round.before).next.1 = some r := by rw [hnext]
        have hsame : (a.after round.before).next.2 = a' := by rw [hnext]
        have hlater : AreNewTo ((a.after round.before).next.2.recordResult result)
            (tryAll router' (a'.recordResult result) rest) := by
          rw [hsame]
          exact ih router' _
        simp only [hanswer]
        exact (hlater.cons hrequest hanswer).of_extends hbefore

/-- Whatever a caller does with its attempts, and in whatever order, it is handed as many requests as
its limit at most; there is a next one exactly if fewer were handed out and no fallback was recorded;
and that one is the request it began with, past exactly the peers of the routes recorded so far that
are no fallbacks. So if every route is recorded before the next request, no peer of the fleet comes
twice and none that was left out from the start comes at all, however registry and hook change from
one attempt to the next, and the fallback comes once at most. -/
theorem retries_never_repeat (base : Request) (limit : Nat) :
    (∀ calls : List AttemptCall,
      let handed := (new base limit).handedOut calls
      let a := (new base limit).after calls
      handed.length ≤ limit ∧
      ((∃ r, a.next.1 = some r) ↔
        handed.length < limit ∧ ∀ route ∈ recorded calls, route.isFallback = false) ∧
      ∀ r, a.next.1 = some r → base.LeavesOut (recorded calls) r) ∧
    ∀ (router : Router) (rounds : List Round),
      let results := tryAll router (new base limit) rounds
      (fleetPeers results).Nodup ∧
      (∀ id ∈ fleetPeers results, base.excluded.contains id = false) ∧
      results.countP fellBack ≤ 1 ∧ results.length ≤ limit := by
  constructor
  · intro calls handed a
    have hrecalls : Recalls base limit calls a := recalls_after base limit calls
    refine ⟨hrecalls.made_eq ▸ hrecalls.made_le, ?_, fun r => hrecalls.leavesOut⟩
    simp only [next_fst_eq_some_iff, exists_and_left, exists_eq, and_true]
    rw [hrecalls.made_eq, hrecalls.limit_eq, hrecalls.reachedFallback_iff]
  · intro router rounds results
    have hnew : AreNewTo (new base limit) results := areNewTo_tryAll router _ rounds
    exact ⟨hnew.nodup, hnew.not_excluded, hnew.fallbacks_le, hnew.length_le⟩

/-- The peer that failed is still the best one at the second attempt, and alone at the third, where
the fallback comes; after it there is no fourth, although another peer has joined. -/
theorem retries_never_repeat_joinedLate :
    let first := servingAt "a" ⟨0⟩ "m"
    let late := servingAt "b" ⟨0⟩ "m"
    let alone := Registry.empty.store first
    let base := { askingFor ["m"] with excluded := TextSet.empty.insert "c" }
    let rounds : List Round :=
      [⟨[], alone.store (servingAt "c" ⟨0⟩ "m"), fun _ => .ok none⟩,
        ⟨[.next], alone.store late, fun _ => .error "busy"⟩, ⟨[], alone, fun _ => .ok none⟩,
        ⟨[], alone.store (servingAt "d" ⟨0⟩ "m"), fun _ => .ok none⟩]
    let results := tryAll (.new .builtin .builtin) (new base 6) rounds
    let calls : List AttemptCall :=
      [.next, .recordFailure (first.route "m"), .recordFailure (late.route "m")]
    results = [.ok (first.route "m"), .ok (late.route "m"), .ok Fallback.builtin.route] ∧
      (fleetPeers results).Nodup ∧ results.countP fellBack ≤ 1 ∧
      ∃ r, ((new base 6).after calls).next.1 = some r ∧
        base.LeavesOut [first.route "m", late.route "m"] r := by
  intro first late alone base rounds results calls
  obtain ⟨hcalls, hresults⟩ := retries_never_repeat base 6
  obtain ⟨hnodup, -, hfallbacks, -⟩ := hresults (.new .builtin .builtin) rounds
  obtain ⟨-, hmore, hnext⟩ := hcalls calls
  obtain ⟨r, hr⟩ := hmore.2 ⟨by decide, by decide⟩
  exact ⟨by decide, hnodup, hfallbacks, r, hr, hnext r hr⟩

end Attempts

end InferenceFleet
