import InferenceFleet.Proofs.Registry.Consistency
import InferenceFleet.Proofs.Routing.TieredMinimum
import InferenceFleet.Routing.Attempts
import InferenceFleet.Routing.Router

/-!
# Attempts walk the fleet in order

A caller whose every route turns out not to work, and who asks again each time with the failed peers
left out, is led through the whole fleet: each peer that can run the task comes once, with the first
preferred model that it serves, in the order of that model's tier and then of the ranks; after
them comes the fallback, and then nothing. What is shown step by step is that selection from what
is left takes the head of what is left of that order.
-/

namespace InferenceFleet

namespace Attempts

theorem next_of_done {a : Attempts} (hdone : a.limit ≤ a.made ∨ a.reachedFallback = true) :
    a.next = (none, a) := by
  unfold next
  rw [if_pos (by simpa using hdone)]

theorem next_of_left {a : Attempts} (hleft : a.made < a.limit) (hno : a.reachedFallback = false) :
    a.next = (some (a.base.excluding a.failed), { a with made := a.made + 1 }) := by
  unfold next
  rw [if_neg]
  simp [hno, hleft]

theorem lt_of_next_eq_some {a a' : Attempts} {r : Request} (hnext : a.next = (some r, a')) :
    a'.limit - a'.made < a.limit - a.made := by
  unfold next at hnext
  split at hnext
  · cases hnext
  · next hleft =>
      cases hnext
      simp only [Bool.or_eq_true, decide_eq_true_eq, not_or, Nat.not_le] at hleft
      show a.limit - (a.made + 1) < a.limit - a.made
      omega

@[simp]
theorem recordFailure_limit (a : Attempts) (route : Route) :
    (a.recordFailure route).limit = a.limit := by
  unfold recordFailure
  split
  · rfl
  · split <;> rfl

@[simp]
theorem recordFailure_made (a : Attempts) (route : Route) :
    (a.recordFailure route).made = a.made := by
  unfold recordFailure
  split
  · rfl
  · split <;> rfl

/-- The results that a caller gets for whom no route works, and the attempts after the last. An
error ends the loop. -/
def walk (router : Router) (peers : List Peer) (a : Attempts) :
    List (Except RoutingError Route) × Attempts :=
  match _hnext : a.next with
  | (none, a') => ([], a')
  | (some request, a') =>
      match router.route peers request with
      | (.error e, _) => ([.error e], a')
      | (.ok route, router) =>
          let (results, a) := walk router peers (a'.recordFailure route)
          (.ok route :: results, a)
termination_by a.limit - a.made
decreasing_by
  simpa using lt_of_next_eq_some _hnext

theorem walk_of_done {router : Router} {peers : List Peer} {a : Attempts}
    (hdone : a.limit ≤ a.made ∨ a.reachedFallback = true) : a.walk router peers = ([], a) := by
  rw [walk, next_of_done hdone]

theorem walk_of_ok {router router' : Router} {peers : List Peer} {a : Attempts} {route : Route}
    (hleft : a.made < a.limit) (hno : a.reachedFallback = false)
    (hroute : router.route peers (a.base.excluding a.failed) = (.ok route, router')) :
    a.walk router peers =
      (.ok route :: (walk router' peers ({ a with made := a.made + 1 }.recordFailure route)).1,
        (walk router' peers ({ a with made := a.made + 1 }.recordFailure route)).2) := by
  rw [walk, next_of_left hleft hno]
  simp only [hroute]

end Attempts

/-- The tier of the first model that a peer serves. -/
def Peer.tier (p : Peer) (preferences : List String) : Nat :=
  preferences.findIdx p.capability.serves

/-- What the order of the walk goes by: the tier, then the rank. -/
def Peer.walkKey (p : Peer) (preferences : List String) : Nat ×ₗ Bool ×ₗ Int ×ₗ String :=
  toLex (p.tier preferences, p.rank)

theorem Peer.walkKey_lt_iff {p q : Peer} {preferences : List String} :
    p.walkKey preferences < q.walkKey preferences ↔
      p.tier preferences < q.tier preferences ∨
        p.tier preferences = q.tier preferences ∧ p.rank < q.rank := by
  unfold Peer.walkKey
  rw [Prod.Lex.toLex_lt_toLex]

/-- A peer that serves the model at some place is of that tier or an earlier one. -/
theorem Peer.tier_le {p : Peer} {preferences : List String} {place : Nat} {model : String}
    (hpreferred : preferences[place]? = some model) (hserves : p.capability.serves model = true) :
    p.tier preferences ≤ place := by
  by_contra hnot
  obtain ⟨hlt, rfl⟩ := List.getElem?_eq_some_iff.1 hpreferred
  have hunserved := List.not_of_lt_findIdx (Nat.lt_of_not_le hnot)
  rw [hserves] at hunserved
  cases hunserved

/-- A peer that can run a task, with the first preferred model that it serves. -/
def Request.entryOf? (base : Request) (preferences : List String) (p : Peer) :
    Option (Peer × String) :=
  if p.isAvailable = true ∧ base.excluded.contains p.id = false then
    (preferences.find? p.capability.serves).map fun model => (p, model)
  else none

/-- Whether an entry is not after another. -/
def walkLe (preferences : List String) (x y : Peer × String) : Bool :=
  decide (x.1.walkKey preferences ≤ y.1.walkKey preferences)

theorem walkLe_iff {preferences : List String} {x y : Peer × String} :
    walkLe preferences x y = true ↔ x.1.walkKey preferences ≤ y.1.walkKey preferences :=
  decide_eq_true_iff

theorem walkLe_trans (preferences : List String) (x y z : Peer × String)
    (hxy : walkLe preferences x y = true) (hyz : walkLe preferences y z = true) :
    walkLe preferences x z = true :=
  walkLe_iff.2 ((walkLe_iff.1 hxy).trans (walkLe_iff.1 hyz))

theorem walkLe_total (preferences : List String) (x y : Peer × String) :
    (walkLe preferences x y || walkLe preferences y x) = true := by
  rw [Bool.or_eq_true, walkLe_iff, walkLe_iff]
  exact le_total _ _

/-- The peers that can run a task, each with the first preferred model that it serves, by tiers and
ranks. -/
def Request.walkOrder (base : Request) (preferences : List String) (peers : List Peer) :
    List (Peer × String) :=
  (peers.filterMap (base.entryOf? preferences)).mergeSort (walkLe preferences)

/-- What makes a list of peers and models the order of the walk. -/
structure IsWalkOrder (base : Request) (preferences : List String) (peers : List Peer)
    (order : List (Peer × String)) : Prop where
  mem_iff : ∀ p model, (p, model) ∈ order ↔
    p ∈ peers ∧ p.isAvailable = true ∧ base.excluded.contains p.id = false ∧
      preferences.find? p.capability.serves = some model
  ascending : order.Pairwise fun x y => x.1.walkKey preferences < y.1.walkKey preferences

theorem Request.entryOf?_eq_some_iff {base : Request} {preferences : List String} {p q : Peer}
    {model : String} :
    base.entryOf? preferences q = some (p, model) ↔
      q = p ∧ p.isAvailable = true ∧ base.excluded.contains p.id = false ∧
        preferences.find? p.capability.serves = some model := by
  unfold entryOf?
  split
  · next hable =>
      simp only [Option.map_eq_some_iff, Prod.mk.injEq]
      constructor
      · rintro ⟨other, hfind, rfl, rfl⟩
        exact ⟨rfl, hable.1, hable.2, hfind⟩
      · rintro ⟨rfl, -, -, hfind⟩
        exact ⟨model, hfind, rfl, rfl⟩
  · next hunable =>
      constructor
      · intro h
        cases h
      · rintro ⟨rfl, havailable, hexcluded, -⟩
        exact absurd ⟨havailable, hexcluded⟩ hunable

/-- The identifiers of the entries are among those of the peers, each as often at most. -/
theorem Request.nodup_entries {base : Request} {preferences : List String} {peers : List Peer}
    (hdistinct : (peers.map Peer.id).Nodup) :
    (peers.filterMap (base.entryOf? preferences)).Pairwise fun x y => x.1.id ≠ y.1.id := by
  refine (List.pairwise_map.1 hdistinct).filterMap _ ?_
  rintro p q hne ⟨p', model⟩ hp ⟨q', model'⟩ hq
  obtain ⟨rfl, -⟩ := Request.entryOf?_eq_some_iff.1 hp
  obtain ⟨rfl, -⟩ := Request.entryOf?_eq_some_iff.1 hq
  exact hne

theorem isWalkOrder_walkOrder (base : Request) (preferences : List String) {peers : List Peer}
    (hdistinct : (peers.map Peer.id).Nodup) :
    IsWalkOrder base preferences peers (base.walkOrder preferences peers) where
  mem_iff p model := by
    unfold Request.walkOrder
    rw [List.mem_mergeSort, List.mem_filterMap]
    simp only [Request.entryOf?_eq_some_iff]
    constructor
    · rintro ⟨q, hmem, rfl, h⟩
      exact ⟨hmem, h⟩
    · rintro ⟨hmem, h⟩
      exact ⟨p, hmem, rfl, h⟩
  ascending := by
    unfold Request.walkOrder
    have hsorted : ((peers.filterMap (base.entryOf? preferences)).mergeSort
        (walkLe preferences)).Pairwise fun x y => walkLe preferences x y = true :=
      List.pairwise_mergeSort (walkLe_trans preferences) (walkLe_total preferences) _
    have hnodup : ((peers.filterMap (base.entryOf? preferences)).mergeSort
        (walkLe preferences)).Pairwise fun x y => x.1.id ≠ y.1.id :=
      (Request.nodup_entries hdistinct).perm (List.mergeSort_perm _ _).symm fun h => h.symm
    refine (hsorted.and hnodup).imp ?_
    rintro x y ⟨hle, hne⟩
    refine lt_of_le_of_ne (walkLe_iff.1 hle) fun heq => hne ?_
    exact Peer.id_eq_of_rank_eq (congrArg (fun key => (ofLex key).2) heq)

/-! ## Selection from what is left -/

/-- The identifiers of the peers of a list of entries. -/
def entryIds (entries : List (Peer × String)) : List String := entries.map fun x => x.1.id

theorem Request.admits_excluding_iff {base : Request} {ids : List String} {model : String}
    {p : Peer} :
    (base.excluding ids).admits model p = true ↔ p.id ∉ ids ∧ base.admits model p = true := by
  simp [Request.admits_iff, Request.excluding, and_assoc]

namespace IsWalkOrder

variable {base : Request} {preferences : List String} {peers : List Peer}
  {done left : List (Peer × String)}

/-- What is a candidate with the failed peers left out is still ahead. -/
theorem mem_left (horder : IsWalkOrder base preferences peers (done ++ left)) {q : Peer}
    {model : String} (hmem : q ∈ peers) (hpreferred : model ∈ preferences)
    (hadmitted : (base.excluding (entryIds done)).admits model q = true) :
    ∃ first, (q, first) ∈ left := by
  obtain ⟨hnew, hbase⟩ := Request.admits_excluding_iff.1 hadmitted
  obtain ⟨hexcluded, havailable, hserves⟩ := Request.admits_iff.1 hbase
  cases hfind : preferences.find? q.capability.serves with
  | none => exact absurd hserves (List.find?_eq_none.1 hfind model hpreferred)
  | some first =>
      have hentry := (horder.mem_iff q first).2 ⟨hmem, havailable, hexcluded, hfind⟩
      rcases List.mem_append.1 hentry with hdone | hleft
      · exact absurd (List.mem_map.2 ⟨(q, first), hdone, rfl⟩) hnew
      · exact ⟨first, hleft⟩

/-- The head of what is left is what selection takes with the failed peers left out. -/
theorem isTieredLeast {p : Peer} {model : String}
    (hdistinct : (peers.map Peer.id).Nodup)
    (horder : IsWalkOrder base preferences peers (done ++ (p, model) :: left)) :
    (base.excluding (entryIds done)).IsTieredLeast peers preferences (p.tier preferences) model
      p := by
  obtain ⟨-, hahead, hbehind⟩ := List.pairwise_append.1 horder.ascending
  have hfirst := (List.pairwise_cons.1 hahead).1
  obtain ⟨hmem, havailable, hexcluded, hfind⟩ :=
    (horder.mem_iff p model).1 (List.mem_append_right done List.mem_cons_self)
  have hpreferred : preferences[p.tier preferences]? = some model := by
    rw [← hfind, List.find?_eq_getElem?_findIdx]
    rfl
  have hle : ∀ q other, (q, other) ∈ (p, model) :: left →
      p.tier preferences ≤ q.tier preferences := by
    intro q other hq
    rcases List.mem_cons.1 hq with heq | hq
    · cases heq
      exact le_refl _
    · rcases Peer.walkKey_lt_iff.1 (hfirst (q, other) hq) with hlt | ⟨heq, -⟩
      · exact le_of_lt hlt
      · exact le_of_eq heq
  refine ⟨hpreferred, ?_, hmem, ?_, ?_⟩
  -- A candidate of an earlier tier would stand before the head.
  · rintro earlier hearlier other hother ⟨q, hq, hadmitted⟩
    obtain ⟨first, hleft⟩ :=
      horder.mem_left hq (List.mem_of_getElem? hother) hadmitted
    have hserves := (Request.admits_iff.1 hadmitted).2.2
    have htier : p.tier preferences ≤ earlier :=
      (hle q first hleft).trans (Peer.tier_le hother hserves)
    exact absurd hearlier (Nat.not_lt.2 htier)
  · refine Request.admits_excluding_iff.2 ⟨?_, Request.admits_iff.2
      ⟨hexcluded, havailable, List.find?_some hfind⟩⟩
    intro hfailed
    obtain ⟨⟨q, other⟩, hdone, hid⟩ := List.mem_map.1 hfailed
    have hq := ((horder.mem_iff q other).1 (List.mem_append_left _ hdone)).1
    obtain rfl : q = p := List.inj_on_of_nodup_map hdistinct hq hmem hid
    exact lt_irrefl _ (hbehind (q, other) hdone (q, model) List.mem_cons_self)
  · intro q hq hadmitted hne
    obtain ⟨first, hleft⟩ :=
      horder.mem_left hq (List.mem_of_getElem? hpreferred) hadmitted
    have hlater : (q, first) ∈ left := by
      rcases List.mem_cons.1 hleft with heq | hlater
      · cases heq
        exact absurd rfl hne
      · exact hlater
    have htier : q.tier preferences ≤ p.tier preferences :=
      Peer.tier_le hpreferred (Request.admits_iff.1 hadmitted).2.2
    rcases Peer.walkKey_lt_iff.1 (hfirst (q, first) hlater) with hlt | ⟨-, hrank⟩
    · exact absurd hlt (Nat.not_lt.2 htier)
    · exact hrank

/-- Once all have failed there is no candidate. -/
theorem not_hasCandidate (horder : IsWalkOrder base preferences peers done) {model : String}
    (hpreferred : model ∈ preferences) :
    ¬ (base.excluding (entryIds done)).HasCandidate peers model := by
  rintro ⟨q, hq, hadmitted⟩
  have hend : IsWalkOrder base preferences peers (done ++ []) := by simpa using horder
  obtain ⟨first, hleft⟩ := hend.mem_left hq hpreferred hadmitted
  cases hleft

end IsWalkOrder

namespace Router

variable {router : Router} {base : Request} {peers : List Peer} {done left : List (Peer × String)}

theorem route_of_cons {p : Peer} {model : String} (hdistinct : (peers.map Peer.id).Nodup)
    (horder : IsWalkOrder base (router.policy.preferencesFor base) peers
      (done ++ (p, model) :: left)) :
    ∃ s, router.route peers (base.excluding (entryIds done)) =
      (.ok (p.route model), { router with statistics := s }) := by
  have hselect : select router.policy (base.excluding (entryIds done)) peers =
      .ok ⟨p.route model, p.tier (router.policy.preferencesFor base),
        router.policy.categoryOf base⟩ :=
    (select_eq_ok_iff hdistinct).2 ⟨_, model, p, horder.isTieredLeast hdistinct, rfl⟩
  unfold route
  rw [hselect]
  exact ⟨_, rfl⟩

theorem route_of_nil {fallback : Fallback} (hfailure : router.failure = .resilient fallback)
    (horder : IsWalkOrder base (router.policy.preferencesFor base) peers done) :
    ∃ s, router.route peers (base.excluding (entryIds done)) =
      (.ok fallback.route, { router with statistics := s }) := by
  have hselect : ∃ e, select router.policy (base.excluding (entryIds done)) peers = .error e := by
    by_cases hnil : router.policy.preferencesFor base = []
    · exact ⟨_, select_eq_system_iff.2 ⟨hnil, rfl⟩⟩
    · exact ⟨_, select_eq_noAvailableEndpoint_iff.2
        ⟨hnil, fun model hpreferred => horder.not_hasCandidate hpreferred, rfl, rfl⟩⟩
  obtain ⟨e, hselect⟩ := hselect
  unfold route
  rw [hselect, hfailure]
  exact ⟨_, rfl⟩

end Router

namespace Attempts

variable {base : Request} {peers : List Peer} {fallback : Fallback}

/-- The routes of the entries, and then the fallback. -/
def routesThrough (entries : List (Peer × String)) (fallback : Fallback) : List Route :=
  (entries.map fun x => x.1.route x.2) ++ [fallback.route]

/-- A route to a peer that did not fail before adds that peer to the failed ones. -/
theorem recordFailure_route {done : List (Peer × String)} {x : Peer × String} {made limit : Nat}
    (hnew : x.1.id ∉ entryIds done) :
    recordFailure ⟨base, entryIds done, made, limit, false⟩ (x.1.route x.2) =
      ⟨base, entryIds (done ++ [x]), made, limit, false⟩ := by
  have hfailed : (entryIds done).contains (x.1.route x.2).peerId = false := by
    simpa [Peer.route] using hnew
  unfold recordFailure
  rw [if_neg (by simp [Peer.route]), hfailed]
  simp [entryIds, Peer.route]

/-- With some peers failed, what is left of the order follows, and then the fallback, as far as
attempts are left; after the last result there is no next request. -/
theorem walk_left {router : Router} {done left : List (Peer × String)}
    (hfailure : router.failure = .resilient fallback) (hdistinct : (peers.map Peer.id).Nodup)
    (horder : IsWalkOrder base (router.policy.preferencesFor base) peers (done ++ left))
    (made limit : Nat) :
    (walk router peers ⟨base, entryIds done, made, limit, false⟩).1 =
        ((routesThrough left fallback).take (limit - made)).map .ok ∧
      (walk router peers ⟨base, entryIds done, made, limit, false⟩).2.next =
        (none, (walk router peers ⟨base, entryIds done, made, limit, false⟩).2) := by
  induction left generalizing router done made with
  | nil =>
      by_cases hspent : limit ≤ made
      · rw [walk_of_done (.inl hspent), Nat.sub_eq_zero_of_le hspent]
        exact ⟨rfl, next_of_done (.inl hspent)⟩
      · have hleft : made < limit := Nat.lt_of_not_le hspent
        rw [List.append_nil] at horder
        obtain ⟨s, hroute⟩ := Router.route_of_nil hfailure horder
        rw [walk_of_ok hleft rfl hroute]
        have hfallen : ∀ a : Attempts, (a.recordFailure fallback.route).reachedFallback = true :=
          fun a => rfl
        rw [walk_of_done (.inr (hfallen _))]
        refine ⟨?_, next_of_done (.inr (hfallen _))⟩
        obtain ⟨more, hmore⟩ := Nat.exists_eq_succ_of_ne_zero (Nat.sub_ne_zero_of_lt hleft)
        simp [hmore, routesThrough]
  | cons x rest ih =>
      by_cases hspent : limit ≤ made
      · rw [walk_of_done (.inl hspent), Nat.sub_eq_zero_of_le hspent]
        exact ⟨rfl, next_of_done (.inl hspent)⟩
      · have hleft : made < limit := Nat.lt_of_not_le hspent
        obtain ⟨s, hroute⟩ := Router.route_of_cons hdistinct horder
        have hnew : x.1.id ∉ entryIds done :=
          (Request.admits_excluding_iff.1 (horder.isTieredLeast hdistinct).admitted).1
        have horder' : IsWalkOrder base (router.policy.preferencesFor base) peers
            ((done ++ [x]) ++ rest) := by
          rw [List.append_assoc]
          exact horder
        have hfailure' : ({ router with statistics := s } : Router).failure =
            .resilient fallback := hfailure
        obtain ⟨hresults, hend⟩ := ih hfailure' horder' (made + 1)
        rw [walk_of_ok hleft rfl hroute, recordFailure_route hnew]
        refine ⟨?_, hend⟩
        have hmore : limit - made = limit - (made + 1) + 1 := by omega
        rw [hresults, hmore]
        rfl

/-- The attempts of a caller for whom no route works, on a registry and with a fallback: however
many attempts there may be, the results are as many of the routes through the fleet, in the order
of the walk and with the fallback behind them, and then there is no next request, now or later. -/
theorem walk_through_fleet {registry : Registry} (hconsistent : registry.IsConsistent)
    (policy : Policy) (fallback : Fallback) (statistics : Statistics) (base : Request)
    (limit : Nat) :
    let preferences := policy.preferencesFor base
    let order := base.walkOrder preferences registry.snapshot
    let walked := walk ⟨policy, .resilient fallback, statistics⟩ registry.snapshot (.new base limit)
    IsWalkOrder base preferences registry.snapshot order ∧
      walked.1 = ((routesThrough order fallback).take limit).map .ok ∧
      walked.2.next = (none, walked.2) := by
  intro preferences order walked
  have hdistinct : (registry.snapshot.map Peer.id).Nodup :=
    List.pairwise_map.2 (hconsistent.snapshot_ascending.imp fun hlt => String.ne_of_lt hlt)
  have horder : IsWalkOrder base preferences registry.snapshot order :=
    isWalkOrder_walkOrder base preferences hdistinct
  let router : Router := ⟨policy, .resilient fallback, statistics⟩
  have hfailure : router.failure = .resilient fallback := rfl
  have hnone : IsWalkOrder base (router.policy.preferencesFor base) registry.snapshot
      ([] ++ order) := horder
  exact ⟨horder, walk_left hfailure hdistinct hnone 0 limit⟩

/-- The tier goes before the load, and three results are all there are for five attempts. -/
theorem walk_through_fleet_of_two :
    let busy := servingAt "a" ⟨0x4049000000000000⟩ "m"
    let idle := servingAt "b" ⟨0⟩ "n"
    let registry := (Registry.empty.perform (.enroll busy)).perform (.enroll idle)
    registry.IsConsistent ∧
      (walk ⟨.builtin, .resilient .builtin, .zero⟩ registry.snapshot
          (.new (askingFor ["m", "n"]) 5)).1 =
        [.ok (busy.route "m"), .ok (idle.route "n"), .ok Fallback.builtin.route] := by
  intro busy idle registry
  have hconsistent : registry.IsConsistent :=
    (Registry.isConsistent_empty.perform (.enroll busy)).perform (.enroll idle)
  obtain ⟨-, hresults, -⟩ :=
    walk_through_fleet hconsistent .builtin .builtin .zero (askingFor ["m", "n"]) 5
  have hle : walkLe ["m", "n"] (busy, "m") (idle, "n") = true :=
    walkLe_iff.2 (le_of_lt (Peer.walkKey_lt_iff.2 (.inl (by decide))))
  have hentries : registry.snapshot.filterMap ((askingFor ["m", "n"]).entryOf? ["m", "n"]) =
      [(busy, "m"), (idle, "n")] := by decide
  have horder : (askingFor ["m", "n"]).walkOrder ["m", "n"] registry.snapshot =
      [(busy, "m"), (idle, "n")] := by
    rw [Request.walkOrder, hentries]
    exact List.mergeSort_of_pairwise (by simpa using hle)
  have hpreferences : Policy.builtin.preferencesFor (askingFor ["m", "n"]) = ["m", "n"] := rfl
  refine ⟨hconsistent, ?_⟩
  rw [hresults, hpreferences, horder]
  rfl

end Attempts

end InferenceFleet
