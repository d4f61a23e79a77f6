import InferenceFleet.Proofs.Routing.TieredMinimum
import InferenceFleet.Registry.Basic
import InferenceFleet.Routing.Router
import Mathlib.Algebra.BigOperators.Group.List.Lemmas
import Mathlib.Algebra.GroupWithZero.Nat
import Mathlib.Data.List.Induction

/-!
# What a router counts

A router answers calls one after the other, each on the registry as it is by then. Its policies stay
as they are, but for what the hook may have learned, so what becomes of a call is up to selection
alone (`Router.outcome`): the result is the failure policy's response to the outcome, and the
statistics count the outcomes one by one (`Router.answers_eq`).

Counts are words of 64 bits. Each is the number of outcomes of some kind as such a word
(`Statistics.Counts`), so for fewer than 2^64 calls no count starts over and the numbers add up as
they should. That the counts by model and by peer add up to the number of selections rests on every
key being there once, with the number of its occurrences (`Statistics.Tallies.sum_eq`).
-/

namespace InferenceFleet

/-- What a router can be asked. -/
inductive RouterCall
  | route (r : Request)
  /-- A prompt, to be routed past some peers and possibly with other models to prefer. -/
  | prompt (text : String) (excluded : TextSet) (preferred : Option (List String))
  | task (text : String)
  | role (name : String)

/-- The request that a call comes to. -/
def RouterCall.request : RouterCall → Request
  | .route r => r
  | .prompt text excluded preferred =>
      { (Request.ofPrompt text).excluding excluded.toList with preferred := preferred }
  | .task text => .ofPrompt text
  | .role name => .ofRole name

/-- A call and what it meets: the registry as it is then, and what the hook of the policy has
learned by then. -/
structure Asked where
  registry : Registry
  hook : LearnedHook
  call : RouterCall

/-- The policy when its hook, if it has one, has learned something else. -/
def Policy.hearing (p : Policy) (hook : LearnedHook) : Policy :=
  { p with learned := p.learned.map fun _ => hook }

/-- What a failure policy answers to the outcome of a selection. -/
def FailurePolicy.respond (failure : FailurePolicy) :
    Except RoutingError Selection → Except RoutingError Route
  | .ok selection => .ok selection.route
  | .error e => failure.recover e

/-- The statistics with one more outcome of a selection. -/
def Statistics.count (failure : FailurePolicy) (s : Statistics) :
    Except RoutingError Selection → Statistics
  | .ok selection =>
      s.recordSelection selection.route.peerId selection.route.modelId selection.tier
  | .error e =>
      if failure.isResilient then (Router.countError s e).recordFallback else Router.countError s e

namespace Router

/-- The result of a call, and the router after it. -/
def answer (router : Router) (asked : Asked) : Except RoutingError Route × Router :=
  let hearing : Router := { router with policy := router.policy.hearing asked.hook }
  let (result, after) :=
    match asked.call with
    | .route r => hearing.route asked.registry.snapshot r
    | .prompt text excluded preferred =>
        hearing.forPrompt asked.registry.snapshot text excluded preferred
    | .task text => hearing.forTask asked.registry.snapshot text
    | .role name => hearing.forRole asked.registry.snapshot name
  (result, { after with policy := router.policy })

/-- The results of some calls, one after the other, and the router after them. -/
def answers : Router → List Asked → List (Except RoutingError Route) × Router
  | router, [] => ([], router)
  | router, asked :: rest =>
      let (result, router) := router.answer asked
      let (results, router) := router.answers rest
      (result :: results, router)

/-- What selection makes of a call. -/
def outcome (policy : Policy) (asked : Asked) : Except RoutingError Selection :=
  select (policy.hearing asked.hook) asked.call.request asked.registry.snapshot

theorem route_eq (router : Router) (peers : List Peer) (r : Request) :
    router.route peers r =
      (router.failure.respond (select router.policy r peers),
        { router with
          statistics :=
            router.statistics.count router.failure (select router.policy r peers) }) := by
  obtain ⟨policy, failure, statistics⟩ := router
  unfold route
  cases select policy r peers with
  | ok selection => rfl
  | error e => cases failure <;> rfl

theorem answer_eq (router : Router) (asked : Asked) :
    router.answer asked =
      (router.failure.respond (outcome router.policy asked),
        { router with
          statistics :=
            router.statistics.count router.failure (outcome router.policy asked) }) := by
  obtain ⟨registry, hook, call⟩ := asked
  cases call <;> simp only [answer, forPrompt, forTask, forRole, route_eq] <;> rfl

theorem answers_eq (router : Router) (calls : List Asked) :
    router.answers calls =
      ((calls.map (outcome router.policy)).map router.failure.respond,
        { router with
          statistics :=
            (calls.map (outcome router.policy)).foldl (Statistics.count router.failure)
              router.statistics }) := by
  induction calls generalizing router with
  | nil => rfl
  | cons asked rest ih => simp only [answers, answer_eq, ih, List.map_cons, List.foldl_cons]

end Router

/-- The route that a call resulted in, if it leads to a peer of the fleet. -/
def served? : Except RoutingError Route → Option Route
  | .ok route => if route.isFallback then none else some route
  | .error _ => none

/-- A selected route is no fallback. -/
theorem isFallback_of_select {policy : Policy} {r : Request} {peers : List Peer} {s : Selection}
    (h : select policy r peers = .ok s) : s.route.isFallback = false := by
  rw [select_eq] at h
  split at h
  · cases h
  · split at h
    · cases h
      rfl
    · cases h

/-- A result names a peer exactly if selection succeeded, and then the peer that was selected. -/
theorem served?_respond (failure : FailurePolicy) (policy : Policy) (asked : Asked) :
    served? (failure.respond (Router.outcome policy asked)) =
      (Router.outcome policy asked).toOption.map Selection.route := by
  cases houtcome : Router.outcome policy asked with
  | ok selection =>
      have hpeer : selection.route.isFallback = false := isFallback_of_select houtcome
      simp [FailurePolicy.respond, served?, hpeer, Except.toOption]
  | error e => cases failure <;> rfl

namespace Statistics

/-- A table of counts binds every key of a list, and no other, to the number of its occurrences. -/
def Tallies (counts : TextMap UInt64) (keys : List String) : Prop :=
  ∀ key, counts.get? key = if key ∈ keys then some (.ofNat (keys.count key)) else none

theorem Tallies.bump {counts : TextMap UInt64} {keys : List String} (h : Tallies counts keys)
    (key : String) : Tallies (bump counts key) (keys ++ [key]) := by
  intro other
  rw [Statistics.bump, TextMap.get?_insert, h key, h other]
  by_cases hother : key = other
  · subst hother
    by_cases hmem : key ∈ keys
    · simp [hmem, UInt64.ofNat_add]
    · simp [hmem, List.count_eq_zero_of_not_mem hmem]
  · simp [hother, Ne.symm hother]

/-- As long as no count starts over, the counts add up to the number of keys. -/
theorem Tallies.sum_eq {counts : TextMap UInt64} {keys : List String} (h : Tallies counts keys)
    (hfew : keys.length < UInt64.size) : (counts.values.map UInt64.toNat).sum = keys.length := by
  have hcount : ∀ key, (UInt64.ofNat (keys.count key)).toNat = keys.count key := fun key =>
    UInt64.toNat_ofNat_of_lt' (lt_of_le_of_lt List.count_le_length hfew)
  have hvalues : counts.values.map UInt64.toNat = counts.keys.map fun key => keys.count key := by
    rw [TextMap.values, TextMap.keys, List.map_map, List.map_map]
    refine List.map_congr_left fun entry hentry => ?_
    have hget : counts.get? entry.1 = some entry.2 := TextMap.mem_entries_iff.1 hentry
    rw [h entry.1] at hget
    split at hget
    · rw [Function.comp_apply, Function.comp_apply, ← Option.some.inj hget, hcount]
    · cases hget
  have hmem : ∀ key, key ∈ counts.keys ↔ key ∈ keys.dedup := by
    intro key
    rw [List.mem_dedup]
    constructor
    · intro hkey
      obtain ⟨entry, hentry, rfl⟩ := List.mem_map.1 hkey
      by_contra hnot
      have hget := (h entry.1).symm.trans (TextMap.mem_entries_iff.1 hentry)
      rw [if_neg hnot] at hget
      cases hget
    · intro hkey
      exact List.mem_map.2 ⟨_, TextMap.mem_entries_iff.2 ((h key).trans (if_pos hkey)), rfl⟩
  have hnodup : counts.keys.Nodup := counts.keys_ascending.imp fun hlt => String.ne_of_lt hlt
  have hperm : counts.keys.Perm keys.dedup :=
    (List.perm_ext_iff_of_nodup hnodup keys.nodup_dedup).2 hmem
  rw [hvalues, (hperm.map _).sum_eq, List.sum_map_count_dedup_eq_length]

/-- The count of a key, none being zero. -/
theorem Tallies.toNat_eq {counts : TextMap UInt64} {keys : List String} (h : Tallies counts keys)
    (hfew : keys.length < UInt64.size) (key : String) :
    ((counts.get? key).map UInt64.toNat).getD 0 = keys.count key := by
  rw [h key]
  by_cases hmem : key ∈ keys
  · rw [if_pos hmem]
    exact UInt64.toNat_ofNat_of_lt' (lt_of_le_of_lt List.count_le_length hfew)
  · rw [if_neg hmem, List.count_eq_zero_of_not_mem hmem]
    rfl

/-- The outcomes that are selections. -/
def selected (outcomes : List (Except RoutingError Selection)) : List Selection :=
  outcomes.filterMap Except.toOption

/-- The outcomes that are errors. -/
def errors (outcomes : List (Except RoutingError Selection)) : List RoutingError :=
  outcomes.filterMap fun | .ok _ => none | .error e => some e

/-- Statistics that count some outcomes: as words, the numbers of outcomes of each kind. -/
structure Counts (failure : FailurePolicy) (outcomes : List (Except RoutingError Selection))
    (s : Statistics) : Prop where
  selections : s.selections = .ofNat (selected outcomes).length
  firstTierHits : s.firstTierHits = .ofNat ((selected outcomes).countP fun x => x.tier = 0)
  laterTierHits : s.laterTierHits = .ofNat ((selected outcomes).countP fun x => ¬ x.tier = 0)
  exhaustions : s.exhaustions = .ofNat ((errors outcomes).countP fun e => e.isExhausted)
  systemErrors : s.systemErrors = .ofNat ((errors outcomes).countP fun e => ¬ e.isExhausted)
  fallbacks : s.fallbacks = if failure.isResilient then .ofNat (errors outcomes).length else 0
  perModel : Tallies s.perModel ((selected outcomes).map fun x => x.route.modelId)
  perPeer : Tallies s.perPeer ((selected outcomes).map fun x => x.route.peerId)

theorem counts_zero (failure : FailurePolicy) : Counts failure [] zero where
  selections := rfl
  firstTierHits := rfl
  laterTierHits := rfl
  exhaustions := rfl
  systemErrors := rfl
  fallbacks := by cases failure <;> rfl
  perModel _ := rfl
  perPeer _ := rfl

/-- What an error of selection counts as. -/
theorem count_error (failure : FailurePolicy) (s : Statistics) (e : RoutingError) :
    s.count failure (.error e) =
      { s with
        exhaustions := if e.isExhausted then s.exhaustions + 1 else s.exhaustions
        systemErrors := if e.isExhausted then s.systemErrors else s.systemErrors + 1
        fallbacks := if failure.isResilient then s.fallbacks + 1 else s.fallbacks } := by
  cases e <;> cases failure <;> rfl

variable {failure : FailurePolicy} {outcomes : List (Except RoutingError Selection)}
  {s : Statistics}

/-- One more outcome is counted as what it is. -/
theorem Counts.concat (h : Counts failure outcomes s) (outcome : Except RoutingError Selection) :
    Counts failure (outcomes ++ [outcome]) (s.count failure outcome) := by
  cases outcome with
  | ok selection =>
      have hselected :
          selected (outcomes ++ [.ok selection]) = selected outcomes ++ [selection] := by
        simp [selected, Except.toOption]
      have herrors : errors (outcomes ++ [.ok selection]) = errors outcomes := by simp [errors]
      constructor
      case selections => simp [count, recordSelection, hselected, h.selections, UInt64.ofNat_add]
      case firstTierHits =>
        by_cases hfirst : selection.tier = 0 <;>
          simp [count, recordSelection, hselected, h.firstTierHits, hfirst, UInt64.ofNat_add]
      case laterTierHits =>
        by_cases hfirst : selection.tier = 0 <;>
          simp [count, recordSelection, hselected, h.laterTierHits, hfirst, UInt64.ofNat_add]
      case exhaustions => simpa [count, recordSelection, herrors] using h.exhaustions
      case systemErrors => simpa [count, recordSelection, herrors] using h.systemErrors
      case fallbacks => simpa [count, recordSelection, herrors] using h.fallbacks
      case perModel =>
        rw [hselected, List.map_append]
        exact h.perModel.bump selection.route.modelId
      case perPeer =>
        rw [hselected, List.map_append]
        exact h.perPeer.bump selection.route.peerId
  | error e =>
      have hselected : selected (outcomes ++ [.error e]) = selected outcomes := by
        simp [selected, Except.toOption]
      have herrors : errors (outcomes ++ [.error e]) = errors outcomes ++ [e] := by simp [errors]
      rw [count_error]
      constructor
      case selections => simpa [hselected] using h.selections
      case firstTierHits => simpa [hselected] using h.firstTierHits
      case laterTierHits => simpa [hselected] using h.laterTierHits
      case exhaustions =>
        cases hkind : e.isExhausted <;> simp [herrors, h.exhaustions, hkind, UInt64.ofNat_add]
      case systemErrors =>
        cases hkind : e.isExhausted <;> simp [herrors, h.systemErrors, hkind, UInt64.ofNat_add]
      case fallbacks =>
        cases hmode : failure.isResilient <;>
          simp [herrors, h.fallbacks, hmode, UInt64.ofNat_add]
      case perModel => simpa [hselected] using h.perModel
      case perPeer => simpa [hselected] using h.perPeer

/-- Statistics that started from zero count all outcomes. -/
theorem counts_foldl (failure : FailurePolicy) (outcomes : List (Except RoutingError Selection)) :
    Counts failure outcomes (outcomes.foldl (count failure) zero) := by
  induction outcomes using List.reverseRecOn with
  | nil => exact counts_zero failure
  | append_singleton outcomes outcome ih =>
      rw [List.foldl_append]
      exact ih.concat outcome

theorem length_selected_add_length_errors (outcomes : List (Except RoutingError Selection)) :
    (selected outcomes).length + (errors outcomes).length = outcomes.length := by
  induction outcomes with
  | nil => rfl
  | cons outcome rest ih =>
      rw [List.length_cons, ← ih]
      cases outcome with
      | ok selection => exact Nat.succ_add _ _
      | error e => rfl

/-! ## Counts as numbers

Of fewer than 2^64 outcomes no number reaches the size of a word. -/

section Numbers

variable (h : Counts failure outcomes s) (hfew : outcomes.length < UInt64.size)

include hfew in
theorem length_selected_lt : (selected outcomes).length < UInt64.size :=
  lt_of_le_of_lt (List.length_filterMap_le _ _) hfew

include hfew in
theorem length_errors_lt : (errors outcomes).length < UInt64.size :=
  lt_of_le_of_lt (List.length_filterMap_le _ _) hfew

include h hfew

theorem Counts.toNat_selections : s.selections.toNat = (selected outcomes).length := by
  rw [h.selections]
  exact UInt64.toNat_ofNat_of_lt' (length_selected_lt hfew)

/-- The selections are those of the first tier and those of later ones. -/
theorem Counts.selections_eq_add :
    s.selections.toNat = s.firstTierHits.toNat + s.laterTierHits.toNat := by
  have hselected := length_selected_lt hfew
  rw [h.toNat_selections hfew, h.firstTierHits, h.laterTierHits,
    UInt64.toNat_ofNat_of_lt' (lt_of_le_of_lt List.countP_le_length hselected),
    UInt64.toNat_ofNat_of_lt' (lt_of_le_of_lt List.countP_le_length hselected)]
  simpa using List.length_eq_countP_add_countP (fun x : Selection => decide (x.tier = 0))

/-- The errors are the exhaustions and the system errors. -/
theorem Counts.exhaustions_add_systemErrors :
    s.exhaustions.toNat + s.systemErrors.toNat = (errors outcomes).length := by
  have herrors := length_errors_lt hfew
  rw [h.exhaustions, h.systemErrors,
    UInt64.toNat_ofNat_of_lt' (lt_of_le_of_lt List.countP_le_length herrors),
    UInt64.toNat_ofNat_of_lt' (lt_of_le_of_lt List.countP_le_length herrors)]
  simpa using (List.length_eq_countP_add_countP RoutingError.isExhausted).symm

theorem Counts.total :
    s.selections.toNat + s.exhaustions.toNat + s.systemErrors.toNat = outcomes.length := by
  rw [Nat.add_assoc, h.toNat_selections hfew, h.exhaustions_add_systemErrors hfew]
  exact length_selected_add_length_errors outcomes

theorem Counts.toNat_fallbacks :
    s.fallbacks.toNat =
      if failure.isResilient then s.exhaustions.toNat + s.systemErrors.toNat else 0 := by
  rw [h.fallbacks, h.exhaustions_add_systemErrors hfew]
  split
  · exact UInt64.toNat_ofNat_of_lt' (length_errors_lt hfew)
  · rfl

end Numbers

end Statistics

namespace Router

/-- After fewer than 2^64 calls of a new router, whatever the registry and the hook of the policy
were at each of them: every call was a selection, an exhaustion or a system error; the selections
add up over the tiers, over the models and over the peers, and each peer and each model was counted
as often as a result that is no fallback names it; and a resilient router fell back at every error,
a strict one never. -/
theorem counts_are_conserved (policy : Policy) (failure : FailurePolicy) (calls : List Asked)
    (hfew : calls.length < UInt64.size) :
    let answered := (Router.new policy failure).answers calls
    let served := answered.1.filterMap served?
    let s := answered.2.statistics
    s.selections.toNat + s.exhaustions.toNat + s.systemErrors.toNat = calls.length ∧
    s.selections.toNat = s.firstTierHits.toNat + s.laterTierHits.toNat ∧
    s.selections.toNat = (s.perModel.values.map UInt64.toNat).sum ∧
    s.selections.toNat = (s.perPeer.values.map UInt64.toNat).sum ∧
    (∀ id, ((s.perPeer.get? id).map UInt64.toNat).getD 0 = (served.map Route.peerId).count id) ∧
    (∀ model, ((s.perModel.get? model).map UInt64.toNat).getD 0 =
      (served.map Route.modelId).count model) ∧
    s.fallbacks.toNat =
      if failure.isResilient then s.exhaustions.toNat + s.systemErrors.toNat else 0 := by
  intro answered served s
  let outcomes := calls.map (outcome policy)
  have hanswered : answered = (outcomes.map failure.respond,
      ⟨policy, failure, outcomes.foldl (Statistics.count failure) .zero⟩) :=
    answers_eq (new policy failure) calls
  have hcounts : Statistics.Counts failure outcomes s := by
    rw [show s = outcomes.foldl (Statistics.count failure) .zero by simp only [s, hanswered]]
    exact Statistics.counts_foldl failure outcomes
  have hserved : served = (Statistics.selected outcomes).map Selection.route := by
    simp only [served, hanswered, outcomes, Statistics.selected, List.map_map,
      List.filterMap_map, List.map_filterMap]
    exact List.filterMap_congr fun asked _ => served?_respond failure policy asked
  have hlength : outcomes.length = calls.length := List.length_map _
  have houtcomes : outcomes.length < UInt64.size := hlength.trans_lt hfew
  -- every selection has one key in each of the two tables
  have hkeys (key : Selection → String) :
      ((Statistics.selected outcomes).map key).length < UInt64.size :=
    (List.length_map key).trans_lt (Statistics.length_selected_lt houtcomes)
  refine ⟨(hcounts.total houtcomes).trans hlength, hcounts.selections_eq_add houtcomes, ?models,
    ?peers, ?perPeer, ?perModel, hcounts.toNat_fallbacks houtcomes⟩
  case models =>
    rw [hcounts.toNat_selections houtcomes, hcounts.perModel.sum_eq (hkeys _), List.length_map]
  case peers =>
    rw [hcounts.toNat_selections houtcomes, hcounts.perPeer.sum_eq (hkeys _), List.length_map]
  case perPeer =>
    intro id
    rw [hcounts.perPeer.toNat_eq (hkeys _), hserved, List.map_map]
    rfl
  case perModel =>
    intro model
    rw [hcounts.perModel.toNat_eq (hkeys _), hserved, List.map_map]
    rfl

/-- A peer serves the first call, nobody the second, and the third leaves no model to try. -/
theorem counts_are_conserved_threeCalls :
    let serving := Registry.empty.store (servingAt "a" ⟨0⟩ "m")
    let calls : List Asked :=
      [⟨serving, fun _ => .ok none, .route (askingFor ["m"])⟩,
        ⟨.empty, fun _ => .ok none, .route (askingFor ["m"])⟩,
        ⟨serving, fun _ => .ok none, .prompt "" .empty (some [])⟩]
    let answered := (Router.new .builtin .builtin).answers calls
    let s := answered.2.statistics
    calls.length < UInt64.size ∧
    (answered.1.filterMap served?).map Route.peerId = ["a"] ∧
    s.selections.toNat + s.exhaustions.toNat + s.systemErrors.toNat = 3 ∧
    ((s.perPeer.get? "a").map UInt64.toNat).getD 0 = 1 ∧
    s.fallbacks.toNat = s.exhaustions.toNat + s.systemErrors.toNat := by
  intro serving calls answered s
  have hfew : calls.length < UInt64.size := by decide
  obtain ⟨hcalls, -, -, -, hpeer, -, hfallbacks⟩ :=
    counts_are_conserved .builtin .builtin calls hfew
  have hserved : (answered.1.filterMap served?).map Route.peerId = ["a"] := by decide
  refine ⟨hfew, hserved, hcalls, ?_, hfallbacks⟩
  rw [hpeer "a"]
  exact congrArg (List.count "a") hserved

end Router

end InferenceFleet
