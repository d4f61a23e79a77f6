import InferenceFleet.Proofs.Routing.Ranking

/-!
# Selection is the tiered minimum

Selection walks the preferred models and takes, for the first of them that has a candidate, the
candidate with the least rank. Stated without the walk: the tier is the first at which any peer is
a candidate, and the peer comes before all other candidates there. This determines the result, so
it does not depend on the order in which the peers are listed.
-/

namespace InferenceFleet

namespace Request

theorem admits_iff {r : Request} {model : String} {p : Peer} :
    r.admits model p = true ↔
      r.excluded.contains p.id = false ∧ p.isAvailable = true ∧
        p.capability.serves model = true := by
  simp [admits, Peer.serves]

/-- Whether some peer is a candidate for a model. -/
def HasCandidate (r : Request) (peers : List Peer) (model : String) : Prop :=
  ∃ p ∈ peers, r.admits model p = true

/-- A tier is the first with a candidate, and a peer is the candidate there that comes before all
others. -/
structure IsTieredLeast (r : Request) (peers : List Peer) (preferences : List String) (tier : Nat)
    (model : String) (p : Peer) : Prop where
  preferred : preferences[tier]? = some model
  none_earlier : ∀ earlier < tier, ∀ other, preferences[earlier]? = some other →
    ¬ r.HasCandidate peers other
  mem : p ∈ peers
  admitted : r.admits model p = true
  rank_lt : ∀ q ∈ peers, r.admits model q = true → q ≠ p → p.rank < q.rank

theorem isTieredLeast_zero_iff {r : Request} {peers : List Peer} {head model : String}
    {rest : List String} {p : Peer} :
    r.IsTieredLeast peers (head :: rest) 0 model p ↔
      head = model ∧ p ∈ peers ∧ r.admits model p = true ∧
        ∀ q ∈ peers, r.admits model q = true → q ≠ p → p.rank < q.rank := by
  constructor
  · intro h
    exact ⟨Option.some.inj h.preferred, h.mem, h.admitted, h.rank_lt⟩
  · rintro ⟨rfl, hmem, hadmitted, hrank⟩
    exact ⟨rfl, fun earlier hlt => absurd hlt (Nat.not_lt_zero earlier), hmem, hadmitted, hrank⟩

theorem isTieredLeast_succ_iff {r : Request} {peers : List Peer} {head model : String}
    {rest : List String} {tier : Nat} {p : Peer} :
    r.IsTieredLeast peers (head :: rest) (tier + 1) model p ↔
      ¬ r.HasCandidate peers head ∧ r.IsTieredLeast peers rest tier model p := by
  constructor
  · intro h
    refine ⟨h.none_earlier 0 (Nat.succ_pos tier) head rfl, h.preferred, ?_, h.mem, h.admitted,
      h.rank_lt⟩
    intro earlier hlt
    exact h.none_earlier (earlier + 1) (Nat.succ_lt_succ hlt)
  · rintro ⟨hhead, h⟩
    refine ⟨h.preferred, ?_, h.mem, h.admitted, h.rank_lt⟩
    intro earlier hlt other hother
    cases earlier with
    | zero =>
        obtain rfl := Option.some.inj hother
        exact hhead
    | succ earlier => exact h.none_earlier earlier (Nat.lt_of_succ_lt_succ hlt) other hother

theorem best?_filter_eq_none_iff {r : Request} {peers : List Peer} {model : String} :
    Peer.best? (peers.filter (r.admits model)) = none ↔ ¬ r.HasCandidate peers model := by
  rw [Peer.best?_eq_none_iff, List.filter_eq_nil_iff]
  constructor
  · rintro hnone ⟨p, hmem, hadmitted⟩
    exact hnone p hmem hadmitted
  · intro hnone p hmem hadmitted
    exact hnone ⟨p, hmem, hadmitted⟩

theorem best?_filter_eq_some_iff {r : Request} {peers : List Peer} {model : String} {p : Peer}
    (hdistinct : (peers.map Peer.id).Nodup) :
    Peer.best? (peers.filter (r.admits model)) = some p ↔
      p ∈ peers ∧ r.admits model p = true ∧
        ∀ q ∈ peers, r.admits model q = true → q ≠ p → p.rank < q.rank := by
  have hdistinct' : ((peers.filter (r.admits model)).map Peer.id).Nodup :=
    hdistinct.sublist (List.filter_sublist.map Peer.id)
  rw [Peer.best?_eq_some_iff hdistinct']
  simp only [List.mem_filter]
  constructor
  · rintro ⟨⟨hmem, hadmitted⟩, hrank⟩
    exact ⟨hmem, hadmitted, fun q hq hqadmitted => hrank q ⟨hq, hqadmitted⟩⟩
  · rintro ⟨hmem, hadmitted, hrank⟩
    exact ⟨⟨hmem, hadmitted⟩, fun q hq => hrank q hq.1 hq.2⟩

theorem firstTier?_eq_none_iff {r : Request} {peers : List Peer} {preferences : List String}
    (start : Nat) :
    r.firstTier? peers start preferences = none ↔
      ∀ model ∈ preferences, ¬ r.HasCandidate peers model := by
  induction preferences generalizing start with
  | nil => simp [firstTier?]
  | cons head rest ih =>
      simp only [firstTier?, List.forall_mem_cons]
      cases hbest : Peer.best? (peers.filter (r.admits head)) with
      | none => simp [ih, best?_filter_eq_none_iff.1 hbest]
      | some p =>
          have hcandidate : r.HasCandidate peers head := by
            by_contra hnone
            rw [best?_filter_eq_none_iff.2 hnone] at hbest
            cases hbest
          simp [hcandidate]

theorem firstTier?_eq_some_iff {r : Request} {peers : List Peer} {preferences : List String}
    {start tier : Nat} {model : String} {p : Peer} (hdistinct : (peers.map Peer.id).Nodup) :
    r.firstTier? peers start preferences = some (tier, model, p) ↔
      ∃ place, tier = start + place ∧ r.IsTieredLeast peers preferences place model p := by
  induction preferences generalizing start with
  | nil =>
      constructor
      · intro h
        cases h
      · rintro ⟨place, -, hleast⟩
        cases hleast.preferred
  | cons head rest ih =>
      simp only [firstTier?]
      cases hbest : Peer.best? (peers.filter (r.admits head)) with
      | some q =>
          have hq := (best?_filter_eq_some_iff hdistinct).1 hbest
          constructor
          · intro h
            cases h
            exact ⟨0, rfl, isTieredLeast_zero_iff.2 ⟨rfl, hq⟩⟩
          · rintro ⟨place, rfl, hleast⟩
            cases place with
            | zero =>
                obtain ⟨rfl, hp⟩ := isTieredLeast_zero_iff.1 hleast
                rw [(best?_filter_eq_some_iff hdistinct).2 hp] at hbest
                cases hbest
                rfl
            | succ place =>
                exact absurd ⟨q, hq.1, hq.2.1⟩ (isTieredLeast_succ_iff.1 hleast).1
      | none =>
          have hnone := best?_filter_eq_none_iff.1 hbest
          simp only [ih]
          constructor
          · rintro ⟨place, rfl, hleast⟩
            exact ⟨place + 1, by omega, isTieredLeast_succ_iff.2 ⟨hnone, hleast⟩⟩
          · rintro ⟨place, rfl, hleast⟩
            cases place with
            | zero =>
                obtain ⟨rfl, hmem, hadmitted, -⟩ := isTieredLeast_zero_iff.1 hleast
                exact absurd ⟨p, hmem, hadmitted⟩ hnone
            | succ place => exact ⟨place, by omega, (isTieredLeast_succ_iff.1 hleast).2⟩

/-- Whatever the identifiers are, the walk ends at a candidate. -/
theorem admits_of_firstTier? {r : Request} {peers : List Peer} {preferences : List String}
    {start tier : Nat} {model : String} {p : Peer}
    (hfirst : r.firstTier? peers start preferences = some (tier, model, p)) :
    p ∈ peers ∧ r.admits model p = true := by
  induction preferences generalizing start with
  | nil => cases hfirst
  | cons head rest ih =>
      simp only [firstTier?] at hfirst
      cases hbest : Peer.best? (peers.filter (r.admits head)) with
      | none =>
          rw [hbest] at hfirst
          exact ih hfirst
      | some q =>
          rw [hbest] at hfirst
          cases hfirst
          exact List.mem_filter.1 (Peer.best?_mem hbest)

/-- Which tier and which peer it is does not depend on the order of the peers. -/
theorem isTieredLeast_perm {r : Request} {peers peers' : List Peer} {preferences : List String}
    {tier : Nat} {model : String} {p : Peer} (hperm : peers'.Perm peers)
    (h : r.IsTieredLeast peers preferences tier model p) :
    r.IsTieredLeast peers' preferences tier model p where
  preferred := h.preferred
  none_earlier earlier hlt other hother := by
    rintro ⟨q, hq, hadmitted⟩
    exact h.none_earlier earlier hlt other hother ⟨q, hperm.mem_iff.1 hq, hadmitted⟩
  mem := hperm.mem_iff.2 h.mem
  admitted := h.admitted
  rank_lt q hq := h.rank_lt q (hperm.mem_iff.1 hq)

end Request

/-- The models that are tried for a request, in order. -/
def Policy.preferencesFor (policy : Policy) (r : Request) : List String :=
  policy.resolve (policy.categoryOf r) r.preferred

/-- The three results, by the models to try and by what the walk over them finds. -/
theorem select_eq (policy : Policy) (r : Request) (peers : List Peer) :
    select policy r peers =
      if policy.preferencesFor r = [] then
        .error (.system ("no model preferences configured for category '"
          ++ policy.categoryOf r ++ "'"))
      else
        match r.firstTier? peers 0 (policy.preferencesFor r) with
        | some (tier, model, p) => .ok ⟨p.route model, tier, policy.categoryOf r⟩
        | none => .error (.noAvailableEndpoint (policy.categoryOf r) (policy.preferencesFor r)) := by
  unfold select Policy.preferencesFor
  dsimp only
  cases policy.resolve (policy.categoryOf r) r.preferred with
  | nil => exact (if_pos rfl).symm
  | cons head rest => exact (if_neg (List.cons_ne_nil head rest)).symm

/-- Selection succeeds exactly if the walk over the tiers finds one. -/
theorem select_eq_ok_iff_firstTier? {policy : Policy} {r : Request} {peers : List Peer}
    {s : Selection} :
    select policy r peers = .ok s ↔
      ∃ tier model p, r.firstTier? peers 0 (policy.preferencesFor r) = some (tier, model, p) ∧
        s = ⟨p.route model, tier, policy.categoryOf r⟩ := by
  rw [select_eq]
  by_cases hnil : policy.preferencesFor r = []
  · rw [if_pos hnil, hnil]
    simp [Request.firstTier?]
  · rw [if_neg hnil]
    cases r.firstTier? peers 0 (policy.preferencesFor r) with
    | none => simp
    | some found =>
        obtain ⟨tier, model, p⟩ := found
        simp [eq_comm]

theorem select_eq_ok_iff {policy : Policy} {r : Request} {peers : List Peer} {s : Selection}
    (hdistinct : (peers.map Peer.id).Nodup) :
    select policy r peers = .ok s ↔
      ∃ tier model p, r.IsTieredLeast peers (policy.preferencesFor r) tier model p ∧
        s = ⟨p.route model, tier, policy.categoryOf r⟩ := by
  rw [select_eq]
  constructor
  · intro h
    split at h
    · cases h
    · split at h
      · next tier model p hfirst =>
          obtain ⟨place, rfl, hleast⟩ := (Request.firstTier?_eq_some_iff hdistinct).1 hfirst
          cases h
          exact ⟨place, model, p, hleast, by rw [Nat.zero_add]⟩
      · cases h
  · rintro ⟨tier, model, p, hleast, rfl⟩
    have hfirst : r.firstTier? peers 0 (policy.preferencesFor r) = some (tier, model, p) :=
      (Request.firstTier?_eq_some_iff hdistinct).2 ⟨tier, (Nat.zero_add tier).symm, hleast⟩
    have hsome : policy.preferencesFor r ≠ [] := by
      intro hnil
      have hpreferred := hleast.preferred
      rw [hnil] at hpreferred
      cases hpreferred
    rw [if_neg hsome, hfirst]

theorem select_eq_system_iff {policy : Policy} {r : Request} {peers : List Peer}
    {reason : String} :
    select policy r peers = .error (.system reason) ↔
      policy.preferencesFor r = [] ∧
        reason = "no model preferences configured for category '" ++ policy.categoryOf r ++ "'" := by
  rw [select_eq]
  by_cases hnil : policy.preferencesFor r = []
  · simp [hnil, eq_comm]
  · rw [if_neg hnil]
    cases r.firstTier? peers 0 (policy.preferencesFor r) <;> simp [hnil]

theorem select_eq_noAvailableEndpoint_iff {policy : Policy} {r : Request} {peers : List Peer}
    {category : String} {tried : List String} :
    select policy r peers = .error (.noAvailableEndpoint category tried) ↔
      policy.preferencesFor r ≠ [] ∧
        (∀ model ∈ policy.preferencesFor r, ¬ r.HasCandidate peers model) ∧
        category = policy.categoryOf r ∧ tried = policy.preferencesFor r := by
  rw [select_eq]
  by_cases hnil : policy.preferencesFor r = []
  · simp [hnil]
  · rw [if_neg hnil, ← Request.firstTier?_eq_none_iff 0]
    cases r.firstTier? peers 0 (policy.preferencesFor r) with
    | none => simp [hnil, eq_comm]
    | some found => simp

theorem select_perm {policy : Policy} {r : Request} {peers peers' : List Peer}
    (hdistinct : (peers.map Peer.id).Nodup) (hperm : peers'.Perm peers) :
    select policy r peers' = select policy r peers := by
  have hdistinct' : (peers'.map Peer.id).Nodup := (hperm.map Peer.id).nodup_iff.2 hdistinct
  have hcandidate : ∀ model, r.HasCandidate peers' model ↔ r.HasCandidate peers model := by
    intro model
    unfold Request.HasCandidate
    simp only [hperm.mem_iff]
  cases hselect : select policy r peers with
  | ok s =>
      obtain ⟨tier, model, p, hleast, rfl⟩ := (select_eq_ok_iff hdistinct).1 hselect
      exact (select_eq_ok_iff hdistinct').2
        ⟨tier, model, p, Request.isTieredLeast_perm hperm hleast, rfl⟩
  | error e =>
      cases e with
      | system reason =>
          exact select_eq_system_iff.2 (select_eq_system_iff.1 hselect)
      | noAvailableEndpoint category tried =>
          obtain ⟨hsome, hnone, hcategory, htried⟩ := select_eq_noAvailableEndpoint_iff.1 hselect
          refine select_eq_noAvailableEndpoint_iff.2 ⟨hsome, ?_, hcategory, htried⟩
          intro model hmodel
          rw [hcandidate]
          exact hnone model hmodel

/-- Selection over peers with distinct identifiers. It gives the first tier with a candidate and
the candidate there that comes before all others; it fails for want of preferences exactly if there
are none, and for want of an endpoint exactly if there are some and none of them has a candidate.
The order of the peers does not matter, and a selected peer is available and not left out. -/
theorem select_is_tiered_least (policy : Policy) (r : Request) {peers : List Peer}
    (hdistinct : (peers.map Peer.id).Nodup) :
    let preferences := policy.preferencesFor r
    let category := policy.categoryOf r
    (∀ s, select policy r peers = .ok s ↔
      ∃ tier model p, r.IsTieredLeast peers preferences tier model p ∧
        s = ⟨⟨p.endpointUrl, p.id, model, false⟩, tier, category⟩) ∧
    (∀ reason, select policy r peers = .error (.system reason) ↔
      preferences = [] ∧
        reason = "no model preferences configured for category '" ++ category ++ "'") ∧
    (∀ c tried, select policy r peers = .error (.noAvailableEndpoint c tried) ↔
      preferences ≠ [] ∧ (∀ model ∈ preferences, ¬ r.HasCandidate peers model) ∧
        c = category ∧ tried = preferences) ∧
    (∀ peers', peers'.Perm peers → select policy r peers' = select policy r peers) ∧
    ∀ s, select policy r peers = .ok s →
      ∃ p ∈ peers, s.route.peerId = p.id ∧ p.isAvailable = true ∧
        r.excluded.contains p.id = false := by
  intro preferences category
  refine ⟨fun s => select_eq_ok_iff hdistinct, fun reason => select_eq_system_iff,
    fun c tried => select_eq_noAvailableEndpoint_iff, fun peers' => select_perm hdistinct, ?_⟩
  intro s hselect
  obtain ⟨tier, model, p, hleast, rfl⟩ := (select_eq_ok_iff hdistinct).1 hselect
  obtain ⟨hexcluded, havailable, -⟩ := Request.admits_iff.1 hleast.admitted
  exact ⟨p, hleast.mem, rfl, havailable, hexcluded⟩

/-- An available peer that serves one model. -/
def servingAt (id : String) (load : Binary64) (model : String) : Peer :=
  ⟨id, ⟨id, defaultPort⟩,
    { Capability.unseen with models := .ofList [model], load := load, available := true }⟩

/-- A request for the first of some models. -/
def askingFor (models : List String) : Request :=
  { Request.ofPrompt "" with category := some "coding", preferred := some models }

/-- Minus zero comes before zero, against the identifiers and wherever the peers stand. -/
theorem select_is_tiered_least_of_zeros :
    let zero := servingAt "a" ⟨0⟩ "m"
    let minusZero := servingAt "b" ⟨0x8000000000000000⟩ "m"
    ([zero, minusZero].map Peer.id).Nodup ∧
    select .builtin (askingFor ["m"]) [zero, minusZero] =
      .ok ⟨⟨minusZero.endpointUrl, "b", "m", false⟩, 0, "coding"⟩ ∧
    select .builtin (askingFor ["m"]) [minusZero, zero] =
      select .builtin (askingFor ["m"]) [zero, minusZero] := by
  intro zero minusZero
  have hdistinct : ([zero, minusZero].map Peer.id).Nodup := by decide
  obtain ⟨hok, -, -, hperm, -⟩ :=
    select_is_tiered_least .builtin (askingFor ["m"]) hdistinct
  have hleast : (askingFor ["m"]).IsTieredLeast [zero, minusZero] ["m"] 0 "m" minusZero := by
    refine Request.isTieredLeast_zero_iff.2 ⟨rfl, by simp, by decide, ?_⟩
    intro q hq _ hne
    have hq : q = zero := by simpa [hne] using hq
    rw [hq]
    exact Peer.outranks_iff.1 (by decide)
  exact ⟨hdistinct, (hok _).2 ⟨0, "m", minusZero, hleast, rfl⟩,
    hperm _ (List.Perm.swap zero minusZero [])⟩

end InferenceFleet
