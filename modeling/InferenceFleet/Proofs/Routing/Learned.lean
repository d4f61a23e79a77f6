import InferenceFleet.Proofs.Routing.TieredMinimum

/-!
# Learned models

A hook that names a model for a category puts that model before the preferences of the table and
takes it out of them, and does nothing else. So where a peer can run the model, selection takes the
best of those that can; and where nobody can, the walk over the tiers passes the model by, wherever
it stands, and finds what it would find without the hook (`Request.firstTier?_filter`). A hook that
fails, or names no model or a blank one, is as good as none.
-/

namespace InferenceFleet

namespace Policy

/-- The policy without a hook. -/
def withoutLearned (p : Policy) : Policy := { p with learned := none }

variable {p : Policy} {hook : LearnedHook} {category model : String}

theorem categoryOf_withLearned (r : Request) :
    (p.withLearned hook).categoryOf r = p.categoryOf r := rfl

/-- A hook that fails, or names no model or a blank one. -/
def HasNoAdvice (hook : LearnedHook) (category : String) : Prop :=
  (∃ e, hook category = .error e) ∨ hook category = .ok none ∨
    ∃ model, hook category = .ok (some model) ∧ Text.isBlankText model = true

/-- Otherwise the hook names a model that is not blank. -/
theorem hasNoAdvice_or_advice (hook : LearnedHook) (category : String) :
    HasNoAdvice hook category ∨
      ∃ model, hook category = .ok (some model) ∧ Text.isBlankText model = false := by
  cases hanswer : hook category with
  | error e => exact .inl (.inl ⟨e, hanswer⟩)
  | ok answer =>
      cases answer with
      | none => exact .inl (.inr (.inl hanswer))
      | some model =>
          cases hblank : Text.isBlankText model with
          | true => exact .inl (.inr (.inr ⟨model, hanswer, hblank⟩))
          | false => exact .inr ⟨model, rfl, hblank⟩

theorem learnedModel?_of_hasNoAdvice (hnone : HasNoAdvice hook category) :
    (p.withLearned hook).learnedModel? category = none := by
  simp only [learnedModel?, withLearned]
  rcases hnone with ⟨e, herror⟩ | hsilent | ⟨model, hmodel, hblank⟩
  · rw [herror]
  · rw [hsilent]
  · rw [hmodel]
    exact if_pos hblank

theorem learnedModel?_of_advice (hmodel : hook category = .ok (some model))
    (hname : Text.isBlankText model = false) :
    (p.withLearned hook).learnedModel? category = some model := by
  simp only [learnedModel?, withLearned, hmodel, hname]
  rfl

variable {r : Request}

theorem preferencesFor_withoutLearned (hown : r.preferred = none) :
    p.withoutLearned.preferencesFor r = p.tableOf (p.categoryOf r) := by
  unfold preferencesFor resolve
  rw [hown]
  rfl

theorem preferencesFor_of_hasNoAdvice (hown : r.preferred = none)
    (hnone : HasNoAdvice hook (p.categoryOf r)) :
    (p.withLearned hook).preferencesFor r = p.withoutLearned.preferencesFor r := by
  rw [preferencesFor_withoutLearned hown]
  unfold preferencesFor resolve
  rw [hown, categoryOf_withLearned, learnedModel?_of_hasNoAdvice hnone]
  rfl

/-- The model that was named comes first, and once only. -/
theorem preferencesFor_of_advice (hown : r.preferred = none)
    (hmodel : hook (p.categoryOf r) = .ok (some model)) (hname : Text.isBlankText model = false) :
    (p.withLearned hook).preferencesFor r =
      model :: (p.withoutLearned.preferencesFor r).filter (· ≠ model) := by
  rw [preferencesFor_withoutLearned hown]
  unfold preferencesFor resolve
  rw [hown, categoryOf_withLearned, learnedModel?_of_advice hmodel hname]
  rfl

end Policy

namespace Request

variable {r : Request} {peers : List Peer} {model : String}

/-- A model that nobody can run makes no difference to the walk but for the number of the tier. -/
theorem firstTier?_filter (hnobody : ¬ r.HasCandidate peers model) (preferences : List String)
    (start start' : Nat) :
    (r.firstTier? peers start (preferences.filter (· ≠ model))).map Prod.snd =
      (r.firstTier? peers start' preferences).map Prod.snd := by
  induction preferences generalizing start start' with
  | nil => rfl
  | cons head rest ih =>
      by_cases hhead : head = model
      · subst hhead
        rw [List.filter_cons_of_neg (by simp), firstTier?, best?_filter_eq_none_iff.2 hnobody]
        exact ih start (start' + 1)
      · rw [List.filter_cons_of_pos (by simpa using hhead), firstTier?, firstTier?]
        cases Peer.best? (peers.filter (r.admits head)) with
        | some p => rfl
        | none => exact ih (start + 1) (start' + 1)

/-- The same holds if the model is put in front as well. -/
theorem firstTier?_cons_filter (hnobody : ¬ r.HasCandidate peers model)
    (preferences : List String) (start start' : Nat) :
    (r.firstTier? peers start (model :: preferences.filter (· ≠ model))).map Prod.snd =
      (r.firstTier? peers start' preferences).map Prod.snd := by
  rw [firstTier?, best?_filter_eq_none_iff.2 hnobody]
  exact firstTier?_filter hnobody preferences (start + 1) start'

/-- If somebody can run a model, one of those comes before all others. -/
theorem exists_best_of_hasCandidate (hdistinct : (peers.map Peer.id).Nodup)
    (hsomebody : r.HasCandidate peers model) :
    ∃ q ∈ peers, r.admits model q = true ∧
      ∀ q' ∈ peers, r.admits model q' = true → q' ≠ q → q.rank < q'.rank := by
  cases hbest : Peer.best? (peers.filter (r.admits model)) with
  | none => exact absurd hsomebody (best?_filter_eq_none_iff.1 hbest)
  | some q => exact ⟨q, (best?_filter_eq_some_iff hdistinct).1 hbest⟩

end Request

variable {policy policy' : Policy} {r : Request} {peers : List Peer}

/-- Policies that agree on the category of a request, and whose walks end at the same peer with the
same model, route it alike. -/
theorem select_agrees (hcategory : policy'.categoryOf r = policy.categoryOf r)
    (hwalk : (r.firstTier? peers 0 (policy'.preferencesFor r)).map Prod.snd =
      (r.firstTier? peers 0 (policy.preferencesFor r)).map Prod.snd)
    {s : Selection} (hselect : select policy r peers = .ok s) :
    ∃ tier, select policy' r peers = .ok { s with tier := tier } := by
  obtain ⟨tier, model, p, hfirst, rfl⟩ := select_eq_ok_iff_firstTier?.1 hselect
  rw [hfirst] at hwalk
  obtain ⟨⟨tier', found⟩, hfirst', heq⟩ := Option.map_eq_some_iff.1 hwalk
  obtain rfl : found = (model, p) := heq
  exact ⟨tier', select_eq_ok_iff_firstTier?.2 ⟨tier', model, p, hfirst', by rw [hcategory]⟩⟩

/-- What a hook does to the selection for a request that brings no models of its own. A hook without
advice does nothing. If a peer can run the model that it names, the best of those is selected for
that model, at the first tier. If none can, selection succeeds exactly where it does without the
hook, and with the same peer and model. So whatever can be routed without a hook can be routed with
it. -/
theorem learned_hook_only_reorders (p : Policy) (hook : LearnedHook) {r : Request}
    {peers : List Peer} (hdistinct : (peers.map Peer.id).Nodup) (hown : r.preferred = none) :
    let category := p.categoryOf r
    let plain := select p.withoutLearned r peers
    let hooked := select (p.withLearned hook) r peers
    (Policy.HasNoAdvice hook category → hooked = plain) ∧
    (∀ model, hook category = .ok (some model) → Text.isBlankText model = false →
      (r.HasCandidate peers model →
        ∃ q ∈ peers, r.admits model q = true ∧
          (∀ q' ∈ peers, r.admits model q' = true → q' ≠ q → q.rank < q'.rank) ∧
          hooked = .ok ⟨q.route model, 0, category⟩) ∧
      (¬ r.HasCandidate peers model →
        (∀ s, plain = .ok s → ∃ tier, hooked = .ok { s with tier := tier }) ∧
        ∀ s, hooked = .ok s → ∃ tier, plain = .ok { s with tier := tier })) ∧
    ((∃ s, plain = .ok s) → ∃ s, hooked = .ok s) := by
  intro category plain hooked
  have hnone : Policy.HasNoAdvice hook category → hooked = plain := by
    intro hadvice
    simp only [hooked, plain, select_eq, Policy.preferencesFor_of_hasNoAdvice hown hadvice]
    rfl
  have hfirst : ∀ model, hook category = .ok (some model) → Text.isBlankText model = false →
      r.HasCandidate peers model →
        ∃ q ∈ peers, r.admits model q = true ∧
          (∀ q' ∈ peers, r.admits model q' = true → q' ≠ q → q.rank < q'.rank) ∧
          hooked = .ok ⟨q.route model, 0, category⟩ := by
    intro model hmodel hname hsomebody
    obtain ⟨q, hmem, hadmitted, hrank⟩ :=
      Request.exists_best_of_hasCandidate hdistinct hsomebody
    refine ⟨q, hmem, hadmitted, hrank, (select_eq_ok_iff hdistinct).2 ⟨0, model, q, ?_, rfl⟩⟩
    rw [Policy.preferencesFor_of_advice hown hmodel hname]
    exact Request.isTieredLeast_zero_iff.2 ⟨rfl, hmem, hadmitted, hrank⟩
  have hpassed : ∀ model, hook category = .ok (some model) → Text.isBlankText model = false →
      ¬ r.HasCandidate peers model →
        (∀ s, plain = .ok s → ∃ tier, hooked = .ok { s with tier := tier }) ∧
        ∀ s, hooked = .ok s → ∃ tier, plain = .ok { s with tier := tier } := by
    intro model hmodel hname hnobody
    have hwalk : (r.firstTier? peers 0 ((p.withLearned hook).preferencesFor r)).map Prod.snd =
        (r.firstTier? peers 0 (p.withoutLearned.preferencesFor r)).map Prod.snd := by
      rw [Policy.preferencesFor_of_advice hown hmodel hname]
      exact Request.firstTier?_cons_filter hnobody _ 0 0
    have hcategory : (p.withLearned hook).categoryOf r = p.withoutLearned.categoryOf r := rfl
    exact ⟨fun s => select_agrees hcategory hwalk, fun s => select_agrees hcategory.symm hwalk.symm⟩
  refine ⟨hnone, fun model hmodel hname => ⟨hfirst model hmodel hname, hpassed model hmodel hname⟩,
    ?routable⟩
  case routable =>
    rintro ⟨s, hplain⟩
    rcases Policy.hasNoAdvice_or_advice hook category with hadvice | ⟨model, hmodel, hname⟩
    · exact ⟨s, (hnone hadvice).trans hplain⟩
    · by_cases hsomebody : r.HasCandidate peers model
      · obtain ⟨q, -, -, -, hhooked⟩ := hfirst model hmodel hname hsomebody
        exact ⟨_, hhooked⟩
      · obtain ⟨tier, hhooked⟩ := (hpassed model hmodel hname hsomebody).1 s hplain
        exact ⟨_, hhooked⟩

/-- A policy whose table lists a model twice, and with it the one that the hook will name. -/
def doubled : Policy := Policy.builtin.withPreferences "coding" ["n", "x", "n", "m", "x"]

/-- Nobody serves the model that is named, which moves the tier of the one that is found; and where
somebody does, that peer takes the place of the one that would have been found. -/
theorem learned_hook_only_reorders_doubled :
    let peers := [servingAt "a" ⟨0⟩ "m", servingAt "b" ⟨0⟩ "n"]
    let r : Request := { Request.ofPrompt "" with category := some "coding" }
    let hook : LearnedHook := fun _ => .ok (some "x")
    let useful : LearnedHook := fun _ => .ok (some "m")
    (peers.map Peer.id).Nodup ∧ r.preferred = none ∧
      select doubled.withoutLearned r peers = .ok ⟨(servingAt "b" ⟨0⟩ "n").route "n", 0, "coding"⟩ ∧
      (∃ tier, select (doubled.withLearned hook) r peers =
        .ok ⟨(servingAt "b" ⟨0⟩ "n").route "n", tier, "coding"⟩) ∧
      ∃ q ∈ peers, select (doubled.withLearned useful) r peers = .ok ⟨q.route "m", 0, "coding"⟩ := by
  intro peers r hook useful
  have hdistinct : (peers.map Peer.id).Nodup := by decide
  have hown : r.preferred = none := rfl
  have hplain : select doubled.withoutLearned r peers =
      .ok ⟨(servingAt "b" ⟨0⟩ "n").route "n", 0, "coding"⟩ := by decide
  have hnobody : ¬ r.HasCandidate peers "x" := by
    rintro ⟨q, hq, hadmitted⟩
    have hnone : ∀ q ∈ peers, r.admits "x" q = false := by decide
    rw [hnone q hq] at hadmitted
    cases hadmitted
  have hsomebody : r.HasCandidate peers "m" :=
    ⟨servingAt "a" ⟨0⟩ "m", List.mem_cons_self, by decide⟩
  obtain ⟨-, hnamed, -⟩ := learned_hook_only_reorders doubled hook hdistinct hown
  obtain ⟨-, hserved, -⟩ := learned_hook_only_reorders doubled useful hdistinct hown
  obtain ⟨q, hq, -, -, hhooked⟩ := (hserved "m" rfl (by decide)).1 hsomebody
  exact ⟨hdistinct, hown, hplain, ((hnamed "x" rfl (by decide)).2 hnobody).1 _ hplain,
    q, hq, hhooked⟩

end InferenceFleet
