import InferenceFleet.Config.Validation
import InferenceFleet.Program.Entry
import InferenceFleet.Proofs.Routing.Counting
import InferenceFleet.Proofs.Text.Bindings

/-!
# Policies that have a model for everything

A policy covers everything if no list of its table is empty and there is a list for the categories
that have none of their own. The built-in policy covers everything, and settings without an empty
list, which are those that validation lets pass, keep it so: they can replace the lists of a table
but not take one away. Selection by such a policy can fail in one way only, unless a request brings
an empty list of its own to prefer; and the command that routes a task never builds such a request.
-/

namespace InferenceFleet

namespace Policy

section Overlay

variable {α : Type} {base : TextMap α} {top : List (String × α)} {key : String}

theorem get?_overlay (base : TextMap α) (top : List (String × α)) (key : String) :
    (overlay base top).get? key = (TextMap.find key top.reverse).or (base.get? key) :=
  base.get?_foldl_insert top key

/-- A binding of an overlaid map comes from the top or was there before. -/
theorem mem_or_get?_of_overlay {value : α} (h : (overlay base top).get? key = some value) :
    (key, value) ∈ top ∨ base.get? key = some value := by
  rw [get?_overlay, Option.or_eq_some_iff] at h
  rcases h with htop | ⟨-, hbase⟩
  · exact .inl (List.mem_reverse.1 (TextMap.mem_of_find htop))
  · exact .inr hbase

/-- No key is lost. -/
theorem isSome_get?_overlay (h : (base.get? key).isSome) :
    ((overlay base top).get? key).isSome := by
  rw [get?_overlay, Option.isSome_or, h, Bool.or_true]

end Overlay

/-- No list of the table is empty, and there is one for the categories that have none of their
own. -/
structure Covers (p : Policy) : Prop where
  ne_nil : ∀ category models, p.preferences.get? category = some models → models ≠ []
  shared : (p.preferences.get? sharedEntry).isSome

theorem covers_builtin : builtin.Covers where
  ne_nil category models hget := by
    have hlists : ∀ b ∈ builtinPreferences, b.2 ≠ [] := by decide
    have hbound : (category, models) ∈ builtinPreferences ∨
        TextMap.empty.get? category = some models := mem_or_get?_of_overlay hget
    rcases hbound with hmem | hnone
    · exact hlists _ hmem
    · cases hnone
  shared := by decide

/-- Settings laid over the built-in policy leave no category without a model, unless they bind one
to an empty list. -/
theorem covers_ofSettings {s : PolicySettings} (h : ∀ b ∈ s.preferences.entries, b.2 ≠ []) :
    (ofSettings s).Covers where
  ne_nil category models hget := by
    rcases mem_or_get?_of_overlay hget with hmem | hbuiltin
    · exact h _ hmem
    · exact covers_builtin.ne_nil category models hbuiltin
  shared := isSome_get?_overlay covers_builtin.shared

variable {p : Policy}

theorem Covers.tableOf_ne_nil (h : p.Covers) (category : String) : p.tableOf category ≠ [] := by
  unfold tableOf
  split
  · next models hget => exact h.ne_nil category models hget
  · obtain ⟨models, hshared⟩ := Option.isSome_iff_exists.1 h.shared
    rw [hshared]
    exact h.ne_nil sharedEntry models hshared

/-- There is a model for every category, whatever a hook has learned. -/
theorem Covers.resolve_ne_nil (h : p.Covers) (category : String) :
    p.resolve category none ≠ [] := by
  simp only [resolve]
  split
  · exact List.cons_ne_nil _ _
  · exact h.tableOf_ne_nil category

/-- There is a model for every request that brings no empty list of its own. -/
theorem Covers.preferencesFor_ne_nil (h : p.Covers) {r : Request}
    (hpreferred : r.preferred ≠ some []) : p.preferencesFor r ≠ [] := by
  unfold preferencesFor
  cases hmodels : r.preferred with
  | none => exact h.resolve_ne_nil _
  | some models =>
      rintro rfl
      exact hpreferred hmodels

end Policy

/-- Selection fails only because nobody serves the models there are, if there are some. -/
theorem error_eq_of_select {policy : Policy} {r : Request} {peers : List Peer} {e : RoutingError}
    (hsome : policy.preferencesFor r ≠ []) (hselect : select policy r peers = .error e) :
    e = .noAvailableEndpoint (policy.categoryOf r) (policy.preferencesFor r) := by
  cases e with
  | system reason => exact absurd (select_eq_system_iff.1 hselect).1 hsome
  | noAvailableEndpoint category tried =>
      obtain ⟨-, -, rfl, rfl⟩ := select_eq_noAvailableEndpoint_iff.1 hselect
      rfl

/-- Only a strict policy reports an error, and then the one that selection failed with. -/
theorem FailurePolicy.of_respond_eq_error {failure : FailurePolicy}
    {outcome : Except RoutingError Selection} {e : RoutingError}
    (h : failure.respond outcome = .error e) : failure = .strict ∧ outcome = .error e := by
  cases outcome with
  | ok selection => cases h
  | error e' =>
      cases failure with
      | strict => exact ⟨rfl, congrArg Except.error (Except.error.inj h)⟩
      | resilient fallback => cases h

namespace FleetConfig

/-- A configuration that passes its check lists a model for every category that it names. -/
theorem preferences_ne_nil_of_check {c : FleetConfig} (hvalid : c.check = .ok ()) :
    ∀ b ∈ c.policy.preferences.entries, b.2 ≠ [] := by
  have hcomplaint := complaint?_of_check hvalid
  unfold complaint? at hcomplaint
  iterate 6
    split at hcomplaint
    · cases hcomplaint
  intro b hmem hnil
  have hfound := List.find?_eq_none.1 (Option.map_eq_none_iff.1 hcomplaint) b hmem
  rw [hnil] at hfound
  exact hfound rfl

end FleetConfig

namespace CommandLine.RouteOptions

/-- The command brings a list to prefer only if it is not empty. -/
theorem preferred_request_ne (o : RouteOptions) : o.request.preferred ≠ some [] := by
  show (if o.preferred.isEmpty then none else some o.preferred) ≠ some []
  cases o.preferred with
  | nil => simp
  | cons head rest => simp

/-- What the command asks a router that meets a registry. -/
def asked (o : RouteOptions) (registry : Registry) : Asked :=
  ⟨registry, fun _ => .ok none, .route o.request⟩

end CommandLine.RouteOptions

namespace Router

variable {policy : Policy} {failure : FailurePolicy} {calls : List Asked}

/-- With a model to try at every call, every error that is reported is that all of them were tried
in vain. -/
theorem exhausted_of_answers (hsome : ∀ asked ∈ calls,
      (policy.hearing asked.hook).preferencesFor asked.call.request ≠ []) :
    List.Forall₂ (fun asked result => ∀ e, result = .error e → failure = .strict ∧
        e = .noAvailableEndpoint ((policy.hearing asked.hook).categoryOf asked.call.request)
          ((policy.hearing asked.hook).preferencesFor asked.call.request))
      calls ((Router.new policy failure).answers calls).1 := by
  rw [answers_eq, List.forall₂_map_right_iff, List.forall₂_map_right_iff, List.forall₂_same]
  intro asked hasked e herror
  obtain ⟨hstrict, houtcome⟩ := FailurePolicy.of_respond_eq_error herror
  exact ⟨hstrict, error_eq_of_select (hsome asked hasked) houtcome⟩

/-- With a model to try at every call, no system error is counted. -/
theorem systemErrors_of_answers (hsome : ∀ asked ∈ calls,
      (policy.hearing asked.hook).preferencesFor asked.call.request ≠ []) :
    ((Router.new policy failure).answers calls).2.statistics.systemErrors = 0 := by
  have hcounts := Statistics.counts_foldl failure (calls.map (outcome policy))
  have hnone : (Statistics.errors (calls.map (outcome policy))).countP
      (fun e => ¬ e.isExhausted) = 0 := by
    rw [List.countP_eq_zero]
    intro e he
    obtain ⟨result, hresult, herror⟩ := List.mem_filterMap.1 he
    obtain ⟨asked, hasked, rfl⟩ := List.mem_map.1 hresult
    cases houtcome : outcome policy asked with
    | ok selection =>
        rw [houtcome] at herror
        cases herror
    | error e' =>
        rw [houtcome] at herror
        obtain rfl := Option.some.inj herror
        rw [error_eq_of_select (hsome asked hasked) houtcome]
        simp [RoutingError.isExhausted]
  rw [answers_eq]
  exact hcounts.systemErrors.trans (congrArg UInt64.ofNat hnone)

end Router

namespace Program

variable {h : Host} {c : FleetConfig}

/-- A session is opened, or a peer file could not be loaded. -/
theorem start_cases (h : Host) (c : FleetConfig) :
    (∃ registry, Session.start h c = .ok (Session.ofRegistry h c registry)) ∨
      ∃ path cause, Session.start h c = .error (.loading path cause) := by
  unfold Session.start Session.loadPeers
  cases c.peersFile with
  | none => exact .inl ⟨.empty, rfl⟩
  | some path =>
      dsimp only
      cases Registry.empty.load h.files path with
      | ok loaded => exact .inl ⟨loaded.1, rfl⟩
      | error cause => exact .inr ⟨path, cause, rfl⟩

/-- Showing a route asks the router of the session about the peers that a cycle has left. -/
theorem showRoute_result (s : Session) (r : Request) :
    (s.showRoute r).result =
      match (s.router.route s.cycle.1.registry.snapshot r).1 with
      | .ok route => .ok (some route.toTree)
      | .error e => .error (.unroutable e) := by
  have hrouter : s.cycle.1.router = s.router := rfl
  simp only [Session.showRoute, hrouter]
  rcases s.router.route s.cycle.1.registry.snapshot r with ⟨result, router⟩
  cases result <;> rfl

/-- The command that routes a task reports an error of routing only in strict mode, and then what
selection failed with. -/
theorem exists_of_route_eq_unroutable {options : CommandLine.RouteOptions} {e : RoutingError}
    (hresult : (perform h c (.route options)).result = .error (.unroutable e)) :
    c.mode = .strict ∧
      ∃ peers, select (.ofSettings c.policy) options.request peers = .error e := by
  unfold perform withSession at hresult
  rcases start_cases h c with ⟨registry, hopened⟩ | ⟨path, cause, hfailed⟩
  · rw [hopened] at hresult
    dsimp only at hresult
    rw [showRoute_result, Router.route_eq] at hresult
    cases hresponse : FailurePolicy.respond (Session.ofRegistry h c registry).router.failure
        (select (Session.ofRegistry h c registry).router.policy options.request
          (Session.ofRegistry h c registry).cycle.1.registry.snapshot) with
    | ok route =>
        rw [hresponse] at hresult
        cases hresult
    | error e' =>
        rw [hresponse] at hresult
        cases hresult
        obtain ⟨hstrict, hselect⟩ := FailurePolicy.of_respond_eq_error hresponse
        refine ⟨?_, _, hselect⟩
        have hfailure : FailurePolicy.ofMode c.mode c.fallback = .strict := hstrict
        cases hmode : c.mode with
        | strict => rfl
        | resilient =>
            rw [hmode] at hfailure
            cases hfailure
  · rw [hfailed] at hresult
    cases hresult

end Program

namespace FleetConfig

/-- A configuration that passes its check has a policy with a model to try for every category, role
and prompt whatsoever, and for everything that the command can ask. So a router over that policy,
whatever the registry is at each call, reports an error only if it is strict, and then that all of
the models there are were tried in vain; it never counts a system error; and the command that routes
a task reports nothing else. -/
theorem valid_configuration_only_exhausts {c : FleetConfig} (hvalid : c.check = .ok ()) :
    let policy := Policy.ofSettings c.policy
    (∀ category, policy.resolve category none ≠ []) ∧
    (∀ role, policy.resolve (policy.categoryOfRole role) none ≠ []) ∧
    (∀ prompt, policy.resolve (policy.classify prompt) none ≠ []) ∧
    (∀ options : CommandLine.RouteOptions, policy.preferencesFor options.request ≠ []) ∧
    (∀ (failure : FailurePolicy) (calls : List (CommandLine.RouteOptions × Registry)),
      let answered :=
        (Router.new policy failure).answers (calls.map fun call => call.1.asked call.2)
      List.Forall₂ (fun call result => ∀ e, result = .error e → failure = .strict ∧
          e = .noAvailableEndpoint (policy.categoryOf call.1.request)
            (policy.preferencesFor call.1.request)) calls answered.1 ∧
      answered.2.statistics.systemErrors = 0) ∧
    ∀ (h : Program.Host) (options : CommandLine.RouteOptions) (e : RoutingError),
      (Program.perform h c (.route options)).result = .error (.unroutable e) →
        c.mode = .strict ∧ ∃ category tried,
          e = .noAvailableEndpoint category tried ∧ tried ≠ [] := by
  intro policy
  have hcovers : policy.Covers := Policy.covers_ofSettings (preferences_ne_nil_of_check hvalid)
  have hsome : ∀ options : CommandLine.RouteOptions, policy.preferencesFor options.request ≠ [] :=
    fun options => hcovers.preferencesFor_ne_nil options.preferred_request_ne
  refine ⟨hcovers.resolve_ne_nil, fun role => hcovers.resolve_ne_nil _,
    fun prompt => hcovers.resolve_ne_nil _, hsome, ?answers, ?command⟩
  case answers =>
    intro failure calls answered
    have hasked : ∀ asked ∈ calls.map fun call => call.1.asked call.2,
        (policy.hearing asked.hook).preferencesFor asked.call.request ≠ [] := by
      intro asked hmem
      obtain ⟨call, -, rfl⟩ := List.mem_map.1 hmem
      exact hsome call.1
    refine ⟨?_, Router.systemErrors_of_answers hasked⟩
    exact (List.forall₂_map_left_iff.1 (Router.exhausted_of_answers hasked)).imp
      fun call result herror => herror
  case command =>
    intro h options e hresult
    obtain ⟨hstrict, peers, hselect⟩ := Program.exists_of_route_eq_unroutable hresult
    exact ⟨hstrict, _, _, error_eq_of_select (hsome options) hselect, hsome options⟩

/-- A strict configuration that sorts prompts into a category for which it lists no model. -/
def strictChores : FleetConfig :=
  { builtin ⟨.empty, none⟩ with
    mode := .strict
    policy :=
      { defaultCategory := some "chores"
        preferences := .ofList [("coding", ["starcoder:3b"])]
        keywords := [⟨"Sweep", "cleaning"⟩]
        roles := .ofList [("Janitor", "cleaning")] } }

/-- A prompt in which the keyword occurs, and nothing else said. -/
def sweeping : CommandLine.RouteOptions := ⟨"sweep the floor", none, none, [], []⟩

/-- Nobody serves the shared models, which are the ones to try for the category. -/
theorem valid_configuration_only_exhausts_sweeping :
    let policy := Policy.ofSettings strictChores.policy
    let answered := (Router.new policy .strict).answers [sweeping.asked .empty]
    strictChores.check = .ok () ∧
    policy.classify "sweep the floor" = "cleaning" ∧
    policy.resolve "cleaning" none ≠ [] ∧
    answered.1 =
      [.error (.noAvailableEndpoint "cleaning" ["llama3.1:8b", "mistral:7b", "llama3.2:3b"])] ∧
    answered.2.statistics.systemErrors = 0 := by
  intro policy answered
  have hvalid : strictChores.check = .ok () := by decide +kernel
  obtain ⟨hcategory, -, -, -, hanswers, -⟩ := valid_configuration_only_exhausts hvalid
  exact ⟨hvalid, by decide +kernel, hcategory "cleaning", by decide +kernel,
    (hanswers .strict [(sweeping, .empty)]).2⟩

end FleetConfig

end InferenceFleet
