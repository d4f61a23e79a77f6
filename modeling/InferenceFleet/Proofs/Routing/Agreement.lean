import InferenceFleet.Proofs.Routing.Counting
import Mathlib.Data.List.Forall2

/-!
# Strict and resilient routers agree

Two routers with one preference policy, a strict one and a resilient one, are asked the same. They
select alike, so they answer alike where something was selected (`FailurePolicy.Agree.served`), and
where the strict one reports an error, whatever it is, the resilient one answers the fallback
(`FailurePolicy.Agree.failed`). Both count the error before it is met, so their counts differ in the
fallbacks alone.
-/

namespace InferenceFleet

/-- What a strict router answers, and what a resilient one with a given fallback answers where it
does. -/
inductive FailurePolicy.Agree (fallback : Fallback) :
    Except RoutingError Route → Except RoutingError Route → Prop
  | served (route : Route) (hpeer : route.isFallback = false) :
      Agree fallback (.ok route) (.ok route)
  | failed (e : RoutingError) :
      Agree fallback (.error e) (.ok ⟨fallback.url, "local-fallback", fallback.model, true⟩)

namespace FailurePolicy

/-- The responses to one selection agree. -/
theorem agree_respond (fallback : Fallback) (policy : Policy) (r : Request) (peers : List Peer) :
    Agree fallback (strict.respond (select policy r peers))
      ((resilient fallback).respond (select policy r peers)) := by
  cases hselect : select policy r peers with
  | ok selection => exact .served selection.route (isFallback_of_select hselect)
  | error e => exact .failed e

end FailurePolicy

namespace Statistics

/-- Counts that differ in the fallbacks alone still do after one more outcome. -/
theorem count_strict (fallback : Fallback) (s : Statistics)
    (outcome : Except RoutingError Selection) :
    count .strict { s with fallbacks := 0 } outcome =
      { count (.resilient fallback) s outcome with fallbacks := 0 } := by
  cases outcome with
  | ok selection => rfl
  | error e => cases e <;> rfl

theorem foldl_count_strict (fallback : Fallback) (s : Statistics)
    (outcomes : List (Except RoutingError Selection)) :
    outcomes.foldl (count .strict) { s with fallbacks := 0 } =
      { outcomes.foldl (count (.resilient fallback)) s with fallbacks := 0 } := by
  induction outcomes generalizing s with
  | nil => rfl
  | cons outcome rest ih =>
      rw [List.foldl_cons, List.foldl_cons, count_strict fallback]
      exact ih _

/-- A strict policy hands on every error, and nothing else fails. -/
theorem countP_respond_strict (outcomes : List (Except RoutingError Selection)) :
    (outcomes.map FailurePolicy.strict.respond).countP (fun result => !result.isOk) =
      (errors outcomes).length := by
  induction outcomes with
  | nil => rfl
  | cons outcome rest ih =>
      cases outcome with
      | ok selection => exact ih
      | error e =>
          rw [List.map_cons, List.countP_cons_of_pos rfl, ih]
          rfl

end Statistics

namespace Router

/-- On every registry and request a resilient router answers the route that the strict one answers,
or the fallback if the strict one fails; and over any calls of two new routers, each meeting the
same registry and the same hook in both, all counts are equal but that of the fallbacks, which is
zero for the strict router and the number of its errors for the resilient one. -/
theorem strict_and_resilient_agree (policy : Policy) (fallback : Fallback) :
    (∀ (s s' : Statistics) (registry : Registry) (r : Request),
      FailurePolicy.Agree fallback
        (route ⟨policy, .strict, s⟩ registry.snapshot r).1
        (route ⟨policy, .resilient fallback, s'⟩ registry.snapshot r).1) ∧
    ∀ calls : List Asked,
      let strict := (Router.new policy .strict).answers calls
      let resilient := (Router.new policy (.resilient fallback)).answers calls
      List.Forall₂ (FailurePolicy.Agree fallback) strict.1 resilient.1 ∧
      strict.2.statistics = { resilient.2.statistics with fallbacks := 0 } ∧
      resilient.2.statistics.fallbacks =
        .ofNat (strict.1.countP fun result => !result.isOk) := by
  constructor
  · intro s s' registry r
    rw [route_eq, route_eq]
    exact FailurePolicy.agree_respond fallback policy r registry.snapshot
  · intro calls strict resilient
    let outcomes := calls.map (outcome policy)
    have hstrict : strict = (outcomes.map FailurePolicy.strict.respond,
        ⟨policy, .strict, outcomes.foldl (Statistics.count .strict) .zero⟩) :=
      answers_eq (new policy .strict) calls
    have hresilient : resilient = (outcomes.map (FailurePolicy.resilient fallback).respond,
        ⟨policy, .resilient fallback,
          outcomes.foldl (Statistics.count (.resilient fallback)) .zero⟩) :=
      answers_eq (new policy (.resilient fallback)) calls
    rw [hstrict, hresilient]
    refine ⟨?results, Statistics.foldl_count_strict fallback .zero outcomes, ?fallbacks⟩
    case results =>
      rw [List.forall₂_map_left_iff, List.forall₂_map_right_iff, List.forall₂_map_left_iff,
        List.forall₂_map_right_iff, List.forall₂_same]
      intro asked _
      exact FailurePolicy.agree_respond fallback (policy.hearing asked.hook) asked.call.request
        asked.registry.snapshot
    case fallbacks =>
      rw [Statistics.countP_respond_strict]
      exact (Statistics.counts_foldl (.resilient fallback) outcomes).fallbacks

end Router

end InferenceFleet
