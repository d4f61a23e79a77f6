import InferenceFleet.Peer.Basic
import InferenceFleet.Routing.Error
import InferenceFleet.Routing.Policy

/-!
# Selection

From a policy, a request and the peers of the fleet to an endpoint. The preferred models are tried
in order; each is a *tier*. The candidates of a tier are the available peers that serve its model
and are not left out, and the best of them is this node, else the one with the least load in the
total order of binary64 numbers, else the one with the least identifier. The first tier with a
candidate decides.
-/

namespace InferenceFleet

namespace Peer

/-- Whether a peer comes before another among the candidates of a tier. -/
def outranks (p q : Peer) : Bool :=
  let x := Binary64.orderKey p.capability.load
  let y := Binary64.orderKey q.capability.load
  if p.isLocal != q.isLocal then p.isLocal
  else if x ≠ y then decide (x < y)
  else decide (p.id < q.id)

/-- The best of some peers; the earlier one if neither outranks the other. -/
def best? : List Peer → Option Peer
  | [] => none
  | p :: rest =>
      match best? rest with
      | none => some p
      | some q => if q.outranks p then some q else some p

/-- The best of some peers is one of them. -/
theorem best?_mem {peers : List Peer} {p : Peer} (h : best? peers = some p) : p ∈ peers := by
  induction peers generalizing p with
  | nil => simp [best?] at h
  | cons q rest ih =>
      simp only [best?] at h
      split at h
      · injection h with h; exact h ▸ List.mem_cons_self
      · next r hr =>
          split at h
          · injection h with h; exact List.mem_cons_of_mem _ (h ▸ ih hr)
          · injection h with h; exact h ▸ List.mem_cons_self

/-- There is a best peer unless there is none at all. -/
theorem best?_eq_none_iff {peers : List Peer} : best? peers = none ↔ peers = [] := by
  cases peers with
  | nil => simp [best?]
  | cons p rest =>
      simp only [best?, reduceCtorEq, iff_false]
      split
      · simp
      · split <;> simp

end Peer

/-- A selected endpoint, and how it was come by. -/
structure Selection where
  route : Route
  /-- The place of the model among the preferences. -/
  tier : Nat
  category : String
  deriving DecidableEq

namespace Policy

/-- The category of a request: the one it names, else that of its role, else that of its
prompt. -/
def categoryOf (policy : Policy) (r : Request) : String :=
  match r.category, r.role with
  | some category, _ => category
  | none, some role => policy.categoryOfRole role
  | none, none => policy.classify r.prompt

end Policy

namespace Request

/-- Whether a peer is a candidate for a model. -/
def admits (r : Request) (model : String) (p : Peer) : Bool :=
  !r.excluded.contains p.id && p.serves model

/-- The first tier with a candidate, counted from `tier`, its model and its best candidate. -/
def firstTier? (r : Request) (peers : List Peer) : Nat → List String → Option (Nat × String × Peer)
  | _, [] => none
  | tier, model :: rest =>
      match Peer.best? (peers.filter (r.admits model)) with
      | some p => some (tier, model, p)
      | none => r.firstTier? peers (tier + 1) rest

end Request

namespace Peer

/-- The route to a peer with a model. -/
def route (p : Peer) (model : String) : Route :=
  ⟨p.endpointUrl, p.id, model, false⟩

end Peer

/-- The endpoint for a request. -/
def select (policy : Policy) (r : Request) (peers : List Peer) : Except RoutingError Selection :=
  let category := policy.categoryOf r
  match policy.resolve category r.preferred with
  | [] => .error (.system ("no model preferences configured for category '" ++ category ++ "'"))
  | preferences =>
      match r.firstTier? peers 0 preferences with
      | some (tier, model, p) => .ok ⟨p.route model, tier, category⟩
      | none => .error (.noAvailableEndpoint category preferences)

end InferenceFleet
