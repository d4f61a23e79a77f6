import InferenceFleet.Decimal.Reading
import InferenceFleet.Proofs.Binary64.Order

/-!
# Signs and finiteness of results

Arithmetic without minus signs has no results with one, and what is not below zero stays so when it
is added up, or scaled by what has no minus sign. None of this is spoilt by rounding, by a NaN or
by infinity. A sum is finite only if all that was added is: neither a NaN nor infinity ever goes
away again.
-/

namespace InferenceFleet

namespace Binary64

open Float.Model (UnpackedFloat)
open Float.Model.UnpackedFloat (Sign Accuracy)

/-- A number without minus sign, or a NaN. -/
def HasNoMinus : UnpackedFloat → Prop
  | .infinity s => s = .positive
  | .zero s => s = .positive
  | .finite s .. => s = .positive
  | .notANumber => True

/-- A number that is zero, of either sign, or greater; or a NaN. -/
def NotBelowZero (u : UnpackedFloat) : Prop := HasNoMinus u ∨ ∃ s, u = .zero s

theorem NotBelowZero.eq_positive_of_infinity {s : Sign} (h : NotBelowZero (.infinity s)) :
    s = .positive := by
  rcases h with hplus | ⟨_, heq⟩
  · exact hplus
  · cases heq

theorem NotBelowZero.eq_positive_of_finite {s : Sign} {m : Nat} {e : Int} {hm : 0 < m}
    (h : NotBelowZero (.finite s m e hm)) : s = .positive := by
  rcases h with hplus | ⟨_, heq⟩
  · exact hplus
  · cases heq

theorem hasNoMinus_unpacked {x : Binary64} (hsign : x.sign = .positive) :
    HasNoMinus x.unpacked := by
  rcases unpacked_cases x with ⟨-, hu⟩ | ⟨-, hu⟩ | ⟨-, hu⟩ | ⟨-, -, _, hu⟩ <;> rw [hu]
  · trivial
  all_goals exact hsign

theorem hasNoMinus_packed {u : UnpackedFloat} (h : HasNoMinus u) :
    HasNoMinus (packed u).unpacked := by
  refine hasNoMinus_unpacked ?_
  cases u with
  | infinity s => rw [packed_infinity, sign_ofFields]; exact h
  | zero s => rw [packed_zero, sign_ofFields]; exact h
  | notANumber => rw [packed_notANumber, sign_ofFields]
  | finite s m e hm => rw [sign_packed_finite]; exact h

theorem notBelowZero_packed {u : UnpackedFloat} (h : NotBelowZero u) :
    NotBelowZero (packed u).unpacked := by
  rcases h with hplus | ⟨s, rfl⟩
  · exact .inl (hasNoMinus_packed hplus)
  · exact .inr ⟨_, unpacked_of_zero (magnitude_packed_zero s)⟩

/-- For numbers it is the key that tells whether they are below zero. -/
theorem notBelowZero_unpacked_iff {x : Binary64} (hx : x.isNumber = true) :
    NotBelowZero x.unpacked ↔ 0 ≤ x.valueKey := by
  have hmagnitude : x.magnitude ≤ infinityPattern := of_decide_eq_true hx
  have hinfinity : 0 < infinityPattern := by decide
  rw [valueKey_eq]
  rcases unpacked_cases x with ⟨hnan, -⟩ | ⟨hm, hu⟩ | ⟨hm, hu⟩ | ⟨hpos, hm, _, hu⟩
  · omega
  all_goals
    rw [hu]
    cases x.sign
    all_goals simp [NotBelowZero, HasNoMinus, Sign.apply]
    all_goals omega

theorem hasNoMinus_roundWithAccuracy (m : Nat) (e : Int) (a : Accuracy) :
    HasNoMinus (UnpackedFloat.roundWithAccuracy .binary64 .positive m e a) := by
  unfold UnpackedFloat.roundWithAccuracy
  dsimp only
  split <;> rfl

theorem hasNoMinus_normalize {m : Int} (hm : 0 ≤ m) (e : Int) :
    HasNoMinus (UnpackedFloat.normalize .binary64 m e .positive) := by
  unfold UnpackedFloat.normalize
  rcases Int.lt_or_eq_of_le hm with hpos | hzero
  · rw [Int.compare_eq_gt.2 hpos]
    exact hasNoMinus_roundWithAccuracy _ _ _
  · rw [Int.compare_eq_eq.2 hzero.symm]
    rfl

section arithmetic

variable {u v : UnpackedFloat}

theorem hasNoMinus_mul (hu : HasNoMinus u) (hv : HasNoMinus v) :
    HasNoMinus (UnpackedFloat.mul .binary64 u v) := by
  cases u <;> cases v <;> simp only [HasNoMinus] at hu hv <;> subst_vars
  all_goals first | exact hasNoMinus_roundWithAccuracy _ _ _ | trivial

theorem hasNoMinus_div (hu : HasNoMinus u) (hv : HasNoMinus v) :
    HasNoMinus (UnpackedFloat.div .binary64 u v) := by
  cases u <;> cases v <;> simp only [HasNoMinus] at hu hv <;> subst_vars
  all_goals first | exact hasNoMinus_roundWithAccuracy _ _ _ | trivial

theorem notBelowZero_mul (hu : NotBelowZero u) (hv : HasNoMinus v) :
    NotBelowZero (UnpackedFloat.mul .binary64 u v) := by
  rcases hu with hplus | ⟨s, rfl⟩
  · exact .inl (hasNoMinus_mul hplus hv)
  · cases v with
    | notANumber => exact .inl trivial
    | infinity t => exact .inl trivial
    | zero t => exact .inr ⟨_, rfl⟩
    | finite t m e hm => exact .inr ⟨_, rfl⟩

theorem notBelowZero_div (hu : NotBelowZero u) (hv : HasNoMinus v) :
    NotBelowZero (UnpackedFloat.div .binary64 u v) := by
  rcases hu with hplus | ⟨s, rfl⟩
  · exact .inl (hasNoMinus_div hplus hv)
  · cases v with
    | notANumber => exact .inl trivial
    | infinity t => exact .inr ⟨_, rfl⟩
    | zero t => exact .inl trivial
    | finite t m e hm => exact .inr ⟨_, rfl⟩

theorem notBelowZero_add (hu : NotBelowZero u) (hv : NotBelowZero v) :
    NotBelowZero (UnpackedFloat.add .binary64 u v) := by
  cases u with
  | notANumber => exact .inl trivial
  | infinity s =>
      cases v with
      | notANumber => exact .inl trivial
      | infinity t =>
          obtain rfl := hu.eq_positive_of_infinity
          obtain rfl := hv.eq_positive_of_infinity
          exact hu
      | zero t => exact hu
      | finite t n f hn => exact hu
  | zero s =>
      cases v with
      | notANumber => exact .inl trivial
      | infinity t => exact hv
      | zero t => cases s <;> cases t <;> exact .inr ⟨_, rfl⟩
      | finite t n f hn => exact hv
  | finite s m e hm =>
      cases v with
      | notANumber => exact .inl trivial
      | infinity t => exact hv
      | zero t => exact hu
      | finite t n f hn =>
          obtain rfl := hu.eq_positive_of_finite
          obtain rfl := hv.eq_positive_of_finite
          exact .inl (hasNoMinus_normalize (Int.natCast_nonneg _) _)

end arithmetic

theorem hasNoMinus_constant {x : Binary64} (h : x.isNegative = false) :
    HasNoMinus x.unpacked :=
  hasNoMinus_unpacked (by rw [sign, h]; rfl)

theorem hasNoMinus_scaled (m : Nat) (e : Int) :
    HasNoMinus (UnpackedFloat.ofScientific .binary64 m e) := by
  have hplus : ∀ (m : Nat) (e : Int) (hm : 0 < m), HasNoMinus (.finite .positive m e hm) :=
    fun _ _ _ => rfl
  unfold UnpackedFloat.ofScientific
  split
  · rfl
  · split
    · rfl
    · split
      · rfl
      · split
        · exact hasNoMinus_mul (hplus _ _ _) (hplus _ _ _)
        · exact hasNoMinus_div (hplus _ _ _) (hplus _ _ _)

theorem isNegative_powerOfTen : ∀ k : Fin Float.exactlyRepresentablePowersOfTen.size,
    (ofFloat Float.exactlyRepresentablePowersOfTen[k]).isNegative = false := by
  decide +kernel

theorem hasNoMinus_powerOfTen (k : Nat) (hk : k < Float.exactlyRepresentablePowersOfTen.size) :
    HasNoMinus (ofFloat Float.exactlyRepresentablePowersOfTen[k]).unpacked :=
  hasNoMinus_constant (isNegative_powerOfTen ⟨k, hk⟩)

theorem hasNoMinus_ofScientific (m : Nat) (s : Bool) (e : Nat) :
    HasNoMinus (ofFloat (Float.ofScientific m s e)).unpacked := by
  unfold Float.ofScientific
  split
  · have hdigits : HasNoMinus (ofFloat m.toUInt64.toFloat).unpacked :=
      hasNoMinus_packed (hasNoMinus_normalize (Int.natCast_nonneg _) _)
    dsimp only
    split
    · rw [ofFloat_div]
      exact hasNoMinus_packed (hasNoMinus_div hdigits (hasNoMinus_powerOfTen e _))
    · rw [ofFloat_mul]
      exact hasNoMinus_packed (hasNoMinus_mul hdigits (hasNoMinus_powerOfTen e _))
  · exact hasNoMinus_packed (hasNoMinus_scaled _ _)

/-- A decimal without sign has no minus sign. -/
theorem hasNoMinus_nearest (coefficient : Nat) (exponent : Int) :
    HasNoMinus (ofFloat (Decimal.nearest coefficient exponent)).unpacked := by
  have hzero : HasNoMinus (ofFloat 0.0).unpacked := hasNoMinus_constant (by decide +kernel)
  unfold Decimal.nearest
  dsimp only
  split
  · exact hzero
  · split
    · exact hasNoMinus_constant (by decide +kernel)
    · split
      · exact hzero
      · split <;> exact hasNoMinus_ofScientific _ _ _

theorem isFinite_unpacked (x : Binary64) : x.unpacked.isFinite = x.isFinite := by
  rcases unpacked_cases x with ⟨hm, hu⟩ | ⟨hm, hu⟩ | ⟨hm, hu⟩ | ⟨-, hm, _, hu⟩ <;> rw [hu]
  · exact (decide_eq_false (Nat.lt_asymm hm)).symm
  · exact (decide_eq_false (Nat.not_lt.2 (Nat.le_of_eq hm.symm))).symm
  · exact (decide_eq_true (hm ▸ by decide)).symm
  · exact (decide_eq_true hm).symm

theorem isFinite_packed_of_not {u : UnpackedFloat} (hu : u.isFinite = false) :
    (packed u).isFinite = false := by
  cases u with
  | notANumber => rfl
  | infinity s => exact isFinite_packed_infinity s
  | zero s => cases hu
  | finite s m e hm => cases hu

section

variable {u v : UnpackedFloat}

theorem isFinite_add_left (hu : u.isFinite = false) :
    (UnpackedFloat.add .binary64 u v).isFinite = false := by
  cases u with
  | notANumber => rfl
  | infinity s =>
      cases v with
      | infinity t => cases s <;> cases t <;> rfl
      | notANumber => rfl
      | zero t => rfl
      | finite t n f hn => rfl
  | zero s => cases hu
  | finite s m e hm => cases hu

theorem isFinite_add_right (hv : v.isFinite = false) :
    (UnpackedFloat.add .binary64 u v).isFinite = false := by
  cases v with
  | notANumber => cases u <;> rfl
  | infinity t =>
      cases u with
      | infinity s => cases s <;> cases t <;> rfl
      | notANumber => rfl
      | zero s => rfl
      | finite s m e hm => rfl
  | zero t => cases hv
  | finite t n f hn => cases hv

end

/-- Two floats whose sum is finite are finite. -/
theorem isFinite_of_add {x y : Float} (hsum : (ofFloat (x + y)).isFinite = true) :
    (ofFloat x).isFinite = true ∧ (ofFloat y).isFinite = true := by
  rw [ofFloat_add] at hsum
  rw [← isFinite_unpacked, ← isFinite_unpacked]
  constructor
  · refine Bool.of_not_eq_false fun hx => ?_
    rw [isFinite_packed_of_not (isFinite_add_left hx)] at hsum
    cases hsum
  · refine Bool.of_not_eq_false fun hy => ?_
    rw [isFinite_packed_of_not (isFinite_add_right hy)] at hsum
    cases hsum

/-- A running sum is finite only if the start and all that is added are. -/
theorem isFinite_of_foldl_add {xs : List Float} {start : Float}
    (hsum : (ofFloat (xs.foldl (· + ·) start)).isFinite = true) :
    (ofFloat start).isFinite = true ∧ ∀ x ∈ xs, (ofFloat x).isFinite = true := by
  induction xs generalizing start with
  | nil => exact ⟨hsum, fun _ hx => absurd hx List.not_mem_nil⟩
  | cons x xs ih =>
      obtain ⟨hfirst, hrest⟩ := ih hsum
      obtain ⟨hstart, hx⟩ := isFinite_of_add hfirst
      exact ⟨hstart, List.forall_mem_cons.2 ⟨hx, hrest⟩⟩

/-- A running sum of what is not below zero is not below zero. -/
theorem notBelowZero_foldl_add {xs : List Float} {start : Float}
    (hstart : NotBelowZero (ofFloat start).unpacked)
    (hxs : ∀ x ∈ xs, NotBelowZero (ofFloat x).unpacked) :
    NotBelowZero (ofFloat (xs.foldl (· + ·) start)).unpacked := by
  induction xs generalizing start with
  | nil => exact hstart
  | cons x xs ih =>
      obtain ⟨hx, hrest⟩ := List.forall_mem_cons.1 hxs
      refine ih ?_ hrest
      rw [ofFloat_add]
      exact notBelowZero_packed (notBelowZero_add hstart hx)

end Binary64

end InferenceFleet
