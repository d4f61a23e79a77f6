import InferenceFleet.Proofs.Binary64.Pattern

/-!
# Comparing by patterns

Arithmetic compares numbers by sign, exponent and mantissa. For the numbers themselves that is the
order of their keys (`ofFloat_lt_iff`), in which both zeros are one; a NaN compares with nothing.
-/

namespace InferenceFleet

namespace Binary64

open Float.Model (UnpackedFloat)
open Float.Model.UnpackedFloat (Sign)

/-- All patterns but the NaNs. -/
def isNumber (x : Binary64) : Bool := x.magnitude ≤ infinityPattern

theorem isNumber_of_isFinite {x : Binary64} (hfinite : x.isFinite = true) : x.isNumber = true := by
  have hmagnitude : x.magnitude < infinityPattern := of_decide_eq_true hfinite
  exact decide_eq_true (Nat.le_of_lt hmagnitude)

theorem valueKey_eq (x : Binary64) : x.valueKey = x.sign.apply x.magnitude := by
  unfold valueKey sign
  split <;> rfl

/-- A number that is not below zero and less than infinity is finite. -/
theorem isFinite_of_valueKey {x : Binary64} (hnonneg : 0 ≤ x.valueKey)
    (hless : x.valueKey < infinityPattern) : x.isFinite = true := by
  rw [valueKey_eq] at hnonneg hless
  refine decide_eq_true ?_
  cases hsign : x.sign <;>
    simp only [hsign, Sign.apply] at hnonneg hless <;> omega

/-- What a pattern may stand for. -/
theorem unpacked_cases (x : Binary64) :
    (infinityPattern < x.magnitude ∧ x.unpacked = .notANumber) ∨
      (x.magnitude = infinityPattern ∧ x.unpacked = .infinity x.sign) ∨
      (x.magnitude = 0 ∧ x.unpacked = .zero x.sign) ∨
      (0 < x.magnitude ∧ x.magnitude < infinityPattern ∧ ∃ hm,
        x.unpacked = .finite x.sign x.significand x.exponent hm) := by
  rcases Nat.lt_trichotomy x.magnitude infinityPattern with hless | hequal | hgreater
  · rcases Nat.eq_zero_or_pos x.magnitude with hzero | hpos
    · exact .inr (.inr (.inl ⟨hzero, unpacked_of_zero hzero⟩))
    · exact .inr (.inr (.inr ⟨hpos, hless, _, unpacked_of_finite hpos (decide_eq_true hless)⟩))
  · exact .inr (.inl ⟨hequal, unpacked_of_infinite hequal⟩)
  · exact .inl ⟨hgreater, unpacked_of_nan hgreater⟩

/-- Exponents are compared first, and mantissas only where these are equal: in a pattern the
exponent stands before the fraction. -/
theorem compare_magnitude (x y : Binary64) :
    (compare x.exponent y.exponent).then (compare x.significand y.significand) =
      compare x.magnitude y.magnitude := by
  have hx := x.magnitude_eq_significand
  have hy := y.magnitude_eq_significand
  have hxlt := x.significand_lt
  have hylt := y.significand_lt
  have hxcases := x.significand_cases
  have hycases := y.significand_cases
  have hxleast := x.le_exponent
  have hyleast := y.le_exponent
  simp only [exponentUnit] at hx hy hxlt hylt hxcases hycases
  rcases Int.lt_trichotomy x.exponent y.exponent with hless | hequal | hgreater
  · have hmagnitude : x.magnitude < y.magnitude := by omega
    rw [Int.compare_eq_lt.2 hless, Nat.compare_eq_lt.2 hmagnitude]
    rfl
  · rw [Int.compare_eq_eq.2 hequal]
    rcases Nat.lt_trichotomy x.significand y.significand with hless | hsame | hgreater
    · have hmagnitude : x.magnitude < y.magnitude := by omega
      rw [Nat.compare_eq_lt.2 hless, Nat.compare_eq_lt.2 hmagnitude]
      rfl
    · have hmagnitude : x.magnitude = y.magnitude := by omega
      rw [Nat.compare_eq_eq.2 hsame, Nat.compare_eq_eq.2 hmagnitude]
      rfl
    · have hmagnitude : y.magnitude < x.magnitude := by omega
      rw [Nat.compare_eq_gt.2 hgreater, Nat.compare_eq_gt.2 hmagnitude]
      rfl
  · have hmagnitude : y.magnitude < x.magnitude := by omega
    rw [Int.compare_eq_gt.2 hgreater, Nat.compare_eq_gt.2 hmagnitude]
    rfl

theorem compare_sign (s t : Sign) :
    compare s t = compare (s.apply infinityPattern) (t.apply infinityPattern) := by
  cases s <;> cases t <;> decide

/-- Comparing two numbers is comparing their keys. -/
theorem lt_unpacked_iff {x y : Binary64} (hx : x.isNumber = true) (hy : y.isNumber = true) :
    x.unpacked.lt y.unpacked = true ↔ x.valueKey < y.valueKey := by
  have hxmagnitude : x.magnitude ≤ infinityPattern := of_decide_eq_true hx
  have hymagnitude : y.magnitude ≤ infinityPattern := of_decide_eq_true hy
  have hcompare := compare_magnitude x y
  have hinfinity : 0 < infinityPattern := by decide
  rw [valueKey_eq, valueKey_eq]
  -- the table of comparisons, by what the numbers are and by their signs
  rcases unpacked_cases x with ⟨hnan, -⟩ | ⟨hxm, hxu⟩ | ⟨hxm, hxu⟩ | ⟨hxpos, hxm, hxs, hxu⟩ <;>
    rcases unpacked_cases y with ⟨hnan, -⟩ | ⟨hym, hyu⟩ | ⟨hym, hyu⟩ | ⟨hypos, hym, hys, hyu⟩
  all_goals first | omega | rw [hxu, hyu, UnpackedFloat.lt, beq_iff_eq]
  all_goals cases x.sign <;> cases y.sign
  all_goals
    simp only [UnpackedFloat.compare, compare_sign, hcompare, Option.some.injEq, reduceCtorEq,
      Ordering.swap_eq_lt, Int.compare_eq_lt, Nat.compare_eq_lt, Nat.compare_eq_gt, Sign.apply,
      true_iff, false_iff]
    omega

/-- A float is less than another exactly if both are numbers and its key is less. -/
theorem ofFloat_lt_iff (x y : Float) :
    x < y ↔ (ofFloat x).isNumber = true ∧ (ofFloat y).isNumber = true ∧
      (ofFloat x).valueKey < (ofFloat y).valueKey := by
  have hlt : x < y ↔ (ofFloat x).unpacked.lt (ofFloat y).unpacked = true := decide_eq_true_iff
  rw [hlt]
  cases hx : (ofFloat x).isNumber with
  | false =>
      have hnan : (ofFloat x).unpacked = .notANumber :=
        unpacked_of_nan (Nat.not_le.1 (of_decide_eq_false hx))
      rw [hnan]
      simp [UnpackedFloat.lt, UnpackedFloat.compare]
  | true =>
      cases hy : (ofFloat y).isNumber with
      | false =>
          have hnan : (ofFloat y).unpacked = .notANumber :=
            unpacked_of_nan (Nat.not_le.1 (of_decide_eq_false hy))
          rw [hnan]
          cases (ofFloat x).unpacked <;> simp [UnpackedFloat.lt, UnpackedFloat.compare]
      | true => simpa using lt_unpacked_iff hx hy

end Binary64

end InferenceFleet
