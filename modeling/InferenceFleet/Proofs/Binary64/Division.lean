import InferenceFleet.Proofs.Binary64.Order

/-!
# Division by a power of two

A quotient is rounded in steps: the division leaves a whole part and says where the rest lies
between nothing, a half and one; shifting brings the whole part to its place and keeps account of
the rest. The account is always that of a fraction (`shiftRight_ofFraction`), so what is rounded in
the end vanishes exactly if the fraction is at most a half
(`roundedMantissa_ofFraction_eq_zero_iff`).

For a number divided by `2 ^ k` this says all there is to know about the range: the quotient of a
finite number is finite, and it is zero exactly if the magnitude was at most `2 ^ (k - 1)` units of
the last place (`scaledDown_finite`).
-/

namespace InferenceFleet

namespace Binary64

open Float.Model (UnpackedFloat totalExponent)
open Float.Model.UnpackedFloat (Sign Accuracy ExtendedMantissa accuracyOfFraction)

/-- The whole part of a fraction, with the account of its rest. -/
def ofFraction (numerator denominator : Nat) : ExtendedMantissa :=
  .ofMantissaAndAccuracy (numerator / denominator)
    (accuracyOfFraction (numerator % denominator) denominator)

/-- The round bit stands for a half, and the sticky bit for what is neither nothing nor a half. -/
theorem ofFraction_eq (n d : Nat) :
    ofFraction n d =
      ⟨n / d, decide (0 < n % d ∧ d ≤ 2 * (n % d)), decide (0 < n % d ∧ 2 * (n % d) ≠ d)⟩ := by
  unfold ofFraction accuracyOfFraction
  split
  · next hnone => simp [hnone, ExtendedMantissa.ofMantissaAndAccuracy]
  · next hsome =>
      have hpos : 0 < n % d := Nat.pos_of_ne_zero hsome
      rcases Nat.lt_trichotomy (2 * (n % d)) d with hless | hequal | hgreater
      · rw [Nat.compare_eq_lt.2 hless]
        simp [ExtendedMantissa.ofMantissaAndAccuracy, hpos, hless, Nat.ne_of_lt hless]
      · rw [Nat.compare_eq_eq.2 hequal]
        simp [ExtendedMantissa.ofMantissaAndAccuracy, hpos, hequal]
      · rw [Nat.compare_eq_gt.2 hgreater]
        simp [ExtendedMantissa.ofMantissaAndAccuracy, hpos, Nat.le_of_lt hgreater,
          Nat.ne_of_gt hgreater]

@[simp]
theorem mantissa_ofFraction (n d : Nat) : (ofFraction n d).mantissa = n / d := by
  rw [ofFraction_eq]

/-- A shift halves the fraction. -/
theorem shiftRightOne_ofFraction (n : Nat) {d : Nat} (hd : 0 < d) :
    (ofFraction n d).shiftRightOne = ofFraction n (2 * d) := by
  have hrest : n % (2 * d) = n % d + d * (n / d % 2) := by rw [Nat.mul_comm 2 d, Nat.mod_mul]
  have hless : n % d < d := Nat.mod_lt n hd
  have hwhole : n / d / 2 = n / (2 * d) := by rw [Nat.div_div_eq_div_mul, Nat.mul_comm]
  rw [ofFraction_eq, ofFraction_eq, ExtendedMantissa.shiftRightOne]
  dsimp only
  rw [hwhole, hrest, ExtendedMantissa.mk.injEq]
  refine ⟨rfl, ?_, ?_⟩
  all_goals
    rcases Nat.mod_two_eq_zero_or_one (n / d) with hbit | hbit <;> rw [hbit, Bool.eq_iff_iff] <;>
      simp <;> omega

theorem shiftRight_ofFraction (n : Nat) {d : Nat} (hd : 0 < d) (places : Nat) :
    ofFraction n d >>> places = ofFraction n (2 ^ places * d) := by
  induction places with
  | zero =>
      rw [Nat.pow_zero, Nat.one_mul]
      rfl
  | succ places ih =>
      show (ofFraction n d >>> places).shiftRightOne = _
      rw [ih, shiftRightOne_ofFraction n (Nat.mul_pos (Nat.two_pow_pos places) hd),
        ← Nat.mul_assoc, Nat.pow_succ, Nat.mul_comm (2 ^ places) 2]

/-- Above a half it is the next number, and at a half the even one of the two. -/
theorem roundedMantissa_mk (m : Nat) (round sticky : Bool) :
    ExtendedMantissa.roundedMantissa ⟨m, round, sticky⟩ =
      if round then (if sticky then m + 1 else m + m % 2) else m := by
  cases round <;> cases sticky <;> rfl

/-- Rounding takes the whole part or the next number. -/
theorem roundedMantissa_bounds (em : ExtendedMantissa) :
    em.mantissa ≤ em.roundedMantissa ∧ em.roundedMantissa ≤ em.mantissa + 1 := by
  obtain ⟨m, round, sticky⟩ := em
  rw [roundedMantissa_mk]
  dsimp only
  split
  · split <;> omega
  · omega

/-- A fraction up to a half is rounded to nothing, as zero is even. -/
theorem roundedMantissa_ofFraction_eq_zero_iff (n : Nat) {d : Nat} (hd : 0 < d) :
    (ofFraction n d).roundedMantissa = 0 ↔ 2 * n ≤ d := by
  rcases Nat.lt_or_ge n d with hless | hmore
  · rw [ofFraction_eq, Nat.div_eq_of_lt hless, Nat.mod_eq_of_lt hless, roundedMantissa_mk]
    simp only [decide_eq_true_eq]
    split
    · split <;> omega
    · omega
  · have hwhole : 1 ≤ (ofFraction n d).roundedMantissa := by
      refine Nat.le_trans ?_ (roundedMantissa_bounds _).1
      rw [mantissa_ofFraction]
      exact Nat.div_pos hmore hd
    omega

theorem targetExponent_eq (n : Int) :
    Float.Model.Format.binary64.targetExponent n = max (n - 53) (-1074) := rfl

/-- By how many places a mantissa is shifted to fit the format. -/
def places (m : Nat) (e : Int) : Nat := (max (m.log2 + e - 52) (-1074) - e).toNat

theorem shiftToTargetExponent_fraction (n : Nat) {d : Nat} (hd : 0 < d) (e : Int) :
    UnpackedFloat.shiftToTargetExponent .binary64 (n / d) e (accuracyOfFraction (n % d) d) =
      (ofFraction n (2 ^ places (n / d) e * d), e + places (n / d) e) := by
  have hplaces : (Float.Model.Format.binary64.targetExponent (totalExponent (n / d) e) - e).toNat =
      places (n / d) e := by
    rw [targetExponent_eq, totalExponent, places]
    congr 3
    omega
  rw [← shiftRight_ofFraction n hd, ← hplaces]
  rfl

/-- What remains after the shift fits the format. -/
theorem div_two_pow_places_lt (m : Nat) (e : Int) : m / 2 ^ places m e < 2 * exponentUnit := by
  have hlog : m < 2 ^ (m.log2 + 1) := Nat.lt_log2_self
  have hplaces : m.log2 ≤ 52 + places m e := by
    unfold places
    omega
  have hpow : 2 ^ (m.log2 + 1) ≤ 2 ^ places m e * 2 ^ 53 := by
    rw [← Nat.pow_add]
    exact Nat.pow_le_pow_right (by decide) (by omega)
  exact Nat.div_lt_of_lt_mul (Nat.lt_of_lt_of_le hlog hpow)

/-- A mantissa that fits is not shifted any further. -/
theorem places_eq_zero {m : Nat} {e : Int} (hm : m < 2 * exponentUnit) (he : -1074 ≤ e) :
    places m e = 0 := by
  have hlog : m.log2 < 53 := by
    rcases Nat.eq_zero_or_pos m with rfl | hpos
    · decide
    · exact (Nat.log2_lt (Nat.ne_of_gt hpos)).2 hm
  unfold places
  omega

/-- A mantissa that rounding made too long by one place loses it again. -/
theorem places_of_carry {e : Int} (he : -1074 ≤ e) : places (2 * exponentUnit) e = 1 := by
  have hunit : 2 * exponentUnit = 2 ^ 53 := rfl
  have hlog : (2 ^ 53).log2 = 53 := Nat.log2_two_pow
  rw [places, hunit, hlog]
  omega

/-- Rounding a fraction: it is shifted to its place, its whole part is rounded, and that is shifted
once more if it became too long. -/
theorem roundWithAccuracy_fraction (s : Sign) (n : Nat) {d : Nat} (hd : 0 < d) (e : Int)
    {shift rounded carry : Nat} (hshift : places (n / d) e = shift)
    (hrounded : (ofFraction n (2 ^ shift * d)).roundedMantissa = rounded)
    (hcarry : places rounded (e + shift) = carry) :
    UnpackedFloat.roundWithAccuracy .binary64 s (n / d) e (accuracyOfFraction (n % d) d) =
      if h : rounded / 2 ^ carry = 0 then .zero s
      else .finite s (rounded / 2 ^ carry) (e + shift + carry) (Nat.pos_of_ne_zero h) := by
  have hfirst := shiftToTargetExponent_fraction n hd e
  have hsecond := shiftToTargetExponent_fraction rounded (d := 1) (by decide) (e + shift)
  rw [hshift] at hfirst
  rw [Nat.div_one, Nat.mod_one, hcarry, Nat.mul_one] at hsecond
  have hexact : accuracyOfFraction 0 1 = .exact := rfl
  rw [hexact] at hsecond
  rw [UnpackedFloat.roundWithAccuracy, hfirst]
  simp only [hrounded, hsecond, mantissa_ofFraction]

/-- A fraction is rounded to zero, or to a mantissa that fits the format; the exponent is one more
than that of the shift if rounding carries. -/
theorem roundWithAccuracy_cases (s : Sign) (n : Nat) {d : Nat} (hd : 0 < d) (e : Int) {shift : Nat}
    (hshift : places (n / d) e = shift) :
    (2 * n ≤ 2 ^ shift * d ∧
      UnpackedFloat.roundWithAccuracy .binary64 s (n / d) e (accuracyOfFraction (n % d) d) =
        .zero s) ∨
    (2 ^ shift * d < 2 * n ∧ ∃ m e', ∃ hm : 0 < m,
      UnpackedFloat.roundWithAccuracy .binary64 s (n / d) e (accuracyOfFraction (n % d) d) =
        .finite s m e' hm ∧
      m < 2 * exponentUnit ∧ e + shift ≤ e' ∧ e' ≤ e + shift + 1) := by
  have hleast : -1074 ≤ e + shift := by
    rw [← hshift, places]
    omega
  have hpos : 0 < 2 ^ shift * d := Nat.mul_pos (Nat.two_pow_pos shift) hd
  have hzero := roundedMantissa_ofFraction_eq_zero_iff n hpos
  have hfits : n / (2 ^ shift * d) < 2 * exponentUnit := by
    rw [Nat.mul_comm, ← Nat.div_div_eq_div_mul, ← hshift]
    exact div_two_pow_places_lt _ _
  have hnext := (roundedMantissa_bounds (ofFraction n (2 ^ shift * d))).2
  rw [mantissa_ofFraction] at hnext
  generalize hrounded : (ofFraction n (2 ^ shift * d)).roundedMantissa = rounded at hzero hnext
  obtain ⟨carry, hcarry, hcarries⟩ : ∃ carry, places rounded (e + shift) = carry ∧
      (carry = 0 ∧ rounded < 2 * exponentUnit ∨ carry = 1 ∧ rounded = 2 * exponentUnit) := by
    rcases Nat.lt_or_ge rounded (2 * exponentUnit) with hless | hmore
    · exact ⟨0, places_eq_zero hless hleast, .inl ⟨rfl, hless⟩⟩
    · obtain rfl : rounded = 2 * exponentUnit := by omega
      exact ⟨1, places_of_carry hleast, .inr ⟨rfl, rfl⟩⟩
  have hmantissa : rounded / 2 ^ carry < 2 * exponentUnit ∧
      (rounded / 2 ^ carry = 0 ↔ rounded = 0) := by
    rcases hcarries with ⟨rfl, hless⟩ | ⟨rfl, rfl⟩
    · rw [Nat.pow_zero, Nat.div_one]
      exact ⟨hless, Iff.rfl⟩
    · decide
  rw [roundWithAccuracy_fraction s n hd e hshift hrounded hcarry]
  by_cases hnone : rounded / 2 ^ carry = 0
  · exact .inl ⟨hzero.1 (hmantissa.2.1 hnone), dif_pos hnone⟩
  · refine .inr ⟨Nat.not_le.1 fun hhalf => hnone (hmantissa.2.2 (hzero.2 hhalf)), _, _,
      Nat.pos_of_ne_zero hnone, dif_neg hnone, hmantissa.1, ?_, ?_⟩ <;> omega

/-! ## The quotient by a power of two -/

/-- `2 ^ k`, taken apart for arithmetic. -/
def powerOfTwo (k : Nat) : UnpackedFloat := .finite .positive exponentUnit (k - 52) (by decide)

/-- A number divided by `2 ^ k`. -/
def scaledDown (x : Binary64) (k : Nat) : Binary64 :=
  packed (UnpackedFloat.div .binary64 x.unpacked (powerOfTwo k))

/-- The pattern of `2 ^ k` has nothing but its exponent. -/
theorem unpacked_eq_powerOfTwo {x : Binary64} {k : Nat} (hk : k ≤ 52)
    (hpattern : x.pattern = (1023 + k) * exponentUnit) : x.unpacked = powerOfTwo k := by
  have hmagnitude : x.magnitude = (1023 + k) * exponentUnit := by
    rw [magnitude, hpattern]
    simp only [exponentUnit, signUnit]
    omega
  have hfields : x.exponentField = 1023 + k ∧ x.fractionField = 0 := by
    rw [exponentField, fractionField, hmagnitude]
    simp only [exponentUnit]
    omega
  have hpositive : x.isNegative = false := by
    refine decide_eq_false (Nat.not_le.2 ?_)
    rw [hpattern]
    simp only [exponentUnit, signUnit]
    omega
  have hpos : 0 < x.magnitude := by
    rw [hmagnitude]
    exact Nat.mul_pos (by omega) (by decide)
  have hfinite : x.isFinite = true := by
    rw [isFinite, hmagnitude, decide_eq_true_eq]
    exact Nat.mul_lt_mul_of_pos_right (by omega) (by decide)
  have hsign : x.sign = .positive := by rw [sign, hpositive]; rfl
  have hsignificand : x.significand = exponentUnit := by
    rw [significand, hfields.1, hfields.2, if_neg (by omega), Nat.zero_add]
  have hexponent : x.exponent = k - 52 := by
    rw [exponent, hfields.1]
    omega
  rw [unpacked_of_finite hpos hfinite, powerOfTwo, UnpackedFloat.finite.injEq]
  exact ⟨hsign, hsignificand, hexponent⟩

/-- The exponent at which a number with some mantissa and exponent is divided by `2 ^ k`. -/
def quotientExponent (m : Nat) (e : Int) (k : Nat) : Int :=
  min (e - (k - 52)) (max (m.log2 + e - k - 53) (-1074))

/-- By how many places the mantissa is extended for that. -/
def extension (m : Nat) (e : Int) (k : Nat) : Nat :=
  (e - (k - 52) - quotientExponent m e k).toNat

/-- The extension covers what separates the two exponents. -/
theorem extension_eq (m : Nat) (e : Int) (k : Nat) :
    (extension m e k : Int) = e - (k - 52) - quotientExponent m e k := by
  unfold extension quotientExponent
  omega

theorem divCore_powerOfTwo (m : Nat) (e : Int) (k : Nat) :
    UnpackedFloat.divCore .binary64 m e exponentUnit (k - 52) =
      (m * 2 ^ extension m e k / exponentUnit, quotientExponent m e k,
        accuracyOfFraction (m * 2 ^ extension m e k % exponentUnit) exponentUnit) := by
  have hlog : exponentUnit.log2 = 52 := show (2 ^ 52).log2 = 52 from Nat.log2_two_pow
  have htarget : min (e - (k - 52)) (Float.Model.Format.binary64.targetExponent
      (totalExponent m e - totalExponent exponentUnit (k - 52))) = quotientExponent m e k := by
    rw [targetExponent_eq, totalExponent, totalExponent, hlog, quotientExponent]
    congr 2
    omega
  rw [UnpackedFloat.divCore]
  simp only [htarget, Nat.shiftLeft_eq]
  rfl

/-- Dividing takes away at least the length of the divisor. -/
theorem log2_div_lt {m places : Nat} (hsome : 0 < m * 2 ^ places / exponentUnit) :
    (m * 2 ^ places / exponentUnit).log2 + 52 < m.log2 + 1 + places := by
  have hlow : 2 ^ (m * 2 ^ places / exponentUnit).log2 ≤ m * 2 ^ places / exponentUnit :=
    Nat.log2_self_le (Nat.ne_of_gt hsome)
  have hquotient : m * 2 ^ places / exponentUnit * 2 ^ 52 ≤ m * 2 ^ places :=
    Nat.div_mul_le_self _ _
  have hhigh : m * 2 ^ places < 2 ^ (m.log2 + 1) * 2 ^ places :=
    Nat.mul_lt_mul_of_pos_right Nat.lt_log2_self (Nat.two_pow_pos places)
  refine (Nat.pow_lt_pow_iff_right (a := 2) (by decide)).1 ?_
  rw [Nat.pow_add, Nat.pow_add]
  exact Nat.lt_of_le_of_lt (Nat.le_trans (Nat.mul_le_mul_right _ hlow) hquotient) hhigh

/-- The exponent of the quotient is less by `k`, but not below the least one. -/
theorem quotientExponent_add_places {m : Nat} {e : Int} {k : Nat}
    (hfits : m < 2 * exponentUnit) :
    -1074 ≤ quotientExponent m e k +
        places (m * 2 ^ extension m e k / exponentUnit) (quotientExponent m e k) ∧
      quotientExponent m e k +
        places (m * 2 ^ extension m e k / exponentUnit) (quotientExponent m e k) ≤
          max (e - k) (-1074) := by
  have hlog : m.log2 ≤ 52 := by
    rcases Nat.eq_zero_or_pos m with rfl | hpos
    · decide
    · exact Nat.le_of_lt_succ ((Nat.log2_lt (Nat.ne_of_gt hpos)).2 hfits)
  have hextension := extension_eq m e k
  have hlength : (m * 2 ^ extension m e k / exponentUnit).log2 + quotientExponent m e k ≤
      max (m.log2 + e - k) (quotientExponent m e k) := by
    rcases Nat.eq_zero_or_pos (m * 2 ^ extension m e k / exponentUnit) with hnone | hsome
    · have hzero : Nat.log2 0 = 0 := rfl
      rw [hnone, hzero]
      omega
    · have := log2_div_lt hsome
      omega
  have htarget : quotientExponent m e k ≤ max (m.log2 + e - k - 53) (-1074) := by
    unfold quotientExponent
    omega
  unfold places
  omega

/-- Measured in the place to which the quotient is shifted, a number is at most a half exactly if
it has no more than half of `2 ^ k` units of the last place. -/
theorem half_quotient_iff {x : Binary64} {k : Nat} (hk : 1 ≤ k) (hk' : k ≤ 52) :
    2 * (x.significand * 2 ^ extension x.significand x.exponent k) ≤
        2 ^ places (x.significand * 2 ^ extension x.significand x.exponent k / exponentUnit)
          (quotientExponent x.significand x.exponent k) * exponentUnit ↔
      x.magnitude ≤ 2 ^ (k - 1) := by
  have hmagnitude := x.magnitude_eq_significand
  have hleast := x.le_exponent
  have hplace := quotientExponent_add_places (e := x.exponent) (k := k) x.significand_lt
  have hextension := extension_eq x.significand x.exponent k
  generalize places _ _ = shift at hplace ⊢
  generalize extension x.significand x.exponent k = ext at hextension ⊢
  rcases Int.lt_or_eq_of_le hleast with habove | hlowest
  · -- both sides are false: a significand with its first bit does not get lost
    have hlong : exponentUnit ≤ x.significand :=
      x.significand_cases.resolve_left (Int.ne_of_gt habove)
    have hshift : 2 ^ shift ≤ 2 ^ ext := Nat.pow_le_pow_right (by decide) (by omega)
    have hless : 2 ^ shift * exponentUnit ≤ x.significand * 2 ^ ext := by
      rw [Nat.mul_comm]
      exact Nat.mul_le_mul hlong hshift
    have hsome : 0 < 2 ^ shift * exponentUnit := Nat.mul_pos (Nat.two_pow_pos _) (by decide)
    have hlarge : 2 ^ (k - 1) < exponentUnit :=
      Nat.pow_lt_pow_right (by decide) (show k - 1 < 52 by omega)
    have hmore : exponentUnit ≤ x.magnitude := by
      simp only [exponentUnit] at hmagnitude hlong ⊢
      omega
    omega
  · -- the place is the last one, and the magnitude is the significand
    have hlengths : shift + 52 = ext + 1 + (k - 1) := by omega
    have hsame : x.magnitude = x.significand := by
      rw [← hlowest] at hmagnitude
      omega
    have hleft : 2 * (x.significand * 2 ^ ext) = 2 ^ (ext + 1) * x.significand := by
      rw [Nat.pow_succ, Nat.mul_comm x.significand, Nat.mul_comm _ 2, Nat.mul_assoc]
    have hunit : exponentUnit = 2 ^ 52 := rfl
    rw [hsame, hunit, ← Nat.pow_add, hlengths, Nat.pow_add, hleft]
    exact Nat.mul_le_mul_left_iff (Nat.two_pow_pos _)

/-- The quotient of a finite number other than zero by `2 ^ k` is finite and has its sign, and it is
zero exactly if the magnitude of the number is at most half of `2 ^ k` units of the last place. -/
theorem scaledDown_finite {x : Binary64} (hpos : 0 < x.magnitude) (hfinite : x.isFinite = true)
    {k : Nat} (hk : 1 ≤ k) (hk' : k ≤ 52) :
    (x.scaledDown k).isFinite = true ∧ (x.scaledDown k).sign = x.sign ∧
      ((x.scaledDown k).magnitude = 0 ↔ x.magnitude ≤ 2 ^ (k - 1)) := by
  have hleast := x.le_exponent
  have hgreatest := exponent_le hfinite
  have hplace := quotientExponent_add_places (e := x.exponent) (k := k) x.significand_lt
  have hhalf := half_quotient_iff (x := x) hk hk'
  have hresult := roundWithAccuracy_cases x.sign
    (x.significand * 2 ^ extension x.significand x.exponent k) (d := exponentUnit) (by decide)
    (quotientExponent x.significand x.exponent k) rfl
  have hquotient : x.scaledDown k = packed (UnpackedFloat.roundWithAccuracy .binary64 x.sign
      (x.significand * 2 ^ extension x.significand x.exponent k / exponentUnit)
      (quotientExponent x.significand x.exponent k)
      (accuracyOfFraction (x.significand * 2 ^ extension x.significand x.exponent k % exponentUnit)
        exponentUnit)) := by
    have hsign : x.sign / Sign.positive = x.sign := by cases x.sign <;> rfl
    rw [scaledDown, unpacked_of_finite hpos hfinite, powerOfTwo, UnpackedFloat.div]
    simp only [divCore_powerOfTwo, hsign]
  rw [hquotient]
  rcases hresult with ⟨hsmall, hzero⟩ | ⟨hlarge, m, e', hm, hfinite', hm', hlow, hhigh⟩
  · rw [hzero]
    have hsign : (packed (.zero x.sign)).sign = x.sign := by rw [packed_zero, sign_ofFields]
    exact ⟨by cases x.sign <;> rfl, hsign,
      iff_of_true (magnitude_packed_zero _) (hhalf.1 hsmall)⟩
  · rw [hfinite']
    have hbounds := packed_finite_bounds (e := e') x.sign hm hm' (by omega) (by omega)
    refine ⟨hbounds.2, sign_packed_finite _ _ _ _, ?_⟩
    rw [← hhalf]
    omega

/-- What is divided by `2 ^ k` becomes a finite number that is not below zero exactly if it is one
itself, or so little below zero that rounding takes the rest: by no more than half of `2 ^ k` units
of the last place. -/
theorem scaledDown_notBelowZero_iff {x : Binary64} {k : Nat} (hk : 1 ≤ k) (hk' : k ≤ 52) :
    (x.scaledDown k).isFinite = true ∧ 0 ≤ (x.scaledDown k).valueKey ↔
      x.isFinite = true ∧ -(2 ^ (k - 1) : Nat) ≤ x.valueKey := by
  have hfinite : x.isFinite = true ↔ x.magnitude < infinityPattern := decide_eq_true_iff
  rcases unpacked_cases x with ⟨hm, hu⟩ | ⟨hm, hu⟩ | ⟨hm, hu⟩ | ⟨hpos, hm, -⟩
  · have hnan : x.scaledDown k = packed .notANumber := by rw [scaledDown, hu]; rfl
    rw [hnan, isFinite_packed_notANumber, hfinite]
    exact iff_of_false (fun h => by cases h.1) fun h => Nat.lt_asymm hm h.1
  · have hinfinite : x.scaledDown k = packed (.infinity (x.sign / .positive)) := by
      rw [scaledDown, hu]
      rfl
    rw [hinfinite, isFinite_packed_infinity, hfinite, hm]
    exact iff_of_false (fun h => by cases h.1) fun h => Nat.lt_irrefl _ h.1
  · have hzero : (x.scaledDown k).magnitude = 0 := by
      have hquotient : x.scaledDown k = packed (.zero (x.sign / .positive)) := by
        rw [scaledDown, hu]
        rfl
      rw [hquotient, magnitude_packed_zero]
    have hinfinity : 0 < infinityPattern := by decide
    have hkey : x.valueKey = 0 ∧ (x.scaledDown k).valueKey = 0 := by
      rw [valueKey_eq, valueKey_eq, hzero, hm]
      cases x.sign <;> cases (x.scaledDown k).sign <;> exact ⟨rfl, rfl⟩
    rw [isFinite, decide_eq_true_eq, hfinite, hkey.1, hkey.2, hzero, hm]
    generalize 2 ^ (k - 1) = half
    omega
  · obtain ⟨hfinite', hsign, hzero⟩ := scaledDown_finite hpos (decide_eq_true hm) hk hk'
    rw [hfinite, valueKey_eq, valueKey_eq, hsign, and_iff_right hfinite', and_iff_right hm]
    generalize 2 ^ (k - 1) = half at hzero ⊢
    cases x.sign <;> simp only [Sign.apply] <;> omega

end Binary64

end InferenceFleet
