import InferenceFleet.Binary64.Basic
import Mathlib

/-!
# Patterns taken apart and put together

Arithmetic takes the pattern of a number apart into a sign, a whole mantissa and an exponent, works
on these, and puts the result together again. Here the two directions are expressed by the fields
of the pattern: what a number is taken apart into (`unpacked_of_finite` and the theorems around it),
and which fields the pattern has that a result is put together to (`packed_finite`).
-/

namespace InferenceFleet

namespace Binary64

open Float.Model (UnpackedFloat)
open Float.Model.UnpackedFloat (Sign unpackSign unpackExponent unpackMantissa packComponents
  unpackSign_packComponents unpackExponent_packComponents unpackMantissa_packComponents)

/-- A number taken apart for arithmetic. -/
def unpacked (x : Binary64) : UnpackedFloat := .unpack .binary64 x.bits.toBitVec

/-- The number that a result of arithmetic is put together to. -/
def packed (u : UnpackedFloat) : Binary64 := ⟨.ofBitVec (UnpackedFloat.pack .binary64 u)⟩

/-- The sign of a pattern. -/
def sign (x : Binary64) : Sign := if x.isNegative then .negative else .positive

theorem pattern_lt (x : Binary64) : x.pattern < 2 * signUnit := x.bits.toNat_lt

theorem exponentField_le (x : Binary64) : x.exponentField ≤ 2047 := by
  simp only [exponentField, magnitude, signUnit, exponentUnit]
  omega

theorem fractionField_lt (x : Binary64) : x.fractionField < exponentUnit :=
  Nat.mod_lt _ (by decide)

/-- A magnitude is made of its two fields. -/
theorem magnitude_eq (x : Binary64) :
    x.magnitude = x.exponentField * exponentUnit + x.fractionField := by
  rw [exponentField, fractionField, Nat.mul_comm]
  exact (Nat.div_add_mod _ _).symm

/-- A magnitude is the significand in its place, where the exponents are counted from the least. -/
theorem magnitude_eq_significand (x : Binary64) :
    (x.magnitude : Int) = (x.exponent + 1074) * exponentUnit + x.significand := by
  have hfields := x.magnitude_eq
  simp only [exponent, significand, exponentUnit] at hfields ⊢
  split <;> omega

theorem significand_lt (x : Binary64) : x.significand < 2 * exponentUnit := by
  have hfraction := x.fractionField_lt
  simp only [significand, exponentUnit] at hfraction ⊢
  split <;> omega

/-- Only with the least exponent a significand may lack its first bit. -/
theorem significand_cases (x : Binary64) :
    x.exponent = -1074 ∨ exponentUnit ≤ x.significand := by
  simp only [exponent, significand]
  split <;> omega

theorem le_exponent (x : Binary64) : -1074 ≤ x.exponent := by
  simp only [exponent]
  omega

theorem exponent_le {x : Binary64} (hfinite : x.isFinite = true) : x.exponent ≤ 971 := by
  have hmagnitude : x.magnitude < infinityPattern := of_decide_eq_true hfinite
  have hfields := x.magnitude_eq
  simp only [exponent, infinityPattern, exponentUnit] at hmagnitude hfields ⊢
  omega

theorem significand_pos {x : Binary64} (hpos : 0 < x.magnitude) : 0 < x.significand := by
  have hfields := x.magnitude_eq
  simp only [significand, exponentUnit] at hfields ⊢
  split <;> omega

theorem toNat_unpackExponent (x : Binary64) :
    (@unpackExponent .binary64 x.bits.toBitVec).toNat = x.exponentField := by
  simp only [unpackExponent, BitVec.toNat_cast, BitVec.extractLsb_toNat, exponentField, magnitude,
    pattern, signUnit, exponentUnit, Nat.shiftRight_eq_div_pow, UInt64.toNat_toBitVec]
  omega

theorem toNat_unpackMantissa (x : Binary64) :
    (@unpackMantissa .binary64 x.bits.toBitVec).toNat = x.fractionField := by
  simp only [unpackMantissa, BitVec.toNat_cast, BitVec.extractLsb_toNat, fractionField, magnitude,
    pattern, signUnit, exponentUnit, Nat.shiftRight_eq_div_pow, UInt64.toNat_toBitVec]
  omega

theorem ofBitVec_unpackSign (x : Binary64) :
    Sign.ofBitVec (@unpackSign .binary64 x.bits.toBitVec) = x.sign := by
  have hlt := x.pattern_lt
  have hbit : (@unpackSign .binary64 x.bits.toBitVec).toNat = x.pattern / signUnit := by
    simp only [unpackSign, BitVec.toNat_cast, BitVec.extractLsb_toNat, pattern, signUnit,
      Nat.shiftRight_eq_div_pow, UInt64.toNat_toBitVec]
    have := x.bits.toNat_lt
    omega
  have hzero : @unpackSign .binary64 x.bits.toBitVec = 0#1 ↔ ¬ signUnit ≤ x.pattern := by
    rw [← BitVec.toNat_inj, hbit]
    simp only [signUnit, BitVec.toNat_ofNat] at hlt ⊢
    omega
  by_cases hneg : signUnit ≤ x.pattern
  · rw [Sign.ofBitVec, if_neg fun h => hzero.1 h hneg, sign, isNegative,
      if_pos (decide_eq_true hneg)]
  · rw [Sign.ofBitVec, if_pos (hzero.2 hneg), sign, isNegative,
      if_neg fun h => hneg (of_decide_eq_true h)]

section unpacked

variable {x : Binary64}

theorem unpackExponent_eq_top_iff :
    @unpackExponent .binary64 x.bits.toBitVec = -1#11 ↔ x.exponentField = 2047 := by
  rw [← BitVec.toNat_inj, toNat_unpackExponent]
  rfl

theorem unpackExponent_eq_zero_iff :
    @unpackExponent .binary64 x.bits.toBitVec = 0#11 ↔ x.exponentField = 0 := by
  rw [← BitVec.toNat_inj, toNat_unpackExponent]
  rfl

theorem unpackMantissa_eq_zero_iff :
    @unpackMantissa .binary64 x.bits.toBitVec = 0#52 ↔ x.fractionField = 0 := by
  rw [← BitVec.toNat_inj, toNat_unpackMantissa]
  rfl

theorem unpacked_of_nan (hmagnitude : infinityPattern < x.magnitude) :
    x.unpacked = .notANumber := by
  have hfields := x.magnitude_eq
  have htop := x.exponentField_le
  have hfraction := x.fractionField_lt
  simp only [infinityPattern, exponentUnit] at hfields hmagnitude hfraction
  rw [unpacked, UnpackedFloat.unpack]
  dsimp only
  rw [if_pos (unpackExponent_eq_top_iff.2 (by omega)),
    if_neg (mt unpackMantissa_eq_zero_iff.1 (by omega))]

theorem unpacked_of_infinite (hmagnitude : x.magnitude = infinityPattern) :
    x.unpacked = .infinity x.sign := by
  have hfields := x.magnitude_eq
  have hfraction := x.fractionField_lt
  simp only [infinityPattern, exponentUnit] at hfields hmagnitude hfraction
  rw [unpacked, UnpackedFloat.unpack]
  dsimp only
  rw [if_pos (unpackExponent_eq_top_iff.2 (by omega)),
    if_pos (unpackMantissa_eq_zero_iff.2 (by omega)), ofBitVec_unpackSign]

theorem unpacked_of_zero (hmagnitude : x.magnitude = 0) : x.unpacked = .zero x.sign := by
  have hfields := x.magnitude_eq
  simp only [exponentUnit] at hfields
  rw [unpacked, UnpackedFloat.unpack]
  dsimp only
  rw [if_neg (mt unpackExponent_eq_top_iff.1 (by omega)),
    if_pos (unpackExponent_eq_zero_iff.2 (by omega)),
    dif_pos (unpackMantissa_eq_zero_iff.2 (by omega)), ofBitVec_unpackSign]

theorem unpacked_of_finite (hpos : 0 < x.magnitude) (hfinite : x.isFinite = true) :
    x.unpacked = .finite x.sign x.significand x.exponent (significand_pos hpos) := by
  have hmagnitude : x.magnitude < infinityPattern := of_decide_eq_true hfinite
  have hfields := x.magnitude_eq
  simp only [infinityPattern, exponentUnit] at hfields hmagnitude
  rw [unpacked, UnpackedFloat.unpack]
  dsimp only
  rw [if_neg (mt unpackExponent_eq_top_iff.1 (by omega))]
  have hsign := x.ofBitVec_unpackSign
  have hmantissa := x.toNat_unpackMantissa
  have hexponent := x.toNat_unpackExponent
  by_cases hleast : x.exponentField = 0
  · have hsignificand : x.significand = x.fractionField := if_pos hleast
    rw [if_pos (unpackExponent_eq_zero_iff.2 hleast),
      dif_neg (mt unpackMantissa_eq_zero_iff.1 (by omega))]
    congr 1
    · exact hmantissa.trans hsignificand.symm
    · rw [hexponent, hleast, exponent, hleast]
      rfl
  · have hsignificand : x.significand = x.fractionField + exponentUnit := if_neg hleast
    have hwhole : (1#1 ++ @unpackMantissa .binary64 x.bits.toBitVec).toNat =
        x.significand := by
      rw [BitVec.toNat_append, ← Nat.shiftLeft_add_eq_or_of_lt (BitVec.isLt _), hmantissa,
        hsignificand]
      exact Nat.add_comm exponentUnit x.fractionField
    rw [if_neg (mt unpackExponent_eq_zero_iff.1 hleast)]
    congr 1
    rw [hexponent, exponent, Nat.max_eq_left (by omega)]
    rfl

end unpacked

section packed

/-- The number with some fields. -/
def ofFields (s : Sign) (exponent : BitVec 11) (fraction : BitVec 52) : Binary64 :=
  ⟨.ofBitVec (packComponents .binary64 s exponent fraction)⟩

theorem bits_ofFields (s : Sign) (exponent : BitVec 11) (fraction : BitVec 52) :
    (ofFields s exponent fraction).bits.toBitVec = packComponents .binary64 s exponent fraction :=
  rfl

@[simp]
theorem magnitude_ofFields (s : Sign) (exponent : BitVec 11) (fraction : BitVec 52) :
    (ofFields s exponent fraction).magnitude =
      exponent.toNat * exponentUnit + fraction.toNat := by
  rw [magnitude_eq, ← toNat_unpackExponent, ← toNat_unpackMantissa, bits_ofFields,
    unpackExponent_packComponents, unpackMantissa_packComponents]

@[simp]
theorem sign_ofFields (s : Sign) (exponent : BitVec 11) (fraction : BitVec 52) :
    (ofFields s exponent fraction).sign = s := by
  rw [← ofBitVec_unpackSign, bits_ofFields, unpackSign_packComponents, Sign.ofBitVec_toBitVec]

theorem packed_infinity (s : Sign) : packed (.infinity s) = ofFields s (-1#11) 0#52 := rfl

theorem packed_zero (s : Sign) : packed (.zero s) = ofFields s 0#11 0#52 := rfl

theorem packed_notANumber :
    packed .notANumber = ofFields .positive (-1#11) (1#52 <<< 51) := rfl

/-- A finite result is put together as infinity, as a normal number or as a subnormal one. -/
theorem packed_finite (s : Sign) (m : Nat) (e : Int) (hm : 0 < m) :
    packed (.finite s m e hm) =
      if 2047 ≤ (e + 1075).toNat then ofFields s (-1#11) 0#52
      else if m.log2 = 52 then ofFields s (.ofNat 11 (e + 1075).toNat) (.ofNat 52 m)
      else ofFields s 0#11 (.ofNat 52 m) := by
  have hbiased : e + (Float.Model.Format.binary64.exponentBias : Int) +
      (Float.Model.Format.binary64.mantissaBitsWithoutImplicit : Int) = e + 1075 := by
    show e + 1023 + 52 = e + 1075
    omega
  have htop : 2 ^ Float.Model.Format.binary64.exponentBits ≤ (e + 1075).toNat + 1 ↔
      2047 ≤ (e + 1075).toNat := by
    show 2048 ≤ (e + 1075).toNat + 1 ↔ _
    omega
  have hnormal : m.log2 + 1 = Float.Model.Format.binary64.mantissaBits ↔ m.log2 = 52 := by
    show m.log2 + 1 = 53 ↔ _
    omega
  rw [packed, UnpackedFloat.pack]
  simp only [hbiased, htop, hnormal]
  split
  · rfl
  · split <;> rfl

@[simp]
theorem sign_packed_finite (s : Sign) (m : Nat) (e : Int) (hm : 0 < m) :
    (packed (.finite s m e hm)).sign = s := by
  rw [packed_finite]
  split
  · exact sign_ofFields _ _ _
  · split <;> exact sign_ofFields _ _ _

/-- A result that is rounded to the format and not too large is put together as a finite number
other than zero. -/
theorem packed_finite_bounds (s : Sign) {m : Nat} {e : Int} (hm : 0 < m)
    (hfits : m < 2 * exponentUnit) (hleast : -1074 ≤ e) (hgreatest : e ≤ 971) :
    0 < (packed (.finite s m e hm)).magnitude ∧ (packed (.finite s m e hm)).isFinite = true := by
  have hlog : m.log2 < 53 := (Nat.log2_lt (by omega)).2 hfits
  have hexponent : (BitVec.ofNat 11 (e + 1075).toNat).toNat = (e + 1075).toNat := by
    rw [BitVec.toNat_ofNat]
    exact Nat.mod_eq_of_lt (by omega)
  have hfraction : (BitVec.ofNat 52 m).toNat = m % exponentUnit := BitVec.toNat_ofNat _ _
  rw [packed_finite, if_neg (by omega), isFinite, decide_eq_true_eq, infinityPattern]
  by_cases hnormal : m.log2 = 52
  · rw [if_pos hnormal, magnitude_ofFields, hexponent, hfraction]
    have := Nat.mod_lt m (y := exponentUnit) (by decide)
    simp only [exponentUnit] at this ⊢
    omega
  · have hless : m.log2 < 52 := by omega
    have hsmall : m < exponentUnit := (Nat.log2_lt (by omega)).1 hless
    rw [if_neg hnormal, magnitude_ofFields, hfraction, Nat.mod_eq_of_lt hsmall]
    simp only [exponentUnit, BitVec.toNat_zero] at hsmall ⊢
    omega

@[simp]
theorem isFinite_packed_infinity (s : Sign) : (packed (.infinity s)).isFinite = false := by
  cases s <;> rfl

@[simp]
theorem isFinite_packed_notANumber : (packed .notANumber).isFinite = false := rfl

@[simp]
theorem magnitude_packed_zero (s : Sign) : (packed (.zero s)).magnitude = 0 := by
  cases s <;> rfl

end packed

theorem ofFloat_add (x y : Float) :
    ofFloat (x + y) =
      packed (UnpackedFloat.add .binary64 (ofFloat x).unpacked (ofFloat y).unpacked) := rfl

theorem ofFloat_mul (x y : Float) :
    ofFloat (x * y) =
      packed (UnpackedFloat.mul .binary64 (ofFloat x).unpacked (ofFloat y).unpacked) := rfl

theorem ofFloat_div (x y : Float) :
    ofFloat (x / y) =
      packed (UnpackedFloat.div .binary64 (ofFloat x).unpacked (ofFloat y).unpacked) := rfl

end Binary64

end InferenceFleet
