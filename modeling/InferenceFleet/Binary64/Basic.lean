/-!
# Binary64 numbers

A number of the binary64 format is its pattern of 64 bits, so that both zeros and every NaN are
values of their own. A finite number is its sign and `significand * 2 ^ exponent` with natural
significand. The pattern gives the total order of the floating-point standard (`orderKey`), in
which each pattern has a place: negative NaN, minus infinity, the negative numbers, `-0`, `0`, the
positive numbers, infinity, NaN; and the order of the numbers themselves (`valueKey`), in which
both zeros are one. Arithmetic is done on `Float`, which has one NaN only.
-/

namespace InferenceFleet

/-- A number of the binary64 format. -/
structure Binary64 where
  bits : UInt64
  deriving DecidableEq, Inhabited

namespace Binary64

/-- The number that a result of arithmetic is. -/
def ofFloat (x : Float) : Binary64 := ⟨x.toBits⟩

/-- The number as an operand of arithmetic. -/
def toFloat (x : Binary64) : Float := Float.ofBits x.bits

/-- Zero. -/
def zero : Binary64 := ⟨0⟩

/-- The bit pattern as a natural number. -/
def pattern (x : Binary64) : Nat :=
  x.bits.toNat

/-- The value of the sign bit in a pattern. -/
def signUnit : Nat := 0x8000000000000000

/-- The value of the last bit of the exponent field in a pattern. -/
def exponentUnit : Nat := 0x10000000000000

/-- The sign bit. -/
def isNegative (x : Binary64) : Bool :=
  signUnit ≤ pattern x

/-- The pattern without the sign bit. -/
def magnitude (x : Binary64) : Nat :=
  pattern x % signUnit

/-- The pattern of infinity, without the sign. -/
def infinityPattern : Nat := 0x7FF * exponentUnit

/-- The biased exponent field. -/
def exponentField (x : Binary64) : Nat :=
  magnitude x / exponentUnit

/-- The fraction field. -/
def fractionField (x : Binary64) : Nat :=
  magnitude x % exponentUnit

/-- The natural significand of a finite number. -/
def significand (x : Binary64) : Nat :=
  if exponentField x = 0 then fractionField x else fractionField x + exponentUnit

/-- The power of two that scales the significand of a finite number. -/
def exponent (x : Binary64) : Int :=
  (max (exponentField x) 1 : Nat) - 1075

/-- Whether the next smaller number of the same sign is only half a unit away. -/
def isBinadeFloor (x : Binary64) : Bool :=
  fractionField x == 0 && 1 < exponentField x

/-- Finite numbers; the others are the infinities and the NaNs. -/
def isFinite (x : Binary64) : Bool :=
  magnitude x < infinityPattern

/-- Infinity, of either sign. -/
def isInfinite (x : Binary64) : Bool :=
  magnitude x == infinityPattern

/-- The place of a pattern in the total order. -/
def orderKey (x : Binary64) : Int :=
  if isNegative x then -(magnitude x : Int) - 1 else magnitude x

/-- The place of a number that is no NaN in the order of numbers. -/
def valueKey (x : Binary64) : Int :=
  if isNegative x then -(magnitude x : Int) else magnitude x

/-- Patterns with the same place are the same. -/
theorem orderKey_injective {x y : Binary64} (h : x.orderKey = y.orderKey) : x = y := by
  obtain ⟨x⟩ := x
  obtain ⟨y⟩ := y
  have hx := x.toNat_lt
  have hy := y.toNat_lt
  simp only [orderKey, isNegative, magnitude, pattern, signUnit] at h
  have : x.toNat = y.toNat := by
    by_cases hx : 0x8000000000000000 ≤ x.toNat <;> by_cases hy : 0x8000000000000000 ≤ y.toNat <;>
      simp only [hx, hy, decide_true, decide_false, if_true, Bool.false_eq_true, if_false] at h <;>
      omega
  exact congrArg Binary64.mk (UInt64.toNat_inj.1 this)

end Binary64

end InferenceFleet
