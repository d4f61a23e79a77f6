import InferenceFleet.Json.Numeral
import InferenceFleet.Json.Writer
import Mathlib.Data.List.TakeWhile

/-!
# Numerals are read back

A numeral that fills a text is read the same way where something follows that cannot belong to a
numeral (`readNumeral?_append`), as a comma, a new line or a closing bracket cannot. A whole number
of the range that is read as one is read back. Whether a binary64 number is depends on the
arithmetic by which numerals are read, so it is left as a property of the number (`ReadsBack`).
-/

namespace InferenceFleet.Json

/-- What may follow a numeral: nothing, or a character that cannot belong to one. -/
def EndsNumeral (rest : List Char) : Prop :=
  ∀ c ∈ rest.head?, c.isDigit = false ∧ c ≠ '.' ∧ c ≠ 'e' ∧ c ≠ 'E'

theorem endsNumeral_cons {c : Char} (rest : List Char)
    (hc : c.isDigit = false ∧ c ≠ '.' ∧ c ≠ 'e' ∧ c ≠ 'E') : EndsNumeral (c :: rest) := by
  intro d hd
  obtain rfl := Option.mem_some_iff.1 hd
  exact hc

theorem spanDigits_append {rest : List Char} (hends : EndsNumeral rest) (cs : List Char) :
    Decimal.spanDigits (cs ++ rest) =
      ((Decimal.spanDigits cs).1, (Decimal.spanDigits cs).2 ++ rest) := by
  have hstart : rest.takeWhile Char.isDigit = [] ∧ rest.dropWhile Char.isDigit = rest := by
    cases rest with
    | nil => exact ⟨rfl, rfl⟩
    | cons c rest =>
        have hc := (hends c rfl).1
        simp [hc]
  simp only [Decimal.spanDigits]
  induction cs with
  | nil => simp [hstart.1, hstart.2]
  | cons c cs ih =>
      cases hc : c.isDigit with
      | true => simp_all
      | false => simp [hc]

theorem readFraction?_append {rest cs left : List Char} (hends : EndsNumeral rest)
    {fraction : Option (List Nat)} (hread : readFraction? cs = some (fraction, left)) :
    readFraction? (cs ++ rest) = some (fraction, left ++ rest) := by
  unfold readFraction? at hread
  split at hread
  · next cs =>
      show readFraction? ('.' :: (cs ++ rest)) = _
      simp only [readFraction?, spanDigits_append hends]
      generalize Decimal.spanDigits cs = span at hread ⊢
      obtain ⟨digits, left'⟩ := span
      cases digits with
      | nil => cases hread
      | cons d ds =>
          cases hread
          rfl
  · next hpoint =>
      cases hread
      have hother : ∀ after, cs ++ rest ≠ '.' :: after := by
        intro after heq
        cases cs with
        | nil =>
            have hrest : rest = '.' :: after := heq
            exact (hends '.' (by rw [hrest]; rfl)).2.1 rfl
        | cons c cs =>
            obtain rfl : c = '.' := (List.cons.inj heq).1
            exact hpoint cs rfl
      unfold readFraction?
      split
      · next after heq => exact absurd heq (hother after)
      · rfl

theorem exponentSign_append {cs : List Char} (hcs : cs ≠ []) (rest : List Char) :
    exponentSign (cs ++ rest) = ((exponentSign cs).1, (exponentSign cs).2 ++ rest) := by
  obtain ⟨c, cs, rfl⟩ := List.exists_cons_of_ne_nil hcs
  show exponentSign (c :: (cs ++ rest)) = _
  by_cases hminus : c = '-'
  · rw [hminus]
    rfl
  · by_cases hplus : c = '+'
    · rw [hplus]
      rfl
    · simp [exponentSign, hminus, hplus]

theorem readExponent?_append {rest cs left : List Char} (hends : EndsNumeral rest)
    {exponent : Option Int} (hread : readExponent? cs = some (exponent, left)) :
    readExponent? (cs ++ rest) = some (exponent, left ++ rest) := by
  cases cs with
  | nil =>
      cases hread
      have hother : ¬ (rest.head? = some 'e' ∨ rest.head? = some 'E') := by
        rintro (hsmall | hlarge)
        · exact (hends 'e' hsmall).2.2.1 rfl
        · exact (hends 'E' hlarge).2.2.2 rfl
      exact if_neg hother
  | cons c cs =>
      unfold readExponent? at hread
      split at hread
      · next hletter =>
          have hsome : cs ≠ [] := by
            rintro rfl
            cases hread
          have hstart : (c :: cs ++ rest).head? = some 'e' ∨ (c :: cs ++ rest).head? = some 'E' :=
            hletter
          rw [readExponent?, if_pos hstart]
          simp only [List.cons_append, List.tail_cons, exponentSign_append hsome,
            spanDigits_append hends] at hread ⊢
          generalize Decimal.spanDigits (exponentSign cs).2 = span at hread ⊢
          obtain ⟨digits, left'⟩ := span
          cases digits with
          | nil => cases hread
          | cons d ds =>
              cases hread
              rfl
      · next hletter =>
          cases hread
          exact if_neg hletter

theorem readUnsigned?_append {rest cs : List Char} (hends : EndsNumeral rest) {negative : Bool}
    {numeral : Numeral} (hread : readUnsigned? negative cs = some (numeral, [])) :
    readUnsigned? negative (cs ++ rest) = some (numeral, rest) := by
  unfold readUnsigned? at hread ⊢
  simp only [spanDigits_append hends]
  simp only [Option.bind_eq_bind] at hread ⊢
  split at hread
  · next hwhole =>
      rw [if_pos hwhole]
      obtain ⟨⟨fraction, left⟩, hfraction, hread⟩ := Option.bind_eq_some_iff.1 hread
      obtain ⟨⟨exponent, left'⟩, hexponent, hread⟩ := Option.bind_eq_some_iff.1 hread
      cases hread
      rw [readFraction?_append hends hfraction, Option.bind_some]
      simp only
      rw [readExponent?_append hends hexponent]
      rfl
  · cases hread

/-- What follows a numeral does not change what it is. -/
theorem readNumeral?_append {rest cs : List Char} (hends : EndsNumeral rest) {numeral : Numeral}
    (hread : readNumeral? cs = some (numeral, [])) :
    readNumeral? (cs ++ rest) = some (numeral, rest) := by
  cases cs with
  | nil => cases hread
  | cons c cs =>
      by_cases hminus : c = '-'
      · subst hminus
        exact readUnsigned?_append hends hread
      · have hsign : ∀ tail, readNumeral? (c :: tail) = readUnsigned? false (c :: tail) := by
          intro tail
          simp [readNumeral?, hminus]
        rw [hsign] at hread
        rw [List.cons_append, hsign]
        exact readUnsigned?_append hends hread

/-- A numeral starts with a minus sign or a digit. -/
theorem exists_cons_of_readNumeral? {cs : List Char} {numeral : Numeral} {left : List Char}
    (hread : readNumeral? cs = some (numeral, left)) :
    ∃ c tail, cs = c :: tail ∧ (c = '-' ∨ c.isDigit = true) := by
  cases cs with
  | nil => cases hread
  | cons c cs =>
      refine ⟨c, cs, rfl, ?_⟩
      by_cases hminus : c = '-'
      · exact .inl hminus
      · right
        cases hdigit : c.isDigit with
        | true => rfl
        | false =>
            have hspan : Decimal.spanDigits (c :: cs) = ([], c :: cs) := by
              simp [Decimal.spanDigits, hdigit]
            simp [readNumeral?, readUnsigned?, hminus, hspan, isWhole] at hread

theorem ofDigits_toDigits (n : Nat) :
    Text.ofDigits 10 0 ((Nat.toDigits 10 n).map fun c => c.toNat - '0'.toNat) = n := by
  have hvalue := Nat.ofDigitChars_toDigits (b := 10) (n := n) (by decide) (by decide)
  rw [Text.ofDigits, List.foldl_map]
  rw [Nat.ofDigitChars] at hvalue
  simpa [Nat.mul_comm] using hvalue

theorem spanDigits_toDigits (n : Nat) :
    Decimal.spanDigits (Nat.toDigits 10 n) =
      ((Nat.toDigits 10 n).map fun c => c.toNat - '0'.toNat, []) := by
  have hall : ∀ c ∈ Nat.toDigits 10 n, c.isDigit = true := fun c hc =>
    Nat.isDigit_of_mem_toDigits (by decide) (by decide) hc
  rw [Decimal.spanDigits, List.takeWhile_eq_self_iff.2 hall, List.dropWhile_eq_nil_iff.2 hall]

/-- The first digit of a number is zero for zero only. -/
theorem head?_toDigits {n : Nat} (hn : n ≠ 0) :
    ∀ c ∈ (Nat.toDigits 10 n).head?, c.toNat - '0'.toNat ≠ 0 := by
  induction n using Nat.strongRecOn with
  | ind n ih =>
      by_cases hsmall : n < 10
      · intro c hc
        rw [Nat.toDigits_of_lt_base hsmall] at hc
        obtain rfl := Option.mem_some_iff.1 hc
        rw [Nat.toNat_digitChar_of_lt_ten hsmall]
        show 48 + n - 48 ≠ 0
        omega
      · intro c hc
        rw [Nat.toDigits_of_base_le (by decide) (by omega), List.head?_append] at hc
        refine ih (n / 10) (by omega) (by omega) c ?_
        cases hfirst : (Nat.toDigits 10 (n / 10)).head? with
        | none => exact absurd (List.head?_eq_none_iff.1 hfirst) Nat.toDigits_ne_nil
        | some d =>
            rw [hfirst] at hc
            exact hc

theorem isWhole_toDigits (n : Nat) :
    isWhole ((Nat.toDigits 10 n).map fun c => c.toNat - '0'.toNat) = true := by
  by_cases hn : n = 0
  · rw [hn]
    rfl
  · have hhead := head?_toDigits hn
    cases hdigits : Nat.toDigits 10 n with
    | nil => exact absurd hdigits Nat.toDigits_ne_nil
    | cons c cs =>
        rw [hdigits] at hhead
        have hc := hhead c rfl
        rw [List.map_cons]
        cases hvalue : c.toNat - '0'.toNat with
        | zero => exact absurd hvalue hc
        | succ k => rfl

theorem readUnsigned?_toDigits (negative : Bool) (n : Nat) :
    readUnsigned? negative (Nat.toDigits 10 n) =
      some (⟨negative, (Nat.toDigits 10 n).map fun c => c.toNat - '0'.toNat, none, none⟩, []) := by
  simp only [readUnsigned?, spanDigits_toDigits, isWhole_toDigits]
  rfl

/-- A whole number that fits 64 bits is read back. -/
theorem readNumeral?_integerText {n : Int} (hlow : -(Text.maxSigned64 + 1 : Nat) ≤ n)
    (hhigh : n ≤ Text.maxWord64) :
    ∃ numeral, readNumeral? (integerText n) = some (numeral, []) ∧
      numeral.tree = .integer n := by
  by_cases hneg : n < 0
  · refine ⟨⟨true, (Nat.toDigits 10 n.natAbs).map fun c => c.toNat - '0'.toNat, none, none⟩,
      ?_, ?_⟩
    · rw [integerText, if_pos hneg]
      exact readUnsigned?_toDigits true n.natAbs
    · have hrange : 0 < n.natAbs ∧ n.natAbs ≤ Text.maxSigned64 + 1 := by omega
      have hsame : -(n.natAbs : Int) = n := by omega
      have hvalue := ofDigits_toDigits n.natAbs
      generalize (Nat.toDigits 10 n.natAbs).map (fun c => c.toNat - '0'.toNat) = digits at hvalue ⊢
      simp only [Numeral.tree, hvalue, if_pos hrange, hsame]
      rfl
  · have hunsigned : readNumeral? (Nat.toDigits 10 n.natAbs) =
        readUnsigned? false (Nat.toDigits 10 n.natAbs) := by
      obtain ⟨c, cs, hdigits⟩ := List.exists_cons_of_ne_nil (Nat.toDigits_ne_nil (b := 10)
        (n := n.natAbs))
      have hdigit : c.isDigit = true :=
        Nat.isDigit_of_mem_toDigits (b := 10) (n := n.natAbs) (by decide) (by decide)
          (by simp [hdigits])
      have hminus : c ≠ '-' := by
        rintro rfl
        exact absurd hdigit (by decide)
      rw [hdigits]
      simp [readNumeral?, hminus]
    refine ⟨⟨false, (Nat.toDigits 10 n.natAbs).map fun c => c.toNat - '0'.toNat, none, none⟩,
      ?_, ?_⟩
    · rw [integerText, if_neg hneg, hunsigned]
      exact readUnsigned?_toDigits false n.natAbs
    · have hrange : n.natAbs ≤ Text.maxWord64 := by omega
      have hsame : (n.natAbs : Int) = n := by omega
      have hvalue := ofDigits_toDigits n.natAbs
      generalize (Nat.toDigits 10 n.natAbs).map (fun c => c.toNat - '0'.toNat) = digits at hvalue ⊢
      simp only [Numeral.tree, hvalue, if_pos hrange, hsame]
      rfl

/-- The numeral that a number is written as stands for that number. -/
def ReadsBack (x : Binary64) : Prop :=
  ∃ numeral, readNumeral? (numberText x) = some (numeral, []) ∧ numeral.tree = .number x

/-- A number is read back if the numeral that it is written as has a fraction and its value. -/
theorem readsBack_of_number? {x : Binary64}
    (h : ((readNumeral? (numberText x)).bind fun read =>
      if read.2 = [] ∧ read.1.fraction.isSome then read.1.number? else none) = some x) :
    ReadsBack x := by
  obtain ⟨⟨numeral, left⟩, hread, hvalue⟩ := Option.bind_eq_some_iff.1 h
  dsimp only at hvalue
  split at hvalue
  · next hwhole =>
      obtain ⟨rfl, hfraction⟩ := hwhole
      refine ⟨numeral, hread, ?_⟩
      simp only [Numeral.tree, hfraction, true_or, if_true, hvalue]
      rfl
  · cases hvalue

end InferenceFleet.Json
