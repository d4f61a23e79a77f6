import InferenceFleet.Json.Quoted

/-!
# Quoted texts are read back

A text is read back from what is written of it between quotation marks, whatever its characters are.
A character is written in one of three forms (`escape_cases`), and each of them is read in one step.
-/

namespace InferenceFleet.Json

theorem hexDigit?_hexChar {n : Nat} (hn : n < 16) : Text.hexDigit? (hexChar n) = some n := by
  have hall : ∀ m : Fin 16, Text.hexDigit? (hexChar m.val) = some m.val := by decide
  exact hall ⟨n, hn⟩

theorem hex4?_escape {n : Nat} (hn : n < 0x20) (rest : List Char) :
    hex4? ('0' :: '0' :: hexChar (n / 16) :: hexChar (n % 16) :: rest) = some (n, rest) := by
  have hzero : Text.hexDigit? '0' = some 0 := by decide
  have hhigh : Text.hexDigit? (hexChar (n / 16)) = some (n / 16) := hexDigit?_hexChar (by omega)
  have hlow : Text.hexDigit? (hexChar (n % 16)) = some (n % 16) := hexDigit?_hexChar (by omega)
  have hsum : (0 * 16 + n / 16) * 16 + n % 16 = n := by omega
  simp [hex4?, hzero, hhigh, hlow]
  omega

/-- A control character is no half of a pair. -/
theorem codeEscape_control {c : Char} (hc : c.toNat < 0x20) (rest : List Char) :
    codeEscape c.toNat rest = (some c, rest) := by
  have hhigh : isHighHalf c.toNat = false := by
    simp only [isHighHalf, Bool.and_eq_false_iff, decide_eq_false_iff_not]
    omega
  have hlow : isLowHalf c.toNat = false := by
    simp only [isLowHalf, Bool.and_eq_false_iff, decide_eq_false_iff_not]
    omega
  simp [codeEscape, hhigh, hlow]

/-- The three forms of a character between quotation marks. -/
theorem escape_cases (c : Char) :
    (∃ e, e ≠ 'u' ∧ shortEscape? e = some c ∧ escape c = ['\\', e]) ∨
    (c.toNat < 0x20 ∧
      escape c = ['\\', 'u', '0', '0', hexChar (c.toNat / 16), hexChar (c.toNat % 16)]) ∨
    (c ≠ '"' ∧ c ≠ '\\' ∧ ¬ c.toNat < 0x20 ∧ escape c = [c]) := by
  unfold escape
  by_cases hshort : c = '"' ∨ c = '\\' ∨ c = '\n' ∨ c = '\r' ∨ c = '\t' ∨ c = '\x08' ∨ c = '\x0c'
  · left
    rcases hshort with rfl | rfl | rfl | rfl | rfl | rfl | rfl <;>
      exact ⟨_, by decide, by decide, rfl⟩
  · right
    simp only [not_or] at hshort
    obtain ⟨hquote, hslash, hn, hr, ht, hb, hf⟩ := hshort
    simp only [if_neg hquote, if_neg hslash, if_neg hn, if_neg hr, if_neg ht, if_neg hb, if_neg hf]
    by_cases hcontrol : c.toNat < 0x20
    · exact .inl ⟨hcontrol, if_pos hcontrol⟩
    · exact .inr ⟨hquote, hslash, hcontrol, if_neg hcontrol⟩

theorem readQuoted?_escape (fuel : Nat) (c : Char) (rest : List Char) :
    readQuoted? (fuel + 1) (escape c ++ rest) =
      (readQuoted? fuel rest).map fun read => (some c :: read.1, read.2) := by
  rcases escape_cases c with
    ⟨e, hne, hshort, hescape⟩ | ⟨hcontrol, hescape⟩ | ⟨hquote, hslash, hcontrol, hescape⟩
  · rw [hescape]
    show readQuoted? (fuel + 1) ('\\' :: e :: rest) = _
    rw [readQuoted?.eq_def]
    simp only [hshort]
    cases readQuoted? fuel rest <;> rfl
  · rw [hescape]
    show readQuoted? (fuel + 1) ('\\' :: 'u' :: '0' :: '0' :: hexChar (c.toNat / 16) ::
      hexChar (c.toNat % 16) :: rest) = _
    rw [readQuoted?.eq_def]
    simp only [hex4?_escape hcontrol, Option.bind_eq_bind, Option.bind_some,
      codeEscape_control hcontrol]
    cases readQuoted? fuel rest <;> rfl
  · rw [hescape]
    show readQuoted? (fuel + 1) (c :: rest) = _
    rw [readQuoted?.eq_def]
    simp only [if_neg hquote, if_neg hslash, if_neg hcontrol]
    cases readQuoted? fuel rest <;> rfl

theorem readQuoted?_flatMap_escape (cs rest : List Char) {fuel : Nat} (hfuel : cs.length < fuel) :
    readQuoted? fuel (cs.flatMap escape ++ '"' :: rest) = some (cs.map some, rest) := by
  induction cs generalizing fuel with
  | nil =>
      obtain ⟨fuel, rfl⟩ := Nat.exists_eq_succ_of_ne_zero (Nat.ne_zero_of_lt hfuel)
      rfl
  | cons c cs ih =>
      obtain ⟨fuel, rfl⟩ := Nat.exists_eq_succ_of_ne_zero (Nat.ne_zero_of_lt hfuel)
      rw [List.flatMap_cons, List.append_assoc, readQuoted?_escape,
        ih (Nat.lt_of_succ_lt_succ hfuel)]
      rfl

theorem mapM_id_eq_some_iff {chars : List (Option Char)} {cs : List Char} :
    chars.mapM id = some cs ↔ chars = cs.map some := by
  induction chars generalizing cs with
  | nil => cases cs <;> simp
  | cons char? chars ih =>
      cases char? with
      | none => cases cs <;> simp [List.mapM_cons]
      | some c =>
          rw [List.mapM_cons, id, Option.bind_eq_bind, Option.bind_some, Option.bind_eq_bind,
            Option.bind_eq_some_iff]
          cases cs with
          | nil => simp
          | cons d cs =>
              simp only [ih, Option.pure_def, Option.some.injEq, List.cons.injEq, List.map_cons]
              constructor
              · rintro ⟨_, hchars, rfl, rfl⟩
                exact ⟨rfl, hchars⟩
              · rintro ⟨rfl, hchars⟩
                exact ⟨cs, hchars, rfl, rfl⟩

/-- Characters have a value if and only if half a pair is not among them. -/
theorem textOf?_eq_some_iff {chars : List (Option Char)} {s : String} :
    textOf? chars = some s ↔ chars = s.toList.map some := by
  rw [textOf?, Option.map_eq_some_iff]
  constructor
  · rintro ⟨cs, hcs, rfl⟩
    rw [mapM_id_eq_some_iff.1 hcs, String.toList_ofList]
  · intro hchars
    exact ⟨s.toList, mapM_id_eq_some_iff.2 hchars, String.ofList_toList⟩

theorem textOf?_map_some (s : String) : textOf? (s.toList.map some) = some s :=
  textOf?_eq_some_iff.2 rfl

/-- What is written of a character is at least as long. -/
theorem length_le_flatMap_escape (cs : List Char) : cs.length ≤ (cs.flatMap escape).length := by
  induction cs with
  | nil => exact Nat.le_refl 0
  | cons c cs ih =>
      have hone : 1 ≤ (escape c).length := by
        rcases escape_cases c with ⟨e, -, -, hescape⟩ | ⟨-, hescape⟩ | ⟨-, -, -, hescape⟩ <;>
          simp [hescape]
      rw [List.flatMap_cons, List.length_append, List.length_cons]
      omega

end InferenceFleet.Json
