import InferenceFleet.Proofs.Text.LowerCase

/-!
# Texts in lower case

What lower-casing writes it leaves alone: no character is mapped to one that is mapped itself. The
table shows it run by run, the targets of each run lying outside every run (`misses_mappings`). So a
text in lower case is never lost, and is found in lower case in every text that contains it.
-/

namespace InferenceFleet.Text

namespace Run

variable {r r' : Run} {n : Nat}

/-- The run maps the code point. -/
def Has (r : Run) (n : Nat) : Prop :=
  r.first ≤ n ∧ n ≤ r.last ∧ (n - r.first) % r.step = 0

instance (r : Run) (n : Nat) : Decidable (r.Has n) :=
  inferInstanceAs (Decidable (_ ∧ _ ∧ _))

/-- What a code point of the run is mapped to. -/
def image (r : Run) (n : Nat) : Nat :=
  r.target + (n - r.first)

/-- The last code point that one of the run may be mapped to. -/
def lastTarget (r : Run) : Nat :=
  r.target + (r.last - r.first)

/-- The code points of the run are all even or all odd. -/
def oneParity (r : Run) : Bool :=
  r.first == r.last || r.step % 2 == 0

/-- The targets of `r` lie before `r'`, behind it or between its code points. -/
def misses (r r' : Run) : Bool :=
  Nat.blt r.lastTarget r'.first || Nat.blt r'.last r.target ||
    (r.oneParity && r'.oneParity && !(r.target % 2 == r'.first % 2))

/-- The targets are characters, and not among the capital letters of ASCII or before them. -/
def targetsFit (r : Run) : Bool :=
  Nat.blt 0x5A r.target && (Nat.blt r.lastTarget 0xD800 ||
    (Nat.blt 0xDFFF r.target && Nat.blt r.lastTarget 0x110000))

theorem Has.sub_mod_two (hn : r.Has n) (hparity : r.oneParity = true) : (n - r.first) % 2 = 0 := by
  obtain ⟨hfirst, hlast, hstep⟩ := hn
  simp only [oneParity, Bool.or_eq_true, beq_iff_eq] at hparity
  rcases hparity with hone | heven
  · omega
  · have htwo : 2 ∣ r.step := Nat.dvd_of_mod_eq_zero heven
    exact Nat.mod_eq_zero_of_dvd (Nat.dvd_trans htwo (Nat.dvd_of_mod_eq_zero hstep))

theorem Has.not_has_image (hn : r.Has n) (hmiss : r.misses r' = true) : ¬ r'.Has (r.image n) := by
  intro himage
  obtain ⟨hfirst, hlast, -⟩ := id hn
  obtain ⟨hfirst', hlast', -⟩ := id himage
  simp only [misses, lastTarget, Bool.or_eq_true, Nat.blt_eq, Bool.and_eq_true,
    Bool.not_eq_true', beq_eq_false_iff_ne] at hmiss
  rcases hmiss with (hbefore | hbehind) | ⟨⟨hparity, hparity'⟩, hbetween⟩
  · simp only [image] at hfirst'
    omega
  · simp only [image] at hlast'
    omega
  · have heven := hn.sub_mod_two hparity
    have heven' := himage.sub_mod_two hparity'
    simp only [image] at heven' hfirst'
    omega

theorem Has.toNat_ofNat_image (hn : r.Has n) (hfit : r.targetsFit = true) :
    (Char.ofNat (r.image n)).toNat = r.image n ∧ 0x5A < r.image n := by
  obtain ⟨-, hlast, -⟩ := hn
  simp only [targetsFit, lastTarget, Bool.and_eq_true, Bool.or_eq_true, Nat.blt_eq] at hfit
  have hvalid : (r.image n).isValidChar := by
    unfold image Nat.isValidChar
    omega
  refine ⟨?_, Nat.lt_of_lt_of_le hfit.1 (Nat.le_add_right _ _)⟩
  rw [Char.ofNat, dif_pos hvalid]
  rfl

end Run

theorem mapped?_eq_some {table : Array Run} {c d : Char} (h : mapped? table c = some d) :
    ∃ run ∈ table, run.Has c.toNat ∧ d = Char.ofNat (run.image c.toNat) := by
  cases hrow : row? Run.first table c.toNat with
  | none => simp [mapped?, hrow] at h
  | some run =>
      simp only [mapped?, hrow, Option.ite_none_right_eq_some, Option.some.injEq] at h
      exact ⟨run, Array.mem_of_getElem? hrow, h.1, h.2.symm⟩

namespace LowerCase

variable {before after word : List Char} {c d : Char}

/-- The two capital letters that are mapped apart from the table, as runs. -/
def specialRuns : List Run :=
  [⟨0x130, 0x130, 1, 0x69⟩, ⟨0x3A3, 0x3A3, 1, 0x3C3⟩]

/-- No run of the table is mapped into a run or to a capital letter that is mapped apart. -/
theorem misses_mappings :
    ∀ r ∈ mappings.toList, r.targetsFit = true ∧
      ∀ r' ∈ specialRuns ++ mappings.toList, r.misses r' = true := by
  have hall : (mappings.toList.all fun r =>
      r.targetsFit && (specialRuns ++ mappings.toList).all r.misses) = true := by
    unfold mappings runsOf
    rw [rowsOf_ofList]
    decide +kernel
  intro r hr
  obtain ⟨hfit, hmisses⟩ := (Bool.and_eq_true _ _).mp (List.all_eq_true.1 hall r hr)
  exact ⟨hfit, List.all_eq_true.1 hmisses⟩

theorem mapped?_small : ∀ c ∈ ['σ', 'ς', '\u0307'], mapped? mappings c = none := by
  have hall : (['σ', 'ς', '\u0307'].all fun c => (mapped? mappings c).isNone) = true := by
    unfold mappings runsOf
    rw [rowsOf_ofList]
    decide +kernel
  simpa using hall

theorem isLower_of_simple (hsigma : c ≠ 'Σ') (hdotted : c ≠ 'İ') (h : simple c = c) : IsLower c := by
  intro final
  rw [ofChar, if_neg hsigma, if_neg hdotted, h]

theorem isLower_of_ascii (hc : c.toNat < 0x80) (h : c.toLower = c) : IsLower c := by
  refine isLower_of_simple ?_ ?_ ?_
  · rintro rfl
    exact absurd hc (by decide)
  · rintro rfl
    exact absurd hc (by decide)
  · rw [simple, if_pos hc, h]

/-- What holds of the first 128 code points holds of every ASCII character. -/
theorem forall_ascii {p : Char → Prop} (hall : ∀ n : Fin 0x80, p (Char.ofNat n))
    (hc : c.toNat < 0x80) : p c := by
  have hp := hall ⟨c.toNat, hc⟩
  rwa [Char.ofNat_toNat] at hp

theorem isLower_toLower (hc : c.toNat < 0x80) : IsLower c.toLower := by
  have hlower : c.toLower.toNat < 0x80 ∧ c.toLower.toLower = c.toLower :=
    forall_ascii (p := fun c => c.toLower.toNat < 0x80 ∧ c.toLower.toLower = c.toLower)
      (by decide) hc
  exact isLower_of_ascii hlower.1 hlower.2

theorem toLower_eq_self (habove : 0x5A < c.toNat) : c.toLower = c := by
  have hnotUpper : ¬ c.val ≤ 'Z'.val := by
    rw [UInt32.le_iff_toNat_le]
    exact Nat.not_le_of_lt habove
  exact dif_neg fun hupper => hnotUpper hupper.2

/-- Beyond the capital letters of ASCII only the table maps. -/
theorem simple_of_mapped?_eq_none (habove : 0x5A < c.toNat) (h : mapped? mappings c = none) :
    simple c = c := by
  unfold simple
  split
  · exact toLower_eq_self habove
  · rw [h, Option.getD_none]

/-- What the table maps a character to is mapped no further. -/
theorem isLower_of_mapped (h : mapped? mappings c = some d) : IsLower d := by
  obtain ⟨run, hrun, hhas, hd⟩ := mapped?_eq_some h
  obtain ⟨hfit, hmisses⟩ := misses_mappings run (Array.mem_toList_iff.2 hrun)
  obtain ⟨hvalue, habove⟩ := hhas.toNat_ofNat_image hfit
  rw [← hd] at hvalue
  have houtside : ∀ r' ∈ specialRuns ++ mappings.toList, ¬ r'.Has d.toNat := by
    intro r' hr'
    rw [hvalue]
    exact hhas.not_has_image (hmisses r' hr')
  refine isLower_of_simple ?_ ?_ (simple_of_mapped?_eq_none (hvalue ▸ habove) ?_)
  · rintro rfl
    exact houtside ⟨0x3A3, 0x3A3, 1, 0x3C3⟩ (by simp [specialRuns]) (by decide)
  · rintro rfl
    exact houtside ⟨0x130, 0x130, 1, 0x69⟩ (by simp [specialRuns]) (by decide)
  · rw [Option.eq_none_iff_forall_ne_some]
    intro e he
    obtain ⟨r', hr', hhas', -⟩ := mapped?_eq_some he
    exact houtside r' (List.mem_append_right _ (Array.mem_toList_iff.2 hr')) hhas'

theorem isLower_small (hc : c ∈ ['σ', 'ς', '\u0307']) : IsLower c := by
  have hnone := mapped?_small c hc
  simp only [List.mem_cons, List.not_mem_nil, or_false] at hc
  rcases hc with rfl | rfl | rfl <;>
    exact isLower_of_simple (by decide) (by decide)
      (simple_of_mapped?_eq_none (by decide) hnone)

theorem isLower_simple (hsigma : c ≠ 'Σ') (hdotted : c ≠ 'İ') : IsLower (simple c) := by
  by_cases hascii : c.toNat < 0x80
  · rw [simple, if_pos hascii]
    exact isLower_toLower hascii
  · cases hmapped : mapped? mappings c with
    | some d =>
        rw [simple, if_neg hascii, hmapped, Option.getD_some]
        exact isLower_of_mapped hmapped
    | none =>
        have hkept : simple c = c := simple_of_mapped?_eq_none (by omega) hmapped
        rw [hkept]
        exact isLower_of_simple hsigma hdotted hkept

/-- Every character that lower-casing writes for one is its own lower case. -/
theorem isLower_of_mem_ofChar {final : Bool} (h : d ∈ ofChar final c) : IsLower d := by
  unfold ofChar at h
  split at h
  · obtain rfl := List.mem_singleton.1 h
    refine isLower_small ?_
    cases final <;> decide
  · rename_i hsigma
    split at h
    · simp only [List.mem_cons, List.not_mem_nil, or_false] at h
      rcases h with rfl | rfl
      · exact isLower_of_ascii (by decide) (by decide)
      · exact isLower_small (by decide)
    · rename_i hdotted
      obtain rfl := List.mem_singleton.1 h
      exact isLower_simple hsigma hdotted

theorem isLower_of_mem_ofChars (h : c ∈ ofChars before word) : IsLower c := by
  induction word generalizing before with
  | nil => simp at h
  | cons d rest ih =>
      rw [ofChars_cons, List.mem_append] at h
      rcases h with hfirst | hrest
      · exact isLower_of_mem_ofChar hfirst
      · exact ih hrest

theorem within_of_isLower (h : ∀ c ∈ word, IsLower c) : within before word after = word := by
  induction word generalizing before with
  | nil => rfl
  | cons c rest ih =>
      rw [within, h c List.mem_cons_self, ih fun d hd => h d (List.mem_cons_of_mem c hd),
        List.singleton_append]

/-- What is in lower case occurs in the lower case of every text that it occurs in. -/
theorem occursIn_ofChars {text : List Char} (h : ∀ c ∈ word, IsLower c)
    (hoccurs : occursIn word text = true) : occursIn word (ofChars [] text) = true := by
  obtain ⟨before, after, rfl⟩ := occursIn_iff.1 hoccurs
  rw [ofChars_append, ofChars_append, within_of_isLower h, occursIn_iff]
  exact ⟨_, _, rfl⟩

end LowerCase

/-- A text in lower case is found in lower case in every text that contains it. -/
theorem containsText_lowerCase_of_containsText {text needle : String}
    (h : containsText text (lowerCase needle) = true) :
    containsText (lowerCase text) (lowerCase needle) = true := by
  rw [containsText, lowerCase, String.toList_ofList] at h
  rw [containsText_lowerCase]
  exact LowerCase.occursIn_ofChars (fun _ => LowerCase.isLower_of_mem_ofChars) h

end InferenceFleet.Text
