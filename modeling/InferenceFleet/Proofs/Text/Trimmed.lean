import InferenceFleet.Proofs.Text.Lowered

/-!
# Trimmed texts in lower case

A text is trimmed exactly if neither end of it is a blank (`trimChars_eq_self_iff`). Lower-casing
neither makes a blank nor loses one: the runs of its table hold no blank and have none for a target.
So a text is trimmed in lower case exactly if it was trimmed before (`trim_lowerCase_eq_iff`). Nor
does the case of ASCII letters matter to it, since such a letter is cased in either form.
-/

namespace InferenceFleet.Text

variable {cs : List Char} {c d : Char}

theorem skipBlanks_eq_self_iff : skipBlanks cs = cs ↔ cs.head?.any isBlank = false := by
  cases cs with
  | nil => simp [skipBlanks]
  | cons c rest =>
      constructor
      · intro h
        have hhead := List.head?_dropWhile_not isBlank (c :: rest)
        rw [← skipBlanks, h] at hhead
        simpa using hhead
      · exact skipBlanks_cons_of_not

/-- What a text begins with, once its leading blanks are skipped, does not begin with a blank. -/
theorem skipBlanks_of_append {cs start rest : List Char} (h : skipBlanks cs = start ++ rest) :
    skipBlanks start = start := by
  cases start with
  | nil => rfl
  | cons c start =>
      refine skipBlanks_cons_of_not ?_
      have hhead := List.head?_dropWhile_not isBlank cs
      rw [← skipBlanks, h] at hhead
      simpa using hhead

theorem skipBlanks_trimChars (cs : List Char) : skipBlanks (trimChars cs) = trimChars cs := by
  obtain ⟨cut, hcut⟩ : skipBlanks (skipBlanks cs).reverse <:+ (skipBlanks cs).reverse :=
    List.dropWhile_suffix _
  have hstart : skipBlanks cs = trimChars cs ++ cut.reverse := by
    rw [trimChars, ← List.reverse_append, hcut, List.reverse_reverse]
  exact skipBlanks_of_append hstart

theorem trimChars_trimChars (cs : List Char) : trimChars (trimChars cs) = trimChars cs := by
  rw [trimChars, skipBlanks_trimChars, trimChars, List.reverse_reverse, skipBlanks_skipBlanks]

theorem trim_trim (s : String) : trim (trim s) = trim s := by
  simp only [trim, String.toList_ofList, trimChars_trimChars]

/-- Nothing is cut off exactly if neither end is a blank. -/
theorem trimChars_eq_self_iff :
    trimChars cs = cs ↔ cs.head?.any isBlank = false ∧ cs.getLast?.any isBlank = false := by
  rw [← List.head?_reverse, ← skipBlanks_eq_self_iff, ← skipBlanks_eq_self_iff]
  constructor
  · intro h
    have hstart : skipBlanks cs = cs := by
      rw [← h, skipBlanks_trimChars]
    rw [trimChars, hstart] at h
    exact ⟨hstart, by rw [← List.reverse_reverse (skipBlanks cs.reverse), h]⟩
  · rintro ⟨hstart, hend⟩
    rw [trimChars, hstart, hend, List.reverse_reverse]

theorem trim_eq_self_iff {s : String} : trim s = s ↔ trimChars s.toList = s.toList := by
  rw [← String.toList_inj, trim, String.toList_ofList]

/-- The blanks, as runs. -/
def blankRuns : List Run :=
  [⟨0x9, 0xD, 1, 0x9⟩, ⟨0x20, 0x20, 1, 0x20⟩, ⟨0x85, 0x85, 1, 0x85⟩, ⟨0xA0, 0xA0, 1, 0xA0⟩,
    ⟨0x1680, 0x1680, 1, 0x1680⟩, ⟨0x2000, 0x200A, 1, 0x2000⟩, ⟨0x2028, 0x2029, 1, 0x2028⟩,
    ⟨0x202F, 0x202F, 1, 0x202F⟩, ⟨0x205F, 0x205F, 1, 0x205F⟩, ⟨0x3000, 0x3000, 1, 0x3000⟩]

theorem isBlank_eq_false_of_runs (h : ∀ r ∈ blankRuns, ¬ r.Has c.toNat) : isBlank c = false := by
  simp only [blankRuns, Run.Has, List.forall_mem_cons, List.not_mem_nil, false_implies,
    implies_true, and_true, Nat.mod_one] at h
  simp only [isBlank, Bool.or_eq_false_iff, Bool.and_eq_false_iff, decide_eq_false_iff_not,
    beq_eq_false_iff_ne]
  omega

namespace LowerCase

/-- No run of the table is mapped to a blank or holds one; that it holds none is to say that it
would be mapped to none if it stayed where it is. -/
theorem misses_blankRuns :
    ∀ r ∈ mappings.toList, ∀ b ∈ blankRuns,
      r.misses b = true ∧ Run.misses { r with target := r.first } b = true := by
  have hall : (mappings.toList.all fun r => blankRuns.all fun b =>
      r.misses b && Run.misses { r with target := r.first } b) = true := by
    unfold mappings runsOf
    rw [rowsOf_ofList]
    decide +kernel
  intro r hr b hb
  exact (Bool.and_eq_true _ _).mp (List.all_eq_true.1 (List.all_eq_true.1 hall r hr) b hb)

theorem isBlank_of_mapped (h : mapped? mappings c = some d) :
    isBlank c = false ∧ isBlank d = false := by
  obtain ⟨run, hrun, hhas, hd⟩ := mapped?_eq_some h
  have hrun' := Array.mem_toList_iff.2 hrun
  obtain ⟨hfit, -⟩ := misses_mappings run hrun'
  obtain ⟨hvalue, -⟩ := hhas.toNat_ofNat_image hfit
  rw [← hd] at hvalue
  constructor
  · refine isBlank_eq_false_of_runs fun b hb => ?_
    have hmiss := (misses_blankRuns run hrun' b hb).2
    have hstays : Run.image { run with target := run.first } c.toNat = c.toNat :=
      Nat.add_sub_of_le hhas.1
    rw [← hstays]
    exact Run.Has.not_has_image (r := { run with target := run.first }) hhas hmiss
  · refine isBlank_eq_false_of_runs fun b hb => ?_
    rw [hvalue]
    exact hhas.not_has_image (misses_blankRuns run hrun' b hb).1

theorem isBlank_simple (c : Char) : isBlank (simple c) = isBlank c := by
  by_cases hascii : c.toNat < 0x80
  · rw [simple, if_pos hascii]
    exact forall_ascii (p := fun c => isBlank c.toLower = isBlank c) (by decide) hascii
  · rw [simple, if_neg hascii]
    cases hmapped : mapped? mappings c with
    | none => rfl
    | some d =>
        obtain ⟨hc, hd⟩ := isBlank_of_mapped hmapped
        rw [Option.getD_some, hd, hc]

/-- Lower-casing writes blanks for blanks and for nothing else. -/
theorem isBlank_of_mem_ofChar {final : Bool} (h : d ∈ ofChar final c) : isBlank d = isBlank c := by
  unfold ofChar at h
  split at h
  · next hsigma =>
      obtain rfl := List.mem_singleton.1 h
      rw [hsigma]
      cases final <;> decide
  · split at h
    · next hdotted =>
        rw [hdotted]
        simp only [List.mem_cons, List.not_mem_nil, or_false] at h
        rcases h with rfl | rfl <;> decide
    · obtain rfl := List.mem_singleton.1 h
      exact isBlank_simple c

theorem ofChar_ne_nil (final : Bool) (c : Char) : ofChar final c ≠ [] := by
  unfold ofChar
  split
  · exact List.cons_ne_nil _ _
  · split <;> exact List.cons_ne_nil _ _

theorem any_isBlank_head?_ofChars (before cs : List Char) :
    (ofChars before cs).head?.any isBlank = cs.head?.any isBlank := by
  cases cs with
  | nil => rfl
  | cons c rest =>
      obtain ⟨d, ds, hd⟩ := List.exists_cons_of_ne_nil (ofChar_ne_nil (isFinal before rest) c)
      rw [ofChars_cons, hd]
      exact isBlank_of_mem_ofChar (hd ▸ List.mem_cons_self)

theorem any_isBlank_getLast?_ofChars (before cs : List Char) :
    (ofChars before cs).getLast?.any isBlank = cs.getLast?.any isBlank := by
  rcases List.eq_nil_or_concat' cs with rfl | ⟨front, c, rfl⟩
  · rfl
  · have hne := ofChar_ne_nil (isFinal (front.reverse ++ before) []) c
    rw [ofChars_append, ofChars_cons, ofChars_nil, List.append_nil,
      List.getLast?_append_of_ne_nil _ hne, List.getLast?_concat, List.getLast?_eq_some_getLast hne]
    exact isBlank_of_mem_ofChar (List.getLast_mem hne)

/-- The letters of ASCII. -/
def asciiLetters : List Char :=
  (List.range 26).flatMap fun n => [Char.ofNat (0x41 + n), Char.ofNat (0x61 + n)]

theorem isCased_asciiLetters : ∀ c ∈ asciiLetters, isCased c = true := by
  have hall : asciiLetters.all isCased = true := by
    unfold isCased cased rangesOf
    rw [rowsOf_ofList]
    decide +kernel
  exact List.all_eq_true.1 hall

theorem isIgnorable_asciiLetters : ∀ c ∈ asciiLetters, isIgnorable c = false := by
  have hnone : asciiLetters.any isIgnorable = false := by
    unfold isIgnorable ignorable rangesOf
    rw [rowsOf_ofList]
    decide +kernel
  simpa using hnone

theorem toLower_eq_or_mem_asciiLetters (c : Char) :
    c.toLower = c ∨ c ∈ asciiLetters ∧ c.toLower ∈ asciiLetters := by
  by_cases hascii : c.toNat < 0x80
  · exact forall_ascii
      (p := fun c => c.toLower = c ∨ c ∈ asciiLetters ∧ c.toLower ∈ asciiLetters)
      (by decide) hascii
  · exact .inl (toLower_eq_self (by omega))

theorem isCased_toLower (c : Char) : isCased c.toLower = isCased c := by
  rcases toLower_eq_or_mem_asciiLetters c with hsame | ⟨hc, hlower⟩
  · rw [hsame]
  · rw [isCased_asciiLetters c hc, isCased_asciiLetters _ hlower]

theorem isIgnorable_toLower (c : Char) : isIgnorable c.toLower = isIgnorable c := by
  rcases toLower_eq_or_mem_asciiLetters c with hsame | ⟨hc, hlower⟩
  · rw [hsame]
  · rw [isIgnorable_asciiLetters c hc, isIgnorable_asciiLetters _ hlower]

theorem ofChar_toLower (final : Bool) (c : Char) : ofChar final c.toLower = ofChar final c := by
  by_cases hascii : c.toNat < 0x80
  · have hsigma : c ≠ 'Σ' := by
      rintro rfl
      exact absurd hascii (by decide)
    have hdotted : c ≠ 'İ' := by
      rintro rfl
      exact absurd hascii (by decide)
    rw [isLower_toLower hascii, ofChar, if_neg hsigma, if_neg hdotted, simple, if_pos hascii]
  · rw [toLower_eq_self (by omega)]

theorem meetsCased_map_toLower (cs : List Char) :
    meetsCased (cs.map Char.toLower) = meetsCased cs := by
  induction cs with
  | nil => rfl
  | cons c cs ih =>
      rw [List.map_cons, meetsCased_cons, meetsCased_cons, isIgnorable_toLower, isCased_toLower, ih]

/-- The case of ASCII letters is lost, and decides nothing about the sigmas between them. -/
theorem ofChars_map_toLower (before cs : List Char) :
    ofChars (before.map Char.toLower) (cs.map Char.toLower) = ofChars before cs := by
  induction cs generalizing before with
  | nil => rfl
  | cons c cs ih =>
      have hfinal : isFinal (before.map Char.toLower) (cs.map Char.toLower) =
          isFinal before cs := by
        rw [isFinal, isFinal, meetsCased_map_toLower, meetsCased_map_toLower]
      have hrest := ih (c :: before)
      rw [List.map_cons] at hrest
      rw [List.map_cons, ofChars_cons, ofChars_cons, hfinal, ofChar_toLower, hrest]

end LowerCase

/-- A text is trimmed in lower case exactly if it was trimmed before. -/
theorem trim_lowerCase_eq_iff {s : String} : trim (lowerCase s) = lowerCase s ↔ trim s = s := by
  rw [trim_eq_self_iff, trim_eq_self_iff, trimChars_eq_self_iff, trimChars_eq_self_iff, lowerCase,
    String.toList_ofList, LowerCase.any_isBlank_head?_ofChars,
    LowerCase.any_isBlank_getLast?_ofChars]

theorem lowerCase_foldAscii (s : String) : lowerCase (foldAscii s) = lowerCase s := by
  rw [lowerCase, lowerCase, foldAscii, String.toList_ofList]
  exact congrArg String.ofList (LowerCase.ofChars_map_toLower [] s.toList)

/-- Texts that differ in the case of ASCII letters only are the same in lower case. -/
theorem lowerCase_eq_of_sameUpToAsciiCase {s t : String} (h : sameUpToAsciiCase s t = true) :
    lowerCase s = lowerCase t := by
  rw [← lowerCase_foldAscii s, sameUpToAsciiCase_iff.1 h, lowerCase_foldAscii]

end InferenceFleet.Text
