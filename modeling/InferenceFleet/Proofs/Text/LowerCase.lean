import InferenceFleet.Text.LowerCase
import Mathlib.Data.List.Basic

/-!
# Lower case of a text inside another

Lower-casing goes character by character, and only the form of a capital sigma depends on what
stands around it. So a text inside a longer one is lower-cased there as it is on its own exactly
if its sigmas keep their forms (`within_eq_ofChars_iff`). Some texts keep them wherever they stand,
those without a capital sigma first of all; they are the steady ones, and no other text is found in
lower case in every text that contains it (`steady_iff_found`).
-/

namespace InferenceFleet.Text.LowerCase

variable {before before' after after' word : List Char}

/-- The lower case of a stretch of characters where it stands; `before` is what precedes it, last
character first. -/
def within (before : List Char) : List Char → List Char → List Char
  | [], _ => []
  | c :: rest, after => ofChar (isFinal before (rest ++ after)) c ++ within (c :: before) rest after

theorem ofChars_append (before word after : List Char) :
    ofChars before (word ++ after) =
      within before word after ++ ofChars (word.reverse ++ before) after := by
  induction word generalizing before with
  | nil => rfl
  | cons c rest ih =>
      rw [List.cons_append, ofChars_cons, ih, within, List.append_assoc, List.reverse_cons,
        List.append_assoc, List.singleton_append]

theorem within_nil (before word : List Char) : within before word [] = ofChars before word := by
  simpa using (ofChars_append before word []).symm

theorem length_ofChar (final final' : Bool) (c : Char) :
    (ofChar final c).length = (ofChar final' c).length := by
  unfold ofChar
  split
  · rfl
  · split <;> rfl

/-- How long the lower case of a stretch is does not depend on where it stands. -/
theorem length_within (before before' word after after' : List Char) :
    (within before word after).length = (within before' word after').length := by
  induction word generalizing before before' with
  | nil => rfl
  | cons c rest ih =>
      rw [within, within, List.length_append, List.length_append,
        length_ofChar _ (isFinal before' (rest ++ after')), ih (c :: before) (c :: before')]

theorem ofChar_eq_ofChar_iff {final final' : Bool} {c : Char} :
    ofChar final c = ofChar final' c ↔ (c = 'Σ' → final = final') := by
  by_cases hc : c = 'Σ'
  · subst hc
    cases final <;> cases final' <;> decide
  · simp [ofChar, hc]

/-- Two places give a stretch the same lower case exactly if they give each of its capital sigmas
the same form. -/
theorem within_eq_within_iff :
    within before word after = within before' word after' ↔
      ∀ x y, word = x ++ 'Σ' :: y →
        isFinal (x.reverse ++ before) (y ++ after) =
          isFinal (x.reverse ++ before') (y ++ after') := by
  induction word generalizing before before' with
  | nil => simp [within]
  | cons c rest ih =>
      have hlength := length_ofChar (isFinal before (rest ++ after))
        (isFinal before' (rest ++ after')) c
      have hparts : within before (c :: rest) after = within before' (c :: rest) after' ↔
          (c = 'Σ' → isFinal before (rest ++ after) = isFinal before' (rest ++ after')) ∧
            within (c :: before) rest after = within (c :: before') rest after' := by
        rw [within, within, ← ofChar_eq_ofChar_iff]
        exact ⟨fun h => List.append_inj h hlength, fun h => by rw [h.1, h.2]⟩
      rw [hparts, ih]
      constructor
      · rintro ⟨hfirst, hrest⟩ x y hword
        cases x with
        | nil =>
            obtain ⟨rfl, rfl⟩ := List.cons.inj hword
            exact hfirst rfl
        | cons d x =>
            obtain ⟨rfl, rfl⟩ := List.cons.inj hword
            simpa using hrest x y rfl
      · intro hall
        constructor
        · rintro rfl
          exact hall [] rest rfl
        · intro x y hrest
          simpa using hall (c :: x) y (by rw [hrest, List.cons_append])

/-- In this place every capital sigma of the stretch takes the form that it takes in the stretch on
its own. -/
def KeepsForm (before word after : List Char) : Prop :=
  ∀ x y, word = x ++ 'Σ' :: y → isFinal (x.reverse ++ before) (y ++ after) = isFinal x.reverse y

theorem within_eq_ofChars_iff :
    within before word after = ofChars [] word ↔ KeepsForm before word after := by
  simp [← within_nil, within_eq_within_iff, KeepsForm]

/-- A stretch that keeps its form is found in lower case where it stands. -/
theorem KeepsForm.occursIn (h : KeepsForm before.reverse word after) :
    occursIn (ofChars [] word) (ofChars [] (before ++ (word ++ after))) = true := by
  rw [occursIn_iff]
  refine ⟨within [] before (word ++ after), ofChars (word.reverse ++ before.reverse) after, ?_⟩
  rw [ofChars_append, List.append_nil, ofChars_append, within_eq_ofChars_iff.2 h]

/-- Nothing but characters that a search for a cased neighbour passes over. -/
def isBare (cs : List Char) : Bool :=
  cs.all isIgnorable

@[simp]
theorem isBare_reverse (cs : List Char) : isBare cs.reverse = isBare cs := by
  simp [isBare]

@[simp]
theorem meetsCased_nil : meetsCased [] = false :=
  rfl

theorem meetsCased_cons (c : Char) (cs : List Char) :
    meetsCased (c :: cs) = if isIgnorable c then meetsCased cs else isCased c := by
  rw [meetsCased, meetsCased, List.dropWhile_cons]
  cases isIgnorable c with
  | true => rw [if_pos rfl, if_pos rfl]
  | false => rw [if_neg Bool.false_ne_true, if_neg Bool.false_ne_true]

/-- A search goes on into what follows only if it has passed over everything so far. -/
theorem meetsCased_append (cs ds : List Char) :
    meetsCased (cs ++ ds) = if isBare cs then meetsCased ds else meetsCased cs := by
  induction cs with
  | nil => simp [isBare]
  | cons c cs ih =>
      rw [List.cons_append, meetsCased_cons, meetsCased_cons, ih]
      cases hc : isIgnorable c <;> simp [isBare, hc]

theorem meetsCased_of_isBare {cs : List Char} (h : isBare cs = true) : meetsCased cs = false := by
  have hnil := meetsCased_append cs []
  rwa [List.append_nil, if_pos h] at hnil

/-- Every capital sigma has its form from inside the stretch: if nothing that counts stands before
it, a cased character follows; if nothing that counts follows, no cased character stands before. -/
def Steady (word : List Char) : Prop :=
  ∀ x y, word = x ++ 'Σ' :: y →
    (isBare x = true → meetsCased y = true) ∧ (isBare y = true → meetsCased x.reverse = false)

theorem steady_of_no_sigma (h : 'Σ' ∉ word) : Steady word := by
  rintro x y rfl
  exact absurd (List.mem_append_right x List.mem_cons_self) h

theorem steady_one_sigma_iff {x y : List Char} (hx : 'Σ' ∉ x) (hy : 'Σ' ∉ y) :
    Steady (x ++ 'Σ' :: y) ↔
      (isBare x = true → meetsCased y = true) ∧
        (isBare y = true → meetsCased x.reverse = false) := by
  constructor
  · intro h
    exact h x y rfl
  · intro h front back hword
    obtain ⟨rfl, -, rfl⟩ := (List.append_cons_inj_of_notMem hx hy).1 hword
    exact h

/-- A steady stretch keeps its form in every place. -/
theorem Steady.keepsForm (h : Steady word) (before after : List Char) :
    KeepsForm before word after := by
  intro x y hword
  obtain ⟨hfirst, hlast⟩ := h x y hword
  rw [isFinal, isFinal, meetsCased_append, meetsCased_append, isBare_reverse]
  cases hx : isBare x with
  | true =>
      have hy : isBare y = false := by
        cases hy : isBare y with
        | true => rw [← hfirst hx, meetsCased_of_isBare hy]
        | false => rfl
      simp [hfirst hx, hy]
  | false =>
      cases hy : isBare y with
      | true => simp [hlast hy]
      | false => simp

/-- A character that is its own lower case wherever it stands. -/
def IsLower (c : Char) : Prop :=
  ∀ final, ofChar final c = [c]

/-- A letter that ends a search for a cased neighbour and is its own lower case. -/
structure IsSmallLetter (c : Char) : Prop where
  cased : isCased c = true
  stops : isIgnorable c = false
  lower : IsLower c

theorem IsSmallLetter.meetsCased {c : Char} (hc : IsSmallLetter c) : meetsCased [c] = true := by
  simp [meetsCased_cons, hc.stops, hc.cased]

/-- A stretch that keeps its form behind some small letter and before some is steady. -/
theorem steady_of_keepsForm {c d : Char} (hc : IsSmallLetter c) (hd : IsSmallLetter d)
    (hbefore : KeepsForm [c] word []) (hafter : KeepsForm [] word [d]) : Steady word := by
  intro x y hword
  constructor
  · intro hx
    have hform := hbefore x y hword
    rw [← isBare_reverse] at hx
    simpa [isFinal, meetsCased_append, hx, hc.meetsCased, meetsCased_of_isBare hx] using hform
  · intro hy
    have hform := hafter x y hword
    simpa [isFinal, meetsCased_append, hy, hd.meetsCased, meetsCased_of_isBare hy] using hform

/-- Some Latin and Greek letters. -/
def letters : List Char :=
  ['a', 'b', 'Α', 'Η', 'Λ', 'Ν', 'Υ']

theorem isCased_letters : ∀ c ∈ letters, isCased c = true := by
  have hall : letters.all isCased = true := by
    unfold isCased cased rangesOf
    rw [rowsOf_ofList]
    decide +kernel
  exact List.all_eq_true.1 hall

theorem isIgnorable_letters : ∀ c ∈ letters, isIgnorable c = false := by
  have hnone : letters.any isIgnorable = false := by
    unfold isIgnorable ignorable rangesOf
    rw [rowsOf_ofList]
    decide +kernel
  simpa using hnone

theorem simple_letters :
    simple 'Α' = 'α' ∧ simple 'Η' = 'η' ∧ simple 'Λ' = 'λ' ∧ simple 'Ν' = 'ν' ∧
      simple 'Υ' = 'υ' := by
  unfold simple mappings runsOf
  rw [rowsOf_ofList]
  decide +kernel

theorem isSmallLetter_a : IsSmallLetter 'a' :=
  ⟨isCased_letters _ (by decide), isIgnorable_letters _ (by decide), by unfold IsLower; decide⟩

theorem isSmallLetter_b : IsSmallLetter 'b' :=
  ⟨isCased_letters _ (by decide), isIgnorable_letters _ (by decide), by unfold IsLower; decide⟩

/-- There is a small letter besides any one character. -/
theorem exists_smallLetter_ne (taken : Option Char) : ∃ c, IsSmallLetter c ∧ taken ≠ some c := by
  by_cases ha : taken = some 'a'
  · exact ⟨'b', isSmallLetter_b, by rw [ha]; decide⟩
  · exact ⟨'a', isSmallLetter_a, ha⟩

theorem occursIn_reverse (needle text : List Char) :
    occursIn needle.reverse text.reverse = occursIn needle text := by
  rw [Bool.eq_iff_iff, occursIn_iff, occursIn_iff]
  constructor
  · rintro ⟨front, back, h⟩
    exact ⟨back.reverse, front.reverse, by simpa using congrArg List.reverse h⟩
  · rintro ⟨front, back, rfl⟩
    exact ⟨back.reverse, front.reverse, by simp⟩

/-- What occurs in a text of its own length is the text. -/
theorem eq_of_occursIn {needle text : List Char} (hlength : text.length = needle.length)
    (h : occursIn needle text = true) : text = needle := by
  obtain ⟨front, back, rfl⟩ := occursIn_iff.1 h
  simp only [List.length_append] at hlength
  obtain rfl := List.length_eq_zero_iff.1 (show front.length = 0 by omega)
  obtain rfl := List.length_eq_zero_iff.1 (show back.length = 0 by omega)
  simp

/-- What occurs behind a letter that it does not begin with occurs after that letter. -/
theorem eq_of_occursIn_cons {needle text : List Char} {c : Char}
    (hlength : text.length = needle.length) (hhead : needle.head? ≠ some c)
    (h : occursIn needle (c :: text) = true) : text = needle := by
  rw [occursIn, Bool.or_eq_true] at h
  rcases h with hprefix | hrest
  · cases needle with
    | nil => exact List.length_eq_zero_iff.1 hlength
    | cons d ds =>
        rw [List.isPrefixOf_iff_prefix, List.cons_prefix_cons] at hprefix
        exact absurd (congrArg some hprefix.1) hhead
  · exact eq_of_occursIn hlength hrest

/-- What occurs in a text before a letter that it does not end with is that text. -/
theorem eq_of_occursIn_concat {needle text : List Char} {c : Char}
    (hlength : text.length = needle.length) (hlast : needle.getLast? ≠ some c)
    (h : occursIn needle (text ++ [c]) = true) : text = needle := by
  rw [← occursIn_reverse, List.reverse_append, List.reverse_singleton] at h
  rw [← List.head?_reverse] at hlast
  exact List.reverse_inj.1 (eq_of_occursIn_cons (by simpa using hlength) hlast h)

theorem IsSmallLetter.keepsForm_after {c : Char} (hc : IsSmallLetter c)
    (hhead : (ofChars [] word).head? ≠ some c)
    (h : occursIn (ofChars [] word) (ofChars [] (c :: word)) = true) : KeepsForm [c] word [] := by
  rw [ofChars_cons, hc.lower, List.singleton_append, ← within_nil [c]] at h
  rw [← within_eq_ofChars_iff]
  refine eq_of_occursIn_cons ?_ hhead h
  rw [← within_nil, length_within]

theorem IsSmallLetter.keepsForm_before {c : Char} (hc : IsSmallLetter c)
    (hlast : (ofChars [] word).getLast? ≠ some c)
    (h : occursIn (ofChars [] word) (ofChars [] (word ++ [c])) = true) : KeepsForm [] word [c] := by
  rw [ofChars_append, ofChars_cons, hc.lower, ofChars_nil, List.append_nil] at h
  rw [← within_eq_ofChars_iff]
  refine eq_of_occursIn_concat ?_ hlast h
  rw [← within_nil, length_within]

/-- The steady stretches are those that are found in lower case in every text that contains them:
for any other, a letter in front of it or one behind it turns a sigma. -/
theorem steady_iff_found :
    Steady word ↔ ∀ before after,
      occursIn (ofChars [] word) (ofChars [] (before ++ (word ++ after))) = true := by
  constructor
  · intro h before after
    exact (h.keepsForm before.reverse after).occursIn
  · intro hfound
    obtain ⟨c, hc, hhead⟩ := exists_smallLetter_ne (ofChars [] word).head?
    obtain ⟨d, hd, hlast⟩ := exists_smallLetter_ne (ofChars [] word).getLast?
    have hbefore := hc.keepsForm_after hhead (by simpa using hfound [c] [])
    have hafter := hd.keepsForm_before hlast (by simpa using hfound [] [d])
    exact steady_of_keepsForm hc hd hbefore hafter

end InferenceFleet.Text.LowerCase

namespace InferenceFleet.Text

theorem containsText_lowerCase (text needle : String) :
    containsText (lowerCase text) (lowerCase needle) =
      occursIn (LowerCase.ofChars [] needle.toList) (LowerCase.ofChars [] text.toList) := by
  rw [containsText, lowerCase, lowerCase, String.toList_ofList, String.toList_ofList]

theorem containsText_iff {text needle : String} :
    containsText text needle = true ↔
      ∃ before after, text.toList = before ++ (needle.toList ++ after) :=
  occursIn_iff

/-- A text is steady exactly if lower-casing never loses it: whatever contains it contains it in
lower case as well. -/
theorem steady_iff_containsText_lowerCase {needle : String} :
    LowerCase.Steady needle.toList ↔
      ∀ text, containsText text needle = true →
        containsText (lowerCase text) (lowerCase needle) = true := by
  rw [LowerCase.steady_iff_found]
  constructor
  · intro hfound text htext
    obtain ⟨before, after, hsplit⟩ := containsText_iff.1 htext
    rw [containsText_lowerCase, hsplit]
    exact hfound before after
  · intro hfound before after
    have htext := hfound (String.ofList (before ++ (needle.toList ++ after)))
      (containsText_iff.2 ⟨before, after, String.toList_ofList⟩)
    rwa [containsText_lowerCase, String.toList_ofList] at htext

end InferenceFleet.Text
