import InferenceFleet.Proofs.Text.Lowered
import InferenceFleet.Routing.Policy

/-!
# Keywords that stand in the prompt

A configured policy gives a prompt the category of its first rule that is found in it, and a rule
is found if its keyword in lower case occurs in the prompt in lower case. A keyword in the lower
case that the policy keeps is found in every prompt that contains it. As the configuration writes
it, a keyword is found in a prompt that contains it whenever its capital sigmas keep their forms
there. Keywords without a capital sigma always do, and so all built-in ones; but a stem such as
`ΑΝΑΛΥΣ` ends in a final sigma in lower case, which no longer word has in this place, and then the
prompt may be left to the default category.
-/

namespace InferenceFleet

open Text (containsText lowerCase)
open Text.LowerCase (KeepsForm Steady)

/-- Whether the rule's keyword occurs in the prompt, both in lower case. -/
def KeywordRule.isFound (rule : KeywordRule) (prompt : String) : Bool :=
  containsText (lowerCase prompt) (lowerCase rule.keyword)

/-- The rule with its keyword in lower case. -/
def KeywordRule.lowered (rule : KeywordRule) : KeywordRule :=
  ⟨lowerCase rule.keyword, rule.category⟩

namespace Policy

variable {s : PolicySettings} {prompt : String} {i j : Nat} {rule : KeywordRule}

/-- The rules of a configured policy as they were written, in the order they are tried. -/
def givenRules (s : PolicySettings) : List KeywordRule :=
  s.keywords ++ builtinRules

/-- The rule at position `j` is found in the prompt and none before it is. -/
structure IsFirstFound (s : PolicySettings) (prompt : String) (j : Nat) (rule : KeywordRule) :
    Prop where
  given : (givenRules s)[j]? = some rule
  found : rule.isFound prompt = true
  first : ∀ k < j, ∀ earlier, (givenRules s)[k]? = some earlier → earlier.isFound prompt = false

/-- The prompt gets its category from the first rule found in it, and this rule stands at position
`i` or before. -/
def DecidedBy (s : PolicySettings) (prompt : String) (i : Nat) : Prop :=
  ∃ j rule, j ≤ i ∧ IsFirstFound s prompt j rule ∧ (ofSettings s).classify prompt = rule.category

/-- The built-in keywords are in lower case. -/
theorem builtinRules_lowered : builtinRules.map KeywordRule.lowered = builtinRules := by
  decide +kernel

theorem keywords_ofSettings (s : PolicySettings) :
    (ofSettings s).keywords = (givenRules s).map KeywordRule.lowered := by
  rw [givenRules, List.map_append, builtinRules_lowered]
  rfl

theorem find?_keywords_ofSettings (s : PolicySettings) (prompt : String) :
    (ofSettings s).keywords.find? (fun r => containsText (lowerCase prompt) r.keyword) =
      ((givenRules s).find? (·.isFound prompt)).map KeywordRule.lowered := by
  rw [keywords_ofSettings, List.find?_map]
  rfl

theorem IsFirstFound.find?_eq (h : IsFirstFound s prompt j rule) :
    (givenRules s).find? (·.isFound prompt) = some rule := by
  obtain ⟨hj, hrule⟩ := List.getElem?_eq_some_iff.1 h.given
  refine List.find?_eq_some_iff_getElem.2 ⟨h.found, j, hj, hrule, fun k hk => ?_⟩
  rw [h.first k hk _ (List.getElem?_eq_getElem _), Bool.not_false]

theorem IsFirstFound.classify_eq (h : IsFirstFound s prompt j rule) :
    (ofSettings s).classify prompt = rule.category := by
  rw [classify, find?_keywords_ofSettings, h.find?_eq]
  rfl

/-- Where a rule is found, a first one is found, and not after it. -/
theorem exists_isFirstFound (hgiven : (givenRules s)[i]? = some rule)
    (hfound : rule.isFound prompt = true) :
    ∃ j, j ≤ i ∧ ∃ first, IsFirstFound s prompt j first := by
  have hsome : ((givenRules s).find? (·.isFound prompt)).isSome = true :=
    List.find?_isSome.2 ⟨rule, List.mem_of_getElem? hgiven, hfound⟩
  obtain ⟨first, hfirst⟩ := Option.isSome_iff_exists.1 hsome
  obtain ⟨hfirstFound, j, hj, hjfirst, hbefore⟩ := List.find?_eq_some_iff_getElem.1 hfirst
  have hearlier : ∀ k < j, ∀ earlier, (givenRules s)[k]? = some earlier →
      earlier.isFound prompt = false := by
    intro k hk earlier hearlier
    obtain ⟨_, rfl⟩ := List.getElem?_eq_some_iff.1 hearlier
    simpa using hbefore k hk
  refine ⟨j, Nat.le_of_not_lt fun hij => ?_, first, ?_⟩
  · rw [hearlier i hij rule hgiven] at hfound
    contradiction
  · exact ⟨List.getElem?_eq_some_iff.2 ⟨hj, hjfirst⟩, hfirstFound, hearlier⟩

theorem decidedBy_of_isFound (hgiven : (givenRules s)[i]? = some rule)
    (hfound : rule.isFound prompt = true) : DecidedBy s prompt i := by
  obtain ⟨j, hj, first, hfirst⟩ := exists_isFirstFound hgiven hfound
  exact ⟨j, first, hj, hfirst, hfirst.classify_eq⟩

theorem isFound_of_keepsForm {before after : List Char}
    (hprompt : prompt.toList = before ++ (rule.keyword.toList ++ after))
    (hform : KeepsForm before.reverse rule.keyword.toList after) :
    rule.isFound prompt = true := by
  rw [KeywordRule.isFound, Text.containsText_lowerCase, hprompt]
  exact hform.occursIn

theorem keywords_getElem?_of_given (hgiven : (givenRules s)[i]? = some rule) :
    (ofSettings s).keywords[i]? = some rule.lowered := by
  rw [keywords_ofSettings, List.getElem?_map, hgiven, Option.map_some]

/-- The keyword that the policy keeps for a rule is found in every prompt that contains it. -/
theorem isFound_of_contains_lowered (hprompt : containsText prompt rule.lowered.keyword = true) :
    rule.isFound prompt = true :=
  Text.containsText_lowerCase_of_containsText hprompt

/-- Settings of one keyword and nothing else. -/
def onlyKeyword (rule : KeywordRule) : PolicySettings :=
  { PolicySettings.none with keywords := [rule] }

theorem givenRules_onlyKeyword (rule : KeywordRule) :
    (givenRules (onlyKeyword rule))[0]? = some rule :=
  rfl

/-- With one keyword, the rule at the front decides only if this keyword is found. -/
theorem isFound_of_decidedBy_onlyKeyword (h : DecidedBy (onlyKeyword rule) prompt 0) :
    rule.isFound prompt = true := by
  obtain ⟨j, first, hj, hfirst, -⟩ := h
  obtain rfl := Nat.le_zero.1 hj
  rw [← Option.some.inj (hfirst.given.symm.trans (givenRules_onlyKeyword rule))]
  exact hfirst.found

theorem no_sigma_builtinRules : ∀ rule ∈ builtinRules, 'Σ' ∉ rule.keyword.toList := by
  decide +kernel

open Text.LowerCase in
theorem lowerCase_stem : lowerCase "ΑΝΑΛΥΣ" = "αναλυς" ∧ lowerCase "ΑΝΑΛΥΣΗ" = "αναλυση" := by
  have hcased : isCased 'Η' = true ∧ isCased 'Υ' = true :=
    ⟨isCased_letters _ (by decide), isCased_letters _ (by decide)⟩
  have hstops : isIgnorable 'Η' = false ∧ isIgnorable 'Υ' = false :=
    ⟨isIgnorable_letters _ (by decide), isIgnorable_letters _ (by decide)⟩
  have hstem : ofChars [] "ΑΝΑΛΥΣ".toList = "αναλυς".toList := by
    simp [ofChars_cons, ofChar, isFinal, meetsCased_cons, hcased, hstops, simple_letters]
  have hword : ofChars [] "ΑΝΑΛΥΣΗ".toList = "αναλυση".toList := by
    simp [ofChars_cons, ofChar, isFinal, meetsCased_cons, hcased, hstops, simple_letters]
  rw [lowerCase, hstem, lowerCase, hword, String.ofList_toList, String.ofList_toList]
  exact ⟨rfl, rfl⟩

/-- Where the keyword of a rule stands in the prompt in the lower case that the policy keeps, or as
it was written with its capital sigmas keeping their forms, this rule or an earlier one decides. As
it was written, a keyword does so in every prompt that contains it and under all settings exactly if
it is steady, as all built-in ones are. -/
theorem keyword_in_prompt_decides (rule : KeywordRule) :
    (∀ s prompt i, (givenRules s)[i]? = some rule →
      (ofSettings s).keywords[i]? = some rule.lowered ∧
      (containsText prompt rule.lowered.keyword = true → DecidedBy s prompt i) ∧
      ∀ before after, prompt.toList = before ++ (rule.keyword.toList ++ after) →
        KeepsForm before.reverse rule.keyword.toList after → DecidedBy s prompt i) ∧
    ((∀ s prompt i, (givenRules s)[i]? = some rule → containsText prompt rule.keyword = true →
      DecidedBy s prompt i) ↔ Steady rule.keyword.toList) ∧
    (rule ∈ builtinRules → Steady rule.keyword.toList) := by
  refine ⟨fun s prompt i hgiven => ⟨keywords_getElem?_of_given hgiven, fun hprompt => ?_,
    fun before after hprompt hform => ?_⟩, ?_, fun hbuiltin => ?_⟩
  · exact decidedBy_of_isFound hgiven (isFound_of_contains_lowered hprompt)
  · exact decidedBy_of_isFound hgiven (isFound_of_keepsForm hprompt hform)
  · rw [Text.steady_iff_containsText_lowerCase]
    constructor
    · intro hall prompt hprompt
      have hdecided := hall (onlyKeyword rule) prompt 0 (givenRules_onlyKeyword rule) hprompt
      exact isFound_of_decidedBy_onlyKeyword hdecided
    · intro hfound s prompt i hgiven hprompt
      exact decidedBy_of_isFound hgiven (hfound prompt hprompt)
  · exact Text.LowerCase.steady_of_no_sigma (no_sigma_builtinRules rule hbuiltin)

open Text.LowerCase in
/-- A stem that ends in a sigma decides where it stands in lower case and, as it is written, at the
end of a word; with one more letter it decides inside a word. -/
theorem keyword_in_prompt_decides_stems :
    (ofSettings (onlyKeyword ⟨"ΑΝΑΛΥΣ", "analysis"⟩)).keywords[0]? =
      some ⟨"αναλυς", "analysis"⟩ ∧
    containsText "ΤΙ αναλυς" "αναλυς" = true ∧
    DecidedBy (onlyKeyword ⟨"ΑΝΑΛΥΣ", "analysis"⟩) "ΤΙ αναλυς" 0 ∧
    "ΑΝΑΛΥΣ".toList = ['Α', 'Ν', 'Α'] ++ ("ΛΥΣ".toList ++ []) ∧
    KeepsForm ['Α', 'Ν', 'Α'].reverse "ΛΥΣ".toList [] ∧
    DecidedBy (onlyKeyword ⟨"ΛΥΣ", "analysis"⟩) "ΑΝΑΛΥΣ" 0 ∧
    Steady "ΛΥΣΗ".toList ∧
    containsText "ΑΝΑΛΥΣΗ" "ΛΥΣΗ" = true ∧
    DecidedBy (onlyKeyword ⟨"ΛΥΣΗ", "analysis"⟩) "ΑΝΑΛΥΣΗ" 0 := by
  have hkept : (ofSettings (onlyKeyword ⟨"ΑΝΑΛΥΣ", "analysis"⟩)).keywords[0]? =
      some ⟨"αναλυς", "analysis"⟩ := by
    rw [← lowerCase_stem.1]
    rfl
  have hlambda : isIgnorable 'Λ' = false := isIgnorable_letters _ (by decide)
  have heta : isIgnorable 'Η' = false := isIgnorable_letters _ (by decide)
  have hupsilon : isIgnorable 'Υ' = false := isIgnorable_letters _ (by decide)
  have hform : KeepsForm ['Α', 'Ν', 'Α'].reverse "ΛΥΣ".toList [] := by
    intro x y hword
    have hsplit : ['Λ', 'Υ'] ++ 'Σ' :: [] = x ++ 'Σ' :: y := hword
    obtain ⟨rfl, -, rfl⟩ := (List.append_cons_inj_of_notMem (by decide) (by decide)).1 hsplit
    simp [isFinal, meetsCased_cons, hupsilon]
  have hsteady : Steady "ΛΥΣΗ".toList :=
    (steady_one_sigma_iff (x := ['Λ', 'Υ']) (y := ['Η']) (by decide) (by decide)).2
      (by simp [isBare, hlambda, heta])
  refine ⟨hkept, by decide, ?_, by decide, hform, ?_, hsteady, by decide, ?_⟩
  · obtain ⟨-, hlowered, -⟩ := (keyword_in_prompt_decides ⟨"ΑΝΑΛΥΣ", "analysis"⟩).1 _
      "ΤΙ αναλυς" 0 (givenRules_onlyKeyword _)
    rw [KeywordRule.lowered, lowerCase_stem.1] at hlowered
    exact hlowered (by decide)
  · obtain ⟨-, -, hwritten⟩ := (keyword_in_prompt_decides ⟨"ΛΥΣ", "analysis"⟩).1 _
      "ΑΝΑΛΥΣ" 0 (givenRules_onlyKeyword _)
    exact hwritten ['Α', 'Ν', 'Α'] [] (by decide) hform
  · exact (keyword_in_prompt_decides ⟨"ΛΥΣΗ", "analysis"⟩).2.1.2 hsteady _ _ 0
      (givenRules_onlyKeyword _) (by decide)

/-- The keyword stands at the beginning of the prompt and is not found, because in lower case it
ends in a final sigma and the prompt goes on. -/
theorem keyword_in_prompt_is_missed :
    (givenRules (onlyKeyword ⟨"ΑΝΑΛΥΣ", "analysis"⟩))[0]? = some ⟨"ΑΝΑΛΥΣ", "analysis"⟩ ∧
    containsText "ΑΝΑΛΥΣΗ" "ΑΝΑΛΥΣ" = true ∧
    (ofSettings (onlyKeyword ⟨"ΑΝΑΛΥΣ", "analysis"⟩)).classify "ΑΝΑΛΥΣΗ" = generalCategory ∧
    ¬ DecidedBy (onlyKeyword ⟨"ΑΝΑΛΥΣ", "analysis"⟩) "ΑΝΑΛΥΣΗ" 0 := by
  obtain ⟨hstem, hword⟩ := lowerCase_stem
  have hnone : (⟨lowerCase "ΑΝΑΛΥΣ", "analysis"⟩ :: builtinRules).find?
      (fun r => containsText (lowerCase "ΑΝΑΛΥΣΗ") r.keyword) = none := by
    rw [hstem, hword]
    decide +kernel
  have hmissed : KeywordRule.isFound ⟨"ΑΝΑΛΥΣ", "analysis"⟩ "ΑΝΑΛΥΣΗ" = false := by
    rw [KeywordRule.isFound, hstem, hword]
    decide +kernel
  refine ⟨givenRules_onlyKeyword _, by decide, ?_, fun hdecided => ?_⟩
  · have hkeywords : (ofSettings (onlyKeyword ⟨"ΑΝΑΛΥΣ", "analysis"⟩)).keywords =
        ⟨lowerCase "ΑΝΑΛΥΣ", "analysis"⟩ :: builtinRules := rfl
    rw [classify, hkeywords, hnone]
    rfl
  · exact Bool.eq_false_iff.1 hmissed (isFound_of_decidedBy_onlyKeyword hdecided)

end Policy

end InferenceFleet
