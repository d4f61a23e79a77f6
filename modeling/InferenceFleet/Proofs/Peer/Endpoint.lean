import InferenceFleet.Peer.Basic
import InferenceFleet.Text.LowerCase

/-!
# Endpoints

The URL of an address is made of its host and its port, and brackets are put around a host that is a
literal without brackets. So two addresses have one URL exactly if they have one port and their hosts
are equal or one is the other between brackets (`baseUrl_eq_iff`). Nothing else is lost on the way:
the port is what stands after the last colon. A host that was read from a text is never one between
brackets, as reading takes them off.
-/

namespace InferenceFleet

namespace Text

/-- The numeral of a number is made of digits. -/
theorem isDigit_of_mem_numeral {n : Nat} {c : Char} (hc : c ∈ (numeral n).toList) :
    c.isDigit = true := by
  rw [numeral, String.toList_ofList] at hc
  exact Nat.isDigit_of_mem_toDigits (by decide) (by decide) hc

theorem numeral_injective : Function.Injective numeral := by
  intro m n heq
  have hdigits : Nat.toDigits 10 m = Nat.toDigits 10 n := String.ofList_injective heq
  have hread := congrArg (fun digits => Nat.ofDigitChars 10 digits 0) hdigits
  simpa [Nat.ofDigitChars_toDigits] using hread

/-- What stands before the last mark, and what stands after it. -/
theorem eq_and_eq_of_append_mark {mark : Char} {before before' after after' : List Char}
    (heq : before ++ mark :: after = before' ++ mark :: after') (hafter : mark ∉ after)
    (hafter' : mark ∉ after') : before = before' ∧ after = after' := by
  rcases List.append_eq_append_iff.1 heq with ⟨between, rfl, hrest⟩ | ⟨between, rfl, hrest⟩
  · cases between with
    | nil => exact ⟨(List.append_nil _).symm, (List.cons.inj hrest).2⟩
    | cons c between =>
        obtain ⟨-, rfl⟩ := List.cons.inj hrest
        exact absurd (List.mem_append_right _ List.mem_cons_self) hafter
  · cases between with
    | nil => exact ⟨List.append_nil _, (List.cons.inj hrest).2.symm⟩
    | cons c between =>
        obtain ⟨-, rfl⟩ := List.cons.inj hrest
        exact absurd (List.mem_append_right _ List.mem_cons_self) hafter'

end Text

namespace Address

/-- A host is a literal without brackets. -/
def IsBare (host : String) : Prop := ':' ∈ host.toList ∧ host.toList.head? ≠ some '['

/-- A host is another one between brackets, which is a literal without. -/
def Brackets (outer inner : String) : Prop := IsBare inner ∧ outer = "[" ++ inner ++ "]"

instance (host : String) : Decidable (IsBare host) := inferInstanceAs (Decidable (_ ∧ _))

instance (outer inner : String) : Decidable (Brackets outer inner) :=
  inferInstanceAs (Decidable (_ ∧ _))

theorem authorityHost_eq (host : String) :
    authorityHost host = if IsBare host then "[" ++ host ++ "]" else host := by
  have hopen : ['['].isPrefixOf host.toList = true ↔ host.toList.head? = some '[' := by
    rw [List.isPrefixOf_iff_prefix]
    cases host.toList with
    | nil => simp
    | cons c cs => simp [eq_comm]
  have hbare : (host.toList.contains ':' && !(['['].isPrefixOf host.toList)) = true ↔
      IsBare host := by
    rw [Bool.and_eq_true, List.contains_iff_mem, Bool.not_eq_true', ← Bool.not_eq_true, hopen]
    rfl
  unfold authorityHost
  simp only [hbare]

theorem Brackets.not_isBare {outer inner : String} (h : Brackets outer inner) : ¬ IsBare outer := by
  rintro ⟨-, hhead⟩
  rw [h.2] at hhead
  simp at hhead

/-- A host and the same between brackets are not the same host to those who compare hosts. -/
theorem Brackets.not_same {outer inner : String} (h : Brackets outer inner) :
    Text.sameUpToAsciiCase outer inner = false := by
  rw [Bool.eq_false_iff]
  intro hsame
  have hlength := congrArg (fun s => s.toList.length) (Text.sameUpToAsciiCase_iff.1 hsame)
  simp only [Text.foldAscii, String.toList_ofList, List.length_map, h.2, String.toList_append,
    List.length_append] at hlength
  have hbrackets : "[".toList.length = 1 ∧ "]".toList.length = 1 := by decide
  omega

/-- Two hosts are written alike in a URL exactly if they are equal or one is the other between
brackets. -/
theorem authorityHost_eq_iff {host host' : String} :
    authorityHost host = authorityHost host' ↔
      host = host' ∨ Brackets host host' ∨ Brackets host' host := by
  constructor
  · intro heq
    rw [authorityHost_eq, authorityHost_eq] at heq
    by_cases hbare : IsBare host <;> by_cases hbare' : IsBare host'
    · rw [if_pos hbare, if_pos hbare'] at heq
      have hlists := congrArg String.toList heq
      simp only [String.toList_append, List.append_cancel_left_eq,
        List.append_cancel_right_eq] at hlists
      exact .inl (String.toList_injective hlists)
    · rw [if_pos hbare, if_neg hbare'] at heq
      exact .inr (.inr ⟨hbare, heq.symm⟩)
    · rw [if_neg hbare, if_pos hbare'] at heq
      exact .inr (.inl ⟨hbare', heq⟩)
    · rw [if_neg hbare, if_neg hbare'] at heq
      exact .inl heq
  · rintro (rfl | hbrackets | hbrackets)
    · rfl
    · rw [authorityHost_eq host, if_neg hbrackets.not_isBare, authorityHost_eq host',
        if_pos hbrackets.1]
      exact hbrackets.2
    · rw [authorityHost_eq host', if_neg hbrackets.not_isBare, authorityHost_eq host,
        if_pos hbrackets.1]
      exact hbrackets.2.symm

/-- Two addresses have one URL exactly if they have one port, and their hosts are equal or one is
the other between brackets. -/
theorem baseUrl_eq_iff {a b : Address} :
    a.baseUrl = b.baseUrl ↔
      a.port = b.port ∧ (a.host = b.host ∨ Brackets a.host b.host ∨ Brackets b.host a.host) := by
  rw [← authorityHost_eq_iff]
  constructor
  · intro heq
    -- The port is a numeral, so the last colon of the URL is the one before it.
    have hcolon : ∀ n, ':' ∉ (Text.numeral n).toList := by
      intro n hmem
      exact absurd (Text.isDigit_of_mem_numeral hmem) (by decide)
    have hlists := congrArg String.toList heq
    simp only [baseUrl, String.toList_append, List.append_assoc,
      List.append_cancel_left_eq] at hlists
    obtain ⟨hhost, hport⟩ := Text.eq_and_eq_of_append_mark hlists (hcolon _) (hcolon _)
    have hnumeral := Text.numeral_injective (String.toList_injective hport)
    exact ⟨UInt16.toNat_inj.1 hnumeral, String.toList_injective hhost⟩
  · rintro ⟨hport, hhost⟩
    rw [baseUrl, baseUrl, hport, hhost]

theorem splitAt?_eq_some {mark : Char} {cs before after : List Char}
    (h : splitAt? mark cs = some (before, after)) :
    cs = before ++ mark :: after ∧ mark ∉ before := by
  induction cs generalizing before with
  | nil => cases h
  | cons c cs ih =>
      unfold splitAt? at h
      split at h
      · next hmark =>
          cases h
          exact ⟨by rw [hmark]; rfl, List.not_mem_nil⟩
      · next hmark =>
          obtain ⟨⟨rest, after'⟩, hrest, heq⟩ := Option.map_eq_some_iff.1 h
          obtain ⟨rfl, rfl⟩ := Prod.mk.inj heq
          obtain ⟨rfl, hnot⟩ := ih hrest
          exact ⟨rfl, fun hmem => (List.mem_cons.1 hmem).elim (fun heq => hmark heq.symm) hnot⟩

/-- What is taken for the host does not both begin and end with a bracket. -/
theorem host_of_split {cs host : List Char} {port : Option (List Char)}
    (h : split cs = .ok (host, port)) : host.head? ≠ some '[' ∨ ']' ∉ host := by
  unfold split at h
  split at h
  · -- Between brackets, the host is what stands before the first closing one.
    refine .inr ?_
    split at h
    · cases h
    · next hsplit =>
        cases h
        exact (splitAt?_eq_some hsplit).2
    · next hsplit =>
        cases h
        exact (splitAt?_eq_some hsplit).2
    · cases h
  · next hopen =>
      -- Otherwise the host is a beginning of the text, which does not begin with a bracket.
      refine .inl ?_
      have hhead : cs.head? ≠ some '[' := by
        intro hhead
        obtain ⟨rest, rfl⟩ := List.head?_eq_some_iff.1 hhead
        exact hopen rest rfl
      split at h
      · split at h
        · next hsplit =>
            cases h
            obtain ⟨rfl, -⟩ := splitAt?_eq_some hsplit
            cases host with
            | nil => nofun
            | cons c host => exact hhead
        · cases h
          exact hhead
      · cases h
        exact hhead

/-- What an address was read from is split into its host and the rest. -/
theorem exists_split_of_parse {s : String} {a : Address} (h : parse s = .ok a) :
    ∃ port, split (Text.trimChars s.toList) = .ok (a.host.toList, port) := by
  unfold parse parseChars at h
  simp only [bind, Except.bind] at h
  split at h
  · cases h
  · next parts hparts =>
      obtain ⟨host, port⟩ := parts
      refine ⟨port, ?_⟩
      have hsplit : split (Text.trimChars s.toList) = .ok (host, port) := by
        cases hcases : split (Text.trimChars s.toList) with
        | error fault =>
            rw [hcases] at hparts
            cases hparts
        | ok parts' =>
            rw [hcases] at hparts
            exact congrArg _ (Except.ok.inj hparts)
      split at h
      · cases h
      · split at h
        · cases h
        · obtain rfl := Except.ok.inj h
          simpa using hsplit

/-- A host that was read from a text is not one between brackets. -/
theorem not_brackets_of_parse {s : String} {a : Address} (h : parse s = .ok a) (inner : String) :
    ¬ Brackets a.host inner := by
  rintro ⟨-, houter⟩
  obtain ⟨port, hsplit⟩ := exists_split_of_parse h
  have hlist : a.host.toList = '[' :: (inner.toList ++ [']']) := by
    rw [houter]
    simp
  rw [hlist] at hsplit
  rcases host_of_split hsplit with hopen | hclose
  · exact hopen rfl
  · exact hclose (by simp)

end Address

end InferenceFleet
