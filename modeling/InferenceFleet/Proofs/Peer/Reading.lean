import InferenceFleet.Proofs.Json.Numeral
import InferenceFleet.Proofs.Peer.Endpoint
import InferenceFleet.Proofs.Peer.Record

/-!
# Addresses that are read back

What follows `http://` in the URL of an address is one of the notations that are read, as long as
the host holds no bracket: reading it gives the address again (`IsSound.parse_authority`). The text
`host:port` of an address is another matter. It is read as the address if the host holds no colon
and does not begin with a bracket (`IsSound.parse_text`); with a literal for a host the text has
several colons, so all of it is taken for a literal without port (`IsSound.parse_text_of_isBare`).

Both rest on the port being written in digits: no digit is a blank, a bracket or a colon, so nothing
is cut off the end of the text and the mark that is looked for is the one before the port.
-/

namespace InferenceFleet

namespace Text

theorem digit?_of_isDigit {c : Char} (hc : c.isDigit = true) :
    digit? c = some (c.toNat - '0'.toNat) := by
  obtain ⟨hlow, hhigh⟩ : '0' ≤ c ∧ c ≤ '9' := by
    simpa [Char.isDigit, Char.le_def, UInt32.le_iff_toNat_le] using hc
  exact if_pos ⟨hlow, hhigh⟩

theorem digits?_of_isDigit {cs : List Char} (hcs : ∀ c ∈ cs, c.isDigit = true) :
    digits? cs = some (cs.map fun c => c.toNat - '0'.toNat) := by
  induction cs with
  | nil => rfl
  | cons c cs ih =>
      obtain ⟨hc, hcs⟩ := List.forall_mem_cons.1 hcs
      have hrest : cs.mapM digit? = some (cs.map fun c => c.toNat - '0'.toNat) := ih hcs
      rw [digits?, List.mapM_cons, digit?_of_isDigit hc, hrest]
      rfl

theorem toList_numeral_ne_nil (n : Nat) : (numeral n).toList ≠ [] := by
  rw [numeral, String.toList_ofList]
  exact Nat.toDigits_ne_nil

/-- The numeral of a number is read as the number, if it fits. -/
theorem readNumeral?_numeral {bound n : Nat} (hn : n ≤ bound) :
    readNumeral? bound (numeral n).toList = some n := by
  have hdigits : ∀ c ∈ (numeral n).toList, c.isDigit = true := fun c => isDigit_of_mem_numeral
  have hvalue : ofDigits 10 0 ((numeral n).toList.map fun c => c.toNat - '0'.toNat) = n := by
    rw [numeral, String.toList_ofList]
    exact Json.ofDigits_toDigits n
  have hne := toList_numeral_ne_nil n
  generalize (numeral n).toList = cs at hdigits hvalue hne ⊢
  obtain ⟨c, rest, rfl⟩ := List.exists_cons_of_ne_nil hne
  have hplus : c ≠ '+' := by
    rintro rfl
    exact absurd (hdigits '+' List.mem_cons_self) (by decide)
  have hunsigned : readNumeral? bound (c :: rest) = readUnsigned? bound (c :: rest) := by
    simp [readNumeral?, hplus]
  rw [hunsigned, readUnsigned?, digits?_of_isDigit hdigits]
  · show (if ofDigits 10 0 _ ≤ bound then some (ofDigits 10 0 _) else none) = some n
    rw [hvalue, if_pos hn]
  · exact List.cons_ne_nil c rest

/-- A digit is no blank. -/
theorem isBlank_of_isDigit {c : Char} (hc : c.isDigit = true) : isBlank c = false := by
  have hrange : 48 ≤ c.toNat ∧ c.toNat ≤ 57 := by
    simpa [Char.isDigit, UInt32.le_iff_toNat_le] using hc
  simp only [isBlank, Bool.or_eq_false_iff, Bool.and_eq_false_iff, decide_eq_false_iff_not,
    beq_eq_false_iff_ne]
  omega

/-- Nothing is cut off where neither end is a blank. -/
theorem trimChars_of_ends {first last : Char} {cs : List Char}
    (hfirst : cs.head? = some first) (hlast : cs.getLast? = some last)
    (hfirst' : isBlank first = false) (hlast' : isBlank last = false) : trimChars cs = cs := by
  rw [trimChars_eq_self_iff, hfirst, hlast]
  exact ⟨hfirst', hlast'⟩

/-- Nothing is cut off a list that begins with no blank and ends in a numeral. -/
theorem trimChars_append_numeral {first : Char} {cs : List Char} (hfirst : cs.head? = some first)
    (hblank : isBlank first = false) (n : Nat) :
    trimChars (cs ++ (numeral n).toList) = cs ++ (numeral n).toList := by
  have hne : (numeral n).toList ≠ [] := toList_numeral_ne_nil n
  have hlast : (cs ++ (numeral n).toList).getLast? = some ((numeral n).toList.getLast hne) := by
    rw [List.getLast?_append, List.getLast?_eq_some_getLast hne, Option.some_or]
  refine trimChars_of_ends ?_ hlast hblank ?_
  · rw [List.head?_append, hfirst, Option.some_or]
  · exact isBlank_of_isDigit (isDigit_of_mem_numeral (List.getLast_mem hne))

end Text

namespace Address

theorem splitAt?_append {mark : Char} {before : List Char} (hbefore : mark ∉ before)
    (after : List Char) : splitAt? mark (before ++ mark :: after) = some (before, after) := by
  induction before with
  | nil => simp [splitAt?]
  | cons c before ih =>
      have hc : c ≠ mark := (List.ne_of_not_mem_cons hbefore).symm
      rw [List.cons_append, splitAt?, if_neg hc, ih (List.not_mem_of_not_mem_cons hbefore)]
      rfl

/-- A literal between brackets and a port. -/
theorem split_literal {host : List Char} (hhost : ']' ∉ host) (port : List Char) :
    split ('[' :: (host ++ ']' :: ':' :: port)) = .ok (host, some port) := by
  simp only [split, splitAt?_append hhost]

theorem split_of_head?_ne {cs : List Char} (hopen : cs.head? ≠ some '[') :
    split cs = 
      if cs.count ':' = 1 then
        match splitAt? ':' cs with
        | some (host, port) => .ok (host, some port)
        | none => .ok (cs, none)
      else .ok (cs, none) := by
  unfold split
  split
  · exact absurd rfl hopen
  · rfl

/-- A name and a port. -/
theorem split_name {host port : List Char} (hopen : host.head? ≠ some '[') (hne : host ≠ [])
    (hhost : ':' ∉ host) (hport : ':' ∉ port) :
    split (host ++ ':' :: port) = .ok (host, some port) := by
  have hhead : (host ++ ':' :: port).head? ≠ some '[' := by
    rw [List.head?_append, Option.or_of_isSome (List.isSome_head?.2 hne)]
    exact hopen
  have hcount : (host ++ ':' :: port).count ':' = 1 := by
    rw [List.count_append, List.count_cons_self, List.count_eq_zero.2 hhost,
      List.count_eq_zero.2 hport]
  rw [split_of_head?_ne hhead, if_pos hcount, splitAt?_append hhost]

/-- A literal without port. -/
theorem split_bare {cs : List Char} (hopen : cs.head? ≠ some '[') (hcount : cs.count ':' ≠ 1) :
    split cs = .ok (cs, none) := by
  rw [split_of_head?_ne hopen, if_neg hcount]

/-- What is split into a host and a port is read as the address of the two, if that is sound. -/
theorem parse_of_split {s : String} {host : List Char} {numeral : Option (List Char)}
    {port : UInt16} (htrim : Text.trimChars s.toList = s.toList)
    (hsplit : split s.toList = .ok (host, numeral))
    (hport : port? numeral = some port) (hsound : IsSound ⟨String.ofList host, port⟩) :
    parse s = .ok ⟨String.ofList host, port⟩ := by
  have hcheck : check ⟨String.ofList host, port⟩ = .ok () := by
    unfold check
    rw [show fault? _ = none from hsound]
  simp only [parse, parseChars, htrim, hsplit, hport, hcheck, Except.mapError, bind, Except.bind]

theorem port?_numeral (port : UInt16) :
    port? (some (Text.numeral port.toNat).toList) = some port := by
  have hbound : port.toNat ≤ Text.maxWord16 := Nat.le_of_lt_succ port.toNat_lt
  rw [port?, Text.readNumeral?_numeral hbound, Option.map_some, UInt16.ofNat_toNat]

theorem IsSound.exists_head? {a : Address} (h : a.IsSound) :
    ∃ c, a.host.toList.head? = some c ∧ Text.isBlank c = false := by
  obtain ⟨hne, hclean, -⟩ := isSound_iff.1 h
  cases hlist : a.host.toList with
  | nil => exact absurd (String.toList_eq_nil_iff.1 hlist) hne
  | cons c cs =>
      have hc := hclean c (by simp [hlist])
      exact ⟨c, rfl, (Bool.or_eq_false_iff.1 hc).1⟩

theorem not_mem_numeral {c : Char} (hc : c.isDigit = false) (n : Nat) :
    c ∉ (Text.numeral n).toList := fun hmem =>
  Bool.false_ne_true (hc.symm.trans (Text.isDigit_of_mem_numeral hmem))

theorem toList_text (a : Address) :
    a.text.toList = a.host.toList ++ [':'] ++ (Text.numeral a.port.toNat).toList := by
  simp [text]

/-- The text of an address begins and ends with no blank. -/
theorem IsSound.trimChars_text {a : Address} (h : a.IsSound) :
    Text.trimChars a.text.toList = a.text.toList := by
  obtain ⟨c, hhead, hblank⟩ := h.exists_head?
  rw [toList_text]
  refine Text.trimChars_append_numeral ?_ hblank _
  rw [List.head?_append, hhead, Option.some_or]

/-- With a name for a host, the text of an address is read as the address. -/
theorem IsSound.parse_text {a : Address} (h : a.IsSound) (hcolon : ':' ∉ a.host.toList)
    (hopen : a.host.toList.head? ≠ some '[') : parse a.text = .ok a := by
  have hne : a.host.toList ≠ [] := fun hnil =>
    (isSound_iff.1 h).1 (String.toList_eq_nil_iff.1 hnil)
  have hsplit : split a.text.toList =
      .ok (a.host.toList, some (Text.numeral a.port.toNat).toList) := by
    rw [toList_text, List.append_assoc]
    exact split_name hopen hne hcolon (not_mem_numeral (by decide) _)
  have hread := parse_of_split h.trimChars_text hsplit (port?_numeral a.port)
    (by rw [String.ofList_toList]; exact h)
  rwa [String.ofList_toList] at hread

/-- With a literal for a host, all of the text is taken for a host. -/
theorem IsSound.parse_text_of_isBare {a : Address} (h : a.IsSound) (hbare : IsBare a.host) :
    parse a.text = .ok ⟨a.text, defaultPort⟩ := by
  obtain ⟨c, hhead, -⟩ := h.exists_head?
  have hopen : a.text.toList.head? ≠ some '[' := by
    have hsame : a.text.toList.head? = a.host.toList.head? := by
      rw [toList_text, List.append_assoc, List.head?_append, hhead, Option.some_or]
    rw [hsame]
    exact hbare.2
  have hcount : a.text.toList.count ':' ≠ 1 := by
    have hhost : 0 < a.host.toList.count ':' := List.count_pos_iff.2 hbare.1
    rw [toList_text, List.count_append, List.count_append, List.count_singleton_self]
    omega
  have hsound : IsSound ⟨a.text, defaultPort⟩ := by
    obtain ⟨-, hclean, -⟩ := isSound_iff.1 h
    refine isSound_iff.2 ⟨?_, ?_, show defaultPort ≠ 0 by decide⟩
    · intro hempty
      have hnil := congrArg String.toList (show a.text = "" from hempty)
      rw [toList_text] at hnil
      simp at hnil
    · intro d hd
      rw [toList_text, List.mem_append, List.mem_append] at hd
      rcases hd with (hhost | hcolon) | hdigit
      · exact hclean d hhost
      · rw [List.mem_singleton.1 hcolon]
        decide
      · have hslash : d ≠ '/' := by
          rintro rfl
          exact not_mem_numeral (by decide) _ hdigit
        have hblank := Text.isBlank_of_isDigit (Text.isDigit_of_mem_numeral hdigit)
        simp [isForbidden, hblank, hslash]
  have hport : port? none = some defaultPort := rfl
  have hread := parse_of_split h.trimChars_text (split_bare hopen hcount) hport
    (by rw [String.ofList_toList]; exact hsound)
  rwa [String.ofList_toList] at hread

theorem splitAt?_eq_none {mark : Char} {cs : List Char} (h : mark ∉ cs) :
    splitAt? mark cs = none := by
  cases hsplit : splitAt? mark cs with
  | none => rfl
  | some parts =>
      obtain ⟨rfl, -⟩ := splitAt?_eq_some hsplit
      exact absurd (List.mem_append_right _ List.mem_cons_self) h

/-- With a bracket that is never closed, the text is refused. -/
theorem IsSound.parse_text_of_open {a : Address} (h : a.IsSound)
    (hopen : a.host.toList.head? = some '[') (hclose : ']' ∉ a.host.toList) :
    parse a.text = .error ⟨a.text, 0, .unterminatedLiteral⟩ := by
  obtain ⟨rest, hrest⟩ := List.head?_eq_some_iff.1 hopen
  have hunclosed : ']' ∉ rest ++ [':'] ++ (Text.numeral a.port.toNat).toList := by
    rw [List.mem_append, List.mem_append]
    rintro ((hmem | hmem) | hmem)
    · exact hclose (hrest ▸ List.mem_cons_of_mem _ hmem)
    · simp at hmem
    · exact not_mem_numeral (by decide) _ hmem
  have hsplit : split a.text.toList = .error .unterminatedLiteral := by
    rw [toList_text, hrest, List.cons_append, List.cons_append]
    simp only [split, splitAt?_eq_none hunclosed]
  simp only [parse, parseChars, h.trimChars_text, hsplit, Except.mapError, bind, Except.bind,
    String.ofList_toList]

/-- An address that was read from a text is read back from its own text `host:port` exactly if its
host holds no colon and does not begin with a bracket. The text of a literal is read as a literal
without port, all of it; a host that begins with a bracket is never closed again. -/
theorem shown_address_is_read_iff {s : String} {a : Address} (h : parse s = .ok a) :
    (parse a.text = .ok a ↔ ':' ∉ a.host.toList ∧ a.host.toList.head? ≠ some '[') ∧
    (IsBare a.host → parse a.text = .ok ⟨a.text, defaultPort⟩) ∧
    (a.host.toList.head? = some '[' →
      parse a.text = .error ⟨a.text, 0, .unterminatedLiteral⟩) := by
  have hsound : a.IsSound := isSound_of_parse h
  have hunclosed : a.host.toList.head? = some '[' → ']' ∉ a.host.toList := by
    obtain ⟨port, hsplit⟩ := exists_split_of_parse h
    exact fun hopen => (host_of_split hsplit).resolve_left (not_not_intro hopen)
  have hopened : a.host.toList.head? = some '[' →
      parse a.text = .error ⟨a.text, 0, .unterminatedLiteral⟩ :=
    fun hopen => hsound.parse_text_of_open hopen (hunclosed hopen)
  have hlonger : (⟨a.text, defaultPort⟩ : Address) ≠ a := by
    intro heq
    have hlength := congrArg (fun b : Address => b.host.toList.length) heq
    simp only [toList_text, List.length_append, List.length_singleton] at hlength
    omega
  refine ⟨⟨fun hread => ⟨fun hcolon => ?_, fun hopen => ?_⟩, fun hname =>
    hsound.parse_text hname.1 hname.2⟩, hsound.parse_text_of_isBare, hopened⟩
  · by_cases hopen : a.host.toList.head? = some '['
    · cases hread.symm.trans (hopened hopen)
    · exact hlonger (Except.ok.inj ((hsound.parse_text_of_isBare ⟨hcolon, hopen⟩).symm.trans hread))
  · cases hread.symm.trans (hopened hopen)

/-- A name with a port is read back; a literal is not, nor is a bracket within brackets. -/
theorem shown_address_is_read_iff_notations :
    (parse "[gpu]:80" = .ok ⟨"gpu", 80⟩ ∧ parse "gpu:80" = .ok ⟨"gpu", 80⟩) ∧
    (parse " [fd00::1]:9000 " = .ok ⟨"fd00::1", 9000⟩ ∧
      parse "fd00::1:9000" = .ok ⟨"fd00::1:9000", defaultPort⟩) ∧
    (parse "[[x]:80" = .ok ⟨"[x", 80⟩ ∧
      parse "[x:80" = .error ⟨"[x:80", 0, .unterminatedLiteral⟩) := by
  have hname : parse "[gpu]:80" = .ok ⟨"gpu", 80⟩ := by decide +kernel
  have hliteral : parse " [fd00::1]:9000 " = .ok ⟨"fd00::1", 9000⟩ := by decide +kernel
  have hopen : parse "[[x]:80" = .ok ⟨"[x", 80⟩ := by decide +kernel
  refine ⟨⟨hname, ?_⟩, ⟨hliteral, ?_⟩, hopen, ?_⟩
  · have htext : text ⟨"gpu", 80⟩ = "gpu:80" := by decide +kernel
    exact htext ▸ (shown_address_is_read_iff hname).1.2 (by decide)
  · have htext : text ⟨"fd00::1", 9000⟩ = "fd00::1:9000" := by decide +kernel
    exact htext ▸ (shown_address_is_read_iff hliteral).2.1 (by decide)
  · have htext : text ⟨"[x", 80⟩ = "[x:80" := by decide +kernel
    exact htext ▸ (shown_address_is_read_iff hopen).2.2 (by decide)

/-- A literal that was read is shown as a text that is read as another literal. -/
theorem shown_literal_is_misread :
    parse "fd00::1" = .ok ⟨"fd00::1", 11434⟩ ∧
    text ⟨"fd00::1", 11434⟩ = "fd00::1:11434" ∧
    parse "fd00::1:11434" = .ok ⟨"fd00::1:11434", 11434⟩ ∧
    ¬ ∀ (s : String) (a : Address), parse s = .ok a → parse a.text = .ok a := by
  have hread : parse "fd00::1" = .ok ⟨"fd00::1", 11434⟩ := by decide +kernel
  have htext : text ⟨"fd00::1", 11434⟩ = "fd00::1:11434" := by decide +kernel
  have hagain : parse "fd00::1:11434" = .ok ⟨"fd00::1:11434", 11434⟩ := by decide +kernel
  refine ⟨hread, htext, hagain, fun hall => ?_⟩
  have hback := hall _ _ hread
  rw [htext, hagain] at hback
  exact absurd (congrArg Address.host (Except.ok.inj hback)) (by decide)

/-- A host without brackets: a name, or a literal as it is stored. -/
def IsUnbracketed (host : String) : Prop := '[' ∉ host.toList ∧ ']' ∉ host.toList

instance (host : String) : Decidable (IsUnbracketed host) := inferInstanceAs (Decidable (_ ∧ _))

/-- Host and port of an address as they stand in its URL. -/
def authority (a : Address) : String :=
  authorityHost a.host ++ ":" ++ Text.numeral a.port.toNat

theorem baseUrl_eq (a : Address) : a.baseUrl = "http://" ++ a.authority := by
  simp only [baseUrl, authority, String.append_assoc]

/-- What stands in the URL of an address is read as the address. -/
theorem IsSound.parse_authority {a : Address} (h : a.IsSound) (hhost : IsUnbracketed a.host) :
    parse a.authority = .ok a := by
  by_cases hbare : IsBare a.host
  · have hlist : a.authority.toList =
        '[' :: (a.host.toList ++ ']' :: ':' :: (Text.numeral a.port.toNat).toList) := by
      simp [authority, authorityHost_eq, hbare]
    have htrim : Text.trimChars a.authority.toList = a.authority.toList := by
      have hhead : ('[' :: (a.host.toList ++ [']', ':'])).head? = some '[' := rfl
      have hcut := Text.trimChars_append_numeral hhead (by decide) a.port.toNat
      simpa [hlist] using hcut
    have hsplit : split a.authority.toList =
        .ok (a.host.toList, some (Text.numeral a.port.toNat).toList) := by
      rw [hlist]
      exact split_literal hhost.2 _
    have hread := parse_of_split htrim hsplit (port?_numeral a.port)
      (by rw [String.ofList_toList]; exact h)
    rwa [String.ofList_toList] at hread
  · -- A host that is no literal stands in the URL as it is.
    have hopen : a.host.toList.head? ≠ some '[' := fun hopen => by
      obtain ⟨rest, hrest⟩ := List.head?_eq_some_iff.1 hopen
      exact hhost.1 (hrest ▸ List.mem_cons_self)
    have hcolon : ':' ∉ a.host.toList := fun hcolon => hbare ⟨hcolon, hopen⟩
    have hsame : a.authority = a.text := by
      rw [authority, authorityHost_eq, if_neg hbare, text]
    rw [hsame]
    exact h.parse_text hcolon hopen

/-- What is read is sound, and a sound address whose host holds no bracket is read back from what
follows `http://` in its URL. So such addresses have different URLs. -/
theorem reading_inverts_baseUrl :
    (∀ (s : String) (a : Address), parse s = .ok a → a.check = .ok ()) ∧
    (∀ a : Address, a.check = .ok () → IsUnbracketed a.host →
      ∃ rest, a.baseUrl = "http://" ++ rest ∧ parse rest = .ok a) ∧
    ∀ a b : Address, a.check = .ok () → b.check = .ok () → IsUnbracketed a.host →
      IsUnbracketed b.host → a.baseUrl = b.baseUrl → a = b := by
  refine ⟨fun s a h => check_eq_ok_iff.2 (isSound_of_parse h), fun a ha hhost => ?_, ?_⟩
  · exact ⟨a.authority, a.baseUrl_eq, (check_eq_ok_iff.1 ha).parse_authority hhost⟩
  · intro a b ha hb hhost hhost' heq
    rw [baseUrl_eq, baseUrl_eq] at heq
    have hsame : a.authority = b.authority := by
      have hlists := congrArg String.toList heq
      simp only [String.toList_append, List.append_cancel_left_eq] at hlists
      exact String.toList_injective hlists
    have hread := (check_eq_ok_iff.1 ha).parse_authority hhost
    rw [hsame, (check_eq_ok_iff.1 hb).parse_authority hhost'] at hread
    exact (Except.ok.inj hread).symm

/-- A literal without port, and the same at another port. -/
theorem reading_inverts_baseUrl_literal :
    let a : Address := ⟨"fd00::1", defaultPort⟩
    let b : Address := ⟨"fd00::1", 80⟩
    (parse " [fd00::1] " = .ok a ∧ a.check = .ok ()) ∧
    (b.check = .ok () ∧ IsUnbracketed a.host ∧ IsUnbracketed b.host) ∧
    (∃ rest, a.baseUrl = "http://" ++ rest ∧ parse rest = .ok a) ∧
    a.baseUrl ≠ b.baseUrl := by
  intro a b
  obtain ⟨hsound, hinverts, hinjective⟩ := reading_inverts_baseUrl
  have hread : parse " [fd00::1] " = .ok a := by decide +kernel
  have ha : a.check = .ok () := hsound _ a hread
  have hb : b.check = .ok () := by decide +kernel
  have hhost : IsUnbracketed a.host := by decide
  have hports : a ≠ b := by decide
  exact ⟨⟨hread, ha⟩, ⟨hb, hhost, hhost⟩, hinverts a ha hhost, fun heq =>
    hports (hinjective a b ha hb hhost hhost heq)⟩

end Address

end InferenceFleet
