import InferenceFleet.Json.Bytes
import InferenceFleet.Proofs.Json.Quoted

/-!
# Documents that come as bytes

The bytes of a text are read as the text. Between quotation marks any bytes are read, and they have
a value only if they are the bytes of a text (`readQuoted?_charsOf`). Outside of them a byte that
belongs to no character is the beginning of no value.
-/

namespace InferenceFleet.Json

/-- Bytes that begin with a character begin with all the bytes of it. -/
theorem firstChar?_eq_some_iff {bytes : List UInt8} {c : Char} :
    firstChar? bytes = some c ↔ ∃ rest, bytes = String.utf8EncodeChar c ++ rest := by
  constructor
  · intro h
    obtain ⟨rest, hrest⟩ := ByteArray.exists_of_utf8DecodeChar?_eq_some h
    have htake : bytes.take 4 = String.utf8EncodeChar c ++ rest.data.toList := by
      have hdata := congrArg (fun b => b.data.toList) hrest
      simpa using hdata
    exact ⟨rest.data.toList ++ bytes.drop 4, by
      rw [← List.append_assoc, ← htake, List.take_append_drop]⟩
  · rintro ⟨rest, rfl⟩
    have hlength : (String.utf8EncodeChar c).length = c.utf8Size := String.length_utf8EncodeChar c
    have htake : (String.utf8EncodeChar c ++ rest).take 4 =
        String.utf8EncodeChar c ++ rest.take (4 - c.utf8Size) := by
      rw [List.take_append, List.take_of_length_le (hlength ▸ c.utf8Size_le_four), hlength]
    rw [firstChar?, htake, List.toByteArray_append,
      ByteArray.utf8DecodeChar?_utf8EncodeChar_append]

theorem firstChar?_eq_none_of_append {bytes more : List UInt8}
    (h : firstChar? (bytes ++ more) = none) : firstChar? bytes = none := by
  cases hfirst : firstChar? bytes with
  | none => rfl
  | some c =>
      obtain ⟨tail, rfl⟩ := firstChar?_eq_some_iff.1 hfirst
      rw [List.append_assoc, firstChar?_eq_some_iff.2 ⟨_, rfl⟩] at h
      cases h

/-- More fuel than there are bytes changes nothing. -/
theorem decodeBytes_of_le (fuel : Nat) (bytes : List UInt8) (h : bytes.length ≤ fuel) :
    decodeBytes fuel bytes = charsOf bytes := by
  induction fuel using Nat.strongRecOn generalizing bytes with
  | ind fuel ih =>
    cases bytes with
    | nil => cases fuel <;> rfl
    | cons byte rest =>
        obtain ⟨fuel, rfl⟩ := Nat.exists_eq_succ_of_ne_zero (Nat.ne_zero_of_lt h)
        have hrest : rest.length ≤ fuel := Nat.le_of_succ_le_succ h
        have hagree : ∀ more : List UInt8, more.length ≤ rest.length →
            decodeBytes fuel more = decodeBytes rest.length more := fun more hmore => by
          rw [ih fuel (Nat.lt_succ_self _) more (Nat.le_trans hmore hrest),
            ih rest.length (Nat.lt_succ_of_le hrest) more hmore]
        rw [charsOf, List.length_cons]
        cases hfirst : firstChar? (byte :: rest) with
        | none => simp only [decodeBytes, hfirst, hagree rest (Nat.le_refl _)]
        | some c =>
            have hdrop : ((byte :: rest).drop c.utf8Size).length ≤ rest.length := by
              have hpos : 0 < c.utf8Size := c.utf8Size_pos
              rw [List.length_drop, List.length_cons]
              omega
            simp only [decodeBytes, hfirst, hagree _ hdrop]

/-- A character is decoded from its bytes. -/
theorem charsOf_utf8EncodeChar_append (c : Char) (bytes : List UInt8) :
    charsOf (String.utf8EncodeChar c ++ bytes) = c :: charsOf bytes := by
  have hfirst : firstChar? (String.utf8EncodeChar c ++ bytes) = some c :=
    firstChar?_eq_some_iff.2 ⟨bytes, rfl⟩
  have hdrop : (String.utf8EncodeChar c ++ bytes).drop c.utf8Size = bytes := by
    rw [← String.length_utf8EncodeChar c, List.drop_left]
  cases hbytes : String.utf8EncodeChar c ++ bytes with
  | nil => exact absurd (List.append_eq_nil_iff.1 hbytes).1 String.utf8EncodeChar_ne_nil
  | cons byte rest =>
      have hlength : bytes.length ≤ rest.length := by
        have hpos : 0 < c.utf8Size := c.utf8Size_pos
        have hsum := congrArg List.length hbytes
        rw [List.length_append, String.length_utf8EncodeChar, List.length_cons] at hsum
        omega
      rw [hbytes] at hfirst hdrop
      simp only [charsOf, List.length_cons, decodeBytes, hfirst, hdrop]
      rw [decodeBytes_of_le _ _ hlength, charsOf]

/-- A byte that belongs to no character is shown as the mark. -/
theorem charsOf_stray {byte : UInt8} {rest : List UInt8} (h : firstChar? (byte :: rest) = none) :
    charsOf (byte :: rest) = strayMark ++ charsOf rest := by
  simp only [charsOf, List.length_cons, decodeBytes, h]

theorem charsOf_flatMap_utf8EncodeChar (cs : List Char) :
    charsOf (cs.flatMap String.utf8EncodeChar) = cs := by
  induction cs with
  | nil => rfl
  | cons c cs ih => rw [List.flatMap_cons, charsOf_utf8EncodeChar_append, ih]

theorem toList_data_toUTF8 (s : String) :
    s.toUTF8.data.toList = s.toList.flatMap String.utf8EncodeChar := by
  have hencoded : s.toUTF8 = (s.toList.flatMap String.utf8EncodeChar).toByteArray := by
    rw [← List.utf8Encode, ← String.toByteArray_ofList, String.ofList_toList]
    rfl
  rw [hencoded, List.data_toByteArray]

/-- The bytes of a text are read as the text. -/
theorem readBytes?_toUTF8 (s : String) : readBytes? s.toUTF8 = read? s := by
  rw [readBytes?, toList_data_toUTF8, charsOf_flatMap_utf8EncodeChar, String.ofList_toList]

/-- The mark is not the beginning of a value. -/
theorem readValue?_strayMark (fuel : Nat) (rest : List Char) :
    readValue? fuel (strayMark ++ rest) = none := by
  cases fuel with
  | zero => rfl
  | succ fuel => rfl

/-- Between quotation marks the mark is read, but as nothing. -/
theorem readQuoted?_strayMark (fuel : Nat) (rest : List Char) :
    readQuoted? (fuel + 2) (strayMark ++ rest) =
      (readQuoted? fuel rest).map fun read => (some 'x' :: none :: read.1, read.2) := by
  have hcode : hex4? ('d' :: 'c' :: '8' :: '0' :: rest) = some (0xdc80, rest) := rfl
  have hhalf : codeEscape 0xdc80 rest = (none, rest) := rfl
  show readQuoted? (fuel + 2) ('x' :: '\\' :: 'u' :: 'd' :: 'c' :: '8' :: '0' :: rest) = _
  rw [readQuoted?.eq_def]
  simp only
  rw [readQuoted?.eq_def]
  simp only [hcode, Option.bind_eq_bind, Option.bind_some, hhalf]
  cases readQuoted? fuel rest <;> rfl

/-- A byte that ends a quoted text, begins an escape or controls is no part of plain text. -/
def IsPlain (byte : UInt8) : Prop := byte ≠ 0x22 ∧ byte ≠ 0x5c ∧ 0x20 ≤ byte

/-- A character all of whose bytes are plain is read as itself. -/
theorem readQuoted?_cons_of_isPlain (fuel : Nat) {c : Char} (rest : List Char)
    (h : ∀ byte ∈ String.utf8EncodeChar c, IsPlain byte) :
    readQuoted? (fuel + 1) (c :: rest) =
      (readQuoted? fuel rest).map fun read => (some c :: read.1, read.2) := by
  have hquote : c ≠ '"' := fun hc => (h 0x22 (by rw [hc]; decide)).1 rfl
  have hslash : c ≠ '\\' := fun hc => (h 0x5c (by rw [hc]; decide)).2.1 rfl
  have hcontrol : ¬ c.toNat < 0x20 := fun hc => by
    have hall : ∀ n : Fin 0x20, ∃ byte ∈ String.utf8EncodeChar (Char.ofNat n), byte < 0x20 := by
      decide
    obtain ⟨byte, hbyte, hlt⟩ := hall ⟨c.toNat, hc⟩
    rw [Char.ofNat_toNat] at hbyte
    exact absurd (h byte hbyte).2.2 (UInt8.not_le.2 hlt)
  rw [readQuoted?.eq_def]
  simp only [if_neg hquote, if_neg hslash, if_neg hcontrol]
  cases readQuoted? fuel rest <;> rfl

/-- A character that text and its closing mark begin with is a character of the text: the mark is
no byte of a longer character. -/
theorem exists_eq_utf8EncodeChar_append {c : Char} {byte : UInt8} {content rest tail : List UInt8}
    (h : (byte :: content) ++ 0x22 :: rest = String.utf8EncodeChar c ++ tail) :
    ∃ content', byte :: content = String.utf8EncodeChar c ++ content' ∧
      tail = content' ++ 0x22 :: rest := by
  rcases List.append_eq_append_iff.1 h with ⟨mid, hchar, hrest⟩ | ⟨mid, hcontent, htail⟩
  · cases mid with
    | nil => exact ⟨[], by simpa using hchar.symm, hrest.symm⟩
    | cons first mid =>
        obtain ⟨rfl, -⟩ := List.cons.inj hrest
        have hlast : (String.utf8EncodeChar c)[content.length + 1]? = some 0x22 := by
          simp [hchar]
        obtain ⟨hlt, hbyte⟩ := List.getElem?_eq_some_iff.1 hlast
        have hfirst : UInt8.IsUTF8FirstByte (String.utf8EncodeChar c)[content.length + 1] := by
          rw [hbyte]
          decide
        exact absurd (UInt8.isUTF8FirstByte_getElem_utf8EncodeChar.1 hfirst) (Nat.succ_ne_zero _)
  · exact ⟨mid, hcontent, htail⟩

/-- What is read of bytes is all there if and only if they are the bytes of a text, and then it is
that text. -/
def Spells (chars : List (Option Char)) (bytes : List UInt8) : Prop :=
  ∀ cs : List Char, chars = cs.map some ↔ bytes = cs.flatMap String.utf8EncodeChar

namespace Spells

variable {chars : List (Option Char)} {bytes : List UInt8}

theorem nil : Spells [] [] := by
  intro cs
  cases cs with
  | nil => simp
  | cons c cs => simp

/-- Bytes that begin with none of a character are those of no text. -/
theorem stray {more : List (Option Char)} (hnone : none ∈ more)
    (hfirst : firstChar? bytes = none) (hbytes : bytes ≠ []) : Spells more bytes := by
  intro cs
  constructor
  · intro hchars
    rw [hchars] at hnone
    simp at hnone
  · intro htext
    cases cs with
    | nil => exact absurd htext hbytes
    | cons c cs =>
        rw [List.flatMap_cons] at htext
        rw [firstChar?_eq_some_iff.2 ⟨_, htext⟩] at hfirst
        cases hfirst

theorem cons (c : Char) (h : Spells chars bytes) :
    Spells (some c :: chars) (String.utf8EncodeChar c ++ bytes) := by
  intro cs
  cases cs with
  | nil => simp [String.utf8EncodeChar_ne_nil]
  | cons d cs =>
      rw [List.map_cons, List.flatMap_cons, List.cons.injEq, Option.some.injEq, h cs]
      constructor
      · rintro ⟨rfl, htext⟩
        rw [htext]
      · intro htext
        have hsame : some c = some d := by
          rw [← firstChar?_eq_some_iff.2 ⟨bytes, rfl⟩, htext, firstChar?_eq_some_iff.2 ⟨_, rfl⟩]
        obtain rfl := Option.some.inj hsame
        exact ⟨rfl, List.append_cancel_left htext⟩

end Spells

theorem exists_readQuoted?_charsOf (content rest : List UInt8)
    (hplain : ∀ byte ∈ content, IsPlain byte) {fuel : Nat} (hfuel : 2 * content.length < fuel) :
    ∃ chars, readQuoted? fuel (charsOf (content ++ 0x22 :: rest)) = some (chars, charsOf rest) ∧
      Spells chars content := by
  induction hlength : content.length using Nat.strongRecOn generalizing content fuel with
  | ind length ih =>
    cases content with
    | nil =>
        obtain ⟨fuel, rfl⟩ := Nat.exists_eq_succ_of_ne_zero (Nat.ne_zero_of_lt hfuel)
        have hmark : charsOf (0x22 :: rest) = '"' :: charsOf rest :=
          charsOf_utf8EncodeChar_append '"' rest
        exact ⟨[], by rw [List.nil_append, hmark]; rfl, .nil⟩
    | cons byte content =>
        cases hfirst : firstChar? (byte :: (content ++ 0x22 :: rest)) with
        | none =>
            -- the mark is two characters, and only the byte itself is passed
            obtain ⟨fuel, rfl⟩ : ∃ n, fuel = n + 2 := ⟨fuel - 2, by simp at hfuel; omega⟩
            have hfewer : 2 * content.length < fuel := by simp at hfuel; omega
            obtain ⟨chars, hread, -⟩ := ih content.length (by simp [← hlength]) content
              (fun b hb => hplain b (List.mem_cons_of_mem _ hb)) hfewer rfl
            have hnone : firstChar? (byte :: content) = none := firstChar?_eq_none_of_append hfirst
            refine ⟨some 'x' :: none :: chars, ?_, .stray (by simp) hnone (List.cons_ne_nil _ _)⟩
            rw [List.cons_append, charsOf_stray hfirst, readQuoted?_strayMark, hread]
            rfl
        | some c =>
            obtain ⟨tail, htail⟩ := firstChar?_eq_some_iff.1 hfirst
            obtain ⟨content', hcontent, rfl⟩ := exists_eq_utf8EncodeChar_append htail
            have hshorter : content'.length < (byte :: content).length := by
              have hpos : 0 < c.utf8Size := c.utf8Size_pos
              rw [hcontent, List.length_append, String.length_utf8EncodeChar]
              omega
            obtain ⟨fuel, rfl⟩ := Nat.exists_eq_succ_of_ne_zero (Nat.ne_zero_of_lt hfuel)
            have hfewer : 2 * content'.length < fuel := by omega
            obtain ⟨chars, hread, hspells⟩ := ih content'.length (hlength ▸ hshorter) content'
              (fun b hb => hplain b (hcontent ▸ List.mem_append_right _ hb)) hfewer rfl
            refine ⟨some c :: chars, ?_, hcontent ▸ hspells.cons c⟩
            rw [List.cons_append, htail, charsOf_utf8EncodeChar_append,
              readQuoted?_cons_of_isPlain fuel _
                fun b hb => hplain b (hcontent ▸ List.mem_append_left _ hb), hread]
            rfl

/-- Whatever plain bytes stand between quotation marks, they are read to the closing mark. What is
read has a value if and only if they are the bytes of a text, and it is that text. -/
theorem readQuoted?_charsOf (content rest : List UInt8) (hplain : ∀ byte ∈ content, IsPlain byte)
    {fuel : Nat} (hfuel : 2 * content.length < fuel) :
    ∃ chars, readQuoted? fuel (charsOf (content ++ 0x22 :: rest)) = some (chars, charsOf rest) ∧
      ∀ s : String, textOf? chars = some s ↔ content = s.toUTF8.data.toList := by
  obtain ⟨chars, hread, hspells⟩ := exists_readQuoted?_charsOf content rest hplain hfuel
  refine ⟨chars, hread, fun s => ?_⟩
  rw [textOf?_eq_some_iff, hspells s.toList, toList_data_toUTF8]

example : readQuoted? 5 (charsOf [0x61, 0xff, 0x22, 0x2c]) =
    some ([some 'a', some 'x', none], [',']) := by
  decide

end InferenceFleet.Json
