import InferenceFleet.Proofs.Json.Layout
import InferenceFleet.Proofs.Json.Numeral
import InferenceFleet.Proofs.Json.Quoted

/-!
# Documents are read back

A document that is written in any layout is read back as it was, except that a number which is not
finite has become null (`kept`). This holds of all documents that are not nested too deeply and have
no key twice in one record, whose whole numbers fit 64 bits and whose finite numbers read back one by
one (`Writable`).

The reader runs on fuel. What a value needs of it is bounded by twice the length of its text, and
that bound passes from a value to its parts, since each of them leaves a character to its
surroundings.
-/

namespace InferenceFleet.Json

mutual
/-- What a tree is when it is read back. -/
def kept : Tree → Tree
  | .null => .null
  | .bool b => .bool b
  | .integer n => .integer n
  | .number x => if x.isFinite then .number x else .null
  | .text s => .text s
  | .list items => .list (keptItems items)
  | .record fields => .record (keptFields fields)
  | .unreadable => .null

def keptItems : List Tree → List Tree
  | [] => []
  | item :: rest => kept item :: keptItems rest

def keptFields : List (String × Tree) → List (String × Tree)
  | [] => []
  | (key, value) :: rest => (key, kept value) :: keptFields rest
end

theorem keptItems_eq (items : List Tree) : keptItems items = items.map kept := by
  induction items with
  | nil => rfl
  | cons item rest ih => rw [keptItems, ih, List.map_cons]

theorem keptFields_eq (fields : List (String × Tree)) :
    keptFields fields = fields.map fun field => (field.1, kept field.2) := by
  induction fields with
  | nil => rfl
  | cons field rest ih =>
      obtain ⟨key, value⟩ := field
      rw [keptFields, ih, List.map_cons]

/-- Trees that are read back when they are written, nested at most `depth` deep. -/
inductive Writable : Nat → Tree → Prop
  | null {depth : Nat} : Writable depth .null
  | bool {depth : Nat} (b : Bool) : Writable depth (.bool b)
  | integer {depth : Nat} {n : Int} (hlow : -(Text.maxSigned64 + 1 : Nat) ≤ n)
      (hhigh : n ≤ Text.maxWord64) : Writable depth (.integer n)
  | number {depth : Nat} {x : Binary64} (hback : x.isFinite = true → ReadsBack x) :
      Writable depth (.number x)
  | text {depth : Nat} (s : String) : Writable depth (.text s)
  | list {depth : Nat} {items : List Tree} (hitems : ∀ item ∈ items, Writable depth item) :
      Writable (depth + 1) (.list items)
  | record {depth : Nat} {fields : List (String × Tree)}
      (hkeys : (fields.map Prod.fst).Nodup) (hfields : ∀ field ∈ fields, Writable depth field.2) :
      Writable (depth + 1) (.record fields)

theorem skipBlanks_append {blanks : List Char} (hblank : ∀ c ∈ blanks, isBlank c = true)
    (cs : List Char) : skipBlanks (blanks ++ cs) = skipBlanks cs :=
  List.dropWhile_append_of_pos hblank

theorem skipBlanks_cons {c : Char} (hc : isBlank c = false) (cs : List Char) :
    skipBlanks (c :: cs) = c :: cs := by
  simp [skipBlanks, hc]

theorem readValue?_append_blanks {blanks : List Char} (hblank : ∀ c ∈ blanks, isBlank c = true)
    (fuel : Nat) (cs : List Char) : readValue? fuel (blanks ++ cs) = readValue? fuel cs := by
  cases fuel with
  | zero => rfl
  | succ fuel => rw [readValue?, readValue?, skipBlanks_append hblank]

theorem endsNumeral_append_blanks {blanks : List Char} (hblank : ∀ c ∈ blanks, isBlank c = true)
    {cs : List Char} (hends : EndsNumeral cs) : EndsNumeral (blanks ++ cs) := by
  cases blanks with
  | nil => exact hends
  | cons c blanks =>
      have hc := hblank c List.mem_cons_self
      simp only [isBlank, Bool.or_eq_true, beq_iff_eq] at hc
      refine endsNumeral_cons _ ?_
      rcases hc with ((rfl | rfl) | rfl) | rfl <;> decide

theorem isBlank_of_starts_numeral {c : Char} (hc : c = '-' ∨ c.isDigit = true) :
    isBlank c = false := by
  rcases hc with rfl | hdigit
  · rfl
  · cases hblank : isBlank c with
    | false => rfl
    | true =>
        simp only [isBlank, Bool.or_eq_true, beq_iff_eq] at hblank
        rcases hblank with ((rfl | rfl) | rfl) | rfl <;> cases hdigit

theorem readValue?_numeral {cs rest : List Char} {numeral : Numeral}
    (hread : readNumeral? cs = some (numeral, [])) (hends : EndsNumeral rest) (fuel : Nat) :
    readValue? (fuel + 1) (cs ++ rest) = some (numeral.tree, rest) := by
  have happend := readNumeral?_append hends hread
  obtain ⟨c, tail, rfl, hc⟩ := exists_cons_of_readNumeral? hread
  have hblank := isBlank_of_starts_numeral hc
  have hother : c ≠ '"' ∧ c ≠ '[' ∧ c ≠ '{' := by
    refine ⟨?_, ?_, ?_⟩ <;> rintro rfl <;> rcases hc with heq | hdigit <;> contradiction
  rw [List.cons_append] at happend ⊢
  rw [readValue?, skipBlanks_cons hblank]
  split
  · next heq => cases heq
  · next heq => exact absurd (List.cons.inj heq).1 hother.1
  · next heq => exact absurd (List.cons.inj heq).1 hother.2.1
  · next heq => exact absurd (List.cons.inj heq).1 hother.2.2
  · next heq =>
      obtain ⟨rfl, rfl⟩ := List.cons.inj heq
      rw [if_pos hc, happend]
      rfl

theorem readValue?_quote (s : String) (rest : List Char) {fuel : Nat}
    (hfuel : 2 * (quote s).length ≤ fuel) :
    readValue? fuel (quote s ++ rest) = some (.text s, rest) := by
  have hlength := length_le_flatMap_escape s.toList
  have hquote : quote s = '"' :: (s.toList.flatMap escape ++ ['"']) := rfl
  rw [hquote] at hfuel ⊢
  simp only [List.length_cons, List.length_append, List.length_nil] at hfuel
  obtain ⟨fuel, rfl⟩ := Nat.exists_eq_succ_of_ne_zero (show fuel ≠ 0 by omega)
  have hread := readQuoted?_flatMap_escape s.toList rest (show s.toList.length < fuel by omega)
  rw [List.cons_append, List.append_assoc, List.cons_append, List.nil_append, readValue?,
    skipBlanks_cons rfl]
  simp only [hread, Option.bind_eq_bind, Option.bind_some, textOf?_map_some]
  rfl

section

variable {l : Layout}

/-- The first character of a value is neither a blank nor a closing bracket. -/
theorem exists_cons_of_writable {depth : Nat} {t : Tree} (h : Writable depth t) (l : Layout)
    (level : Nat) : ∃ c tail, l.chars level t = c :: tail ∧ isBlank c = false ∧ c ≠ ']' := by
  have hnumeral : ∀ {cs : List Char} {numeral : Numeral},
      readNumeral? cs = some (numeral, []) →
        ∃ c tail, cs = c :: tail ∧ isBlank c = false ∧ c ≠ ']' := by
    intro cs numeral hread
    obtain ⟨c, tail, rfl, hc⟩ := exists_cons_of_readNumeral? hread
    refine ⟨c, tail, rfl, isBlank_of_starts_numeral hc, ?_⟩
    rintro rfl
    rcases hc with heq | hdigit <;> contradiction
  cases h with
  | null => exact ⟨'n', _, rfl, rfl, by decide⟩
  | bool b =>
      cases b with
      | true => exact ⟨'t', _, rfl, rfl, by decide⟩
      | false => exact ⟨'f', _, rfl, rfl, by decide⟩
  | integer hlow hhigh =>
      obtain ⟨numeral, hread, -⟩ := readNumeral?_integerText hlow hhigh
      exact hnumeral hread
  | @number _ x hback =>
      cases hfinite : x.isFinite with
      | true =>
          obtain ⟨numeral, hread, -⟩ := hback hfinite
          exact hnumeral hread
      | false =>
          refine ⟨'n', ['u', 'l', 'l'], ?_, rfl, by decide⟩
          show numberText x = _
          rw [numberText, hfinite]
          rfl
  | text s => exact ⟨'"', _, rfl, rfl, by decide⟩
  | @list _ items _ => cases items <;> exact ⟨'[', _, rfl, rfl, by decide⟩
  | @record _ fields _ _ => cases fields <;> exact ⟨'\x7b', _, rfl, rfl, by decide⟩

/-- A tree is read back at every level, wherever a numeral may end, by enough fuel. -/
def IsReadBack (l : Layout) (t : Tree) : Prop :=
  ∀ (level fuel : Nat) (rest : List Char), EndsNumeral rest →
    2 * (l.chars level t).length ≤ fuel →
    readValue? fuel (l.chars level t ++ rest) = some (kept t, rest)

theorem endsNumeral_itemChars (l : Layout) (level : Nat) (items : List Tree) (rest : List Char) :
    EndsNumeral (l.itemChars level items ++ rest) := by
  cases items with
  | nil =>
      rw [Layout.itemChars, List.append_assoc]
      exact endsNumeral_append_blanks (l.isBlank_gap level) (endsNumeral_cons _ (by decide))
  | cons item items => exact endsNumeral_cons _ (by decide)

theorem readItems?_itemChars (level : Nat) {item : Tree} {items : List Tree}
    (hall : ∀ t ∈ item :: items, IsReadBack l t) {blanks : List Char}
    (hblank : ∀ c ∈ blanks, isBlank c = true) (rest : List Char) {fuel : Nat}
    (hfuel : 2 * ((l.chars (level + 1) item).length + (l.itemChars level items).length) ≤
      fuel) :
    readItems? fuel
        (blanks ++ (l.chars (level + 1) item ++ (l.itemChars level items ++ rest))) =
      some (kept item :: keptItems items, rest) := by
  induction items generalizing item blanks fuel with
  | nil =>
      have hlength : 0 < (l.itemChars level []).length := by
        simp [Layout.itemChars]
      obtain ⟨fuel, rfl⟩ := Nat.exists_eq_succ_of_ne_zero (show fuel ≠ 0 by omega)
      have hitem := hall item List.mem_cons_self (level + 1) fuel
        (l.itemChars level [] ++ rest) (endsNumeral_itemChars l level [] rest) (by omega)
      rw [readItems?, readValue?_append_blanks hblank, hitem]
      simp only [Option.bind_eq_bind, Option.bind_some, Layout.itemChars, List.append_assoc,
        skipBlanks_append (l.isBlank_gap level)]
      rfl
  | cons next items ih =>
      have hlength : (l.itemChars level (next :: items)).length =
          1 + ((l.gap (level + 1)).length + (l.chars (level + 1) next).length
            + (l.itemChars level items).length) := by
        simp only [Layout.itemChars, List.length_cons, List.length_append]
        omega
      obtain ⟨fuel, rfl⟩ := Nat.exists_eq_succ_of_ne_zero (show fuel ≠ 0 by omega)
      have hitem := hall item List.mem_cons_self (level + 1) fuel
        (l.itemChars level (next :: items) ++ rest)
        (endsNumeral_itemChars l level (next :: items) rest) (by omega)
      have hrest := ih (List.forall_mem_cons.1 hall).2 (l.isBlank_gap (level + 1))
        (show 2 * ((l.chars (level + 1) next).length + (l.itemChars level items).length) ≤
          fuel by omega)
      rw [readItems?, readValue?_append_blanks hblank, hitem]
      simp only [Option.bind_eq_bind, Option.bind_some, Layout.itemChars, List.cons_append,
        List.append_assoc]
      rw [skipBlanks_cons rfl]
      simp only [hrest, Option.bind_some]
      rfl

/-- A list of one item or more starts with its first item. -/
theorem readValue?_open_list {rest tail : List Char} {c : Char}
    (hrest : skipBlanks rest = c :: tail) (hc : c ≠ ']') (fuel : Nat) :
    readValue? (fuel + 1) ('[' :: rest) =
      (readItems? fuel (c :: tail)).map fun read => (.list read.1, read.2) := by
  rw [readValue?, skipBlanks_cons rfl]
  simp only [hrest]
  split
  · next heq => exact absurd (List.cons.inj heq).1 hc
  · cases readItems? fuel (c :: tail) <;> rfl

theorem isReadBack_list {items : List Tree} (hall : ∀ t ∈ items, IsReadBack l t)
    (hwritable : ∀ t ∈ items, ∃ depth, Writable depth t) : IsReadBack l (.list items) := by
  intro level fuel rest _ hfuel
  cases items with
  | nil =>
      have hlength : (l.chars level (.list [])).length = 2 := rfl
      obtain ⟨fuel, rfl⟩ := Nat.exists_eq_succ_of_ne_zero (show fuel ≠ 0 by omega)
      rfl
  | cons item items =>
      simp only [Layout.chars, List.length_cons, List.length_append] at hfuel
      obtain ⟨fuel, rfl⟩ := Nat.exists_eq_succ_of_ne_zero (show fuel ≠ 0 by omega)
      have hitems := readItems?_itemChars level hall (List.forall_mem_nil _) rest
        (show 2 * ((l.chars (level + 1) item).length + (l.itemChars level items).length) ≤
          fuel by omega)
      obtain ⟨depth, hitem⟩ := hwritable item List.mem_cons_self
      obtain ⟨c, tail, hhead, hblank, hbracket⟩ := exists_cons_of_writable hitem l (level + 1)
      have hstart : skipBlanks (l.gap (level + 1) ++ (l.chars (level + 1) item ++
          (l.itemChars level items ++ rest))) =
            c :: (tail ++ (l.itemChars level items ++ rest)) := by
        rw [skipBlanks_append (l.isBlank_gap (level + 1)), hhead, List.cons_append,
          skipBlanks_cons hblank]
      rw [List.nil_append, hhead, List.cons_append] at hitems
      simp only [Layout.chars, List.cons_append, List.append_assoc]
      rw [readValue?_open_list hstart hbracket, hitems]
      rfl

/-! ## Records -/

theorem endsNumeral_fieldsChars (l : Layout) (level : Nat) (fields : List (String × Tree))
    (rest : List Char) : EndsNumeral (l.fieldsChars level fields ++ rest) := by
  cases fields with
  | nil =>
      rw [Layout.fieldsChars, List.append_assoc]
      exact endsNumeral_append_blanks (l.isBlank_gap level) (endsNumeral_cons _ (by decide))
  | cons field fields => exact endsNumeral_cons _ (by decide)

/-- A field is read as far as its value goes. If a brace follows, it was the last one; if a comma
does, more fields are read. -/
theorem readFields?_fieldChars {level : Nat} {key : String} {value : Tree}
    (hvalue : IsReadBack l value) {blanks : List Char} (hblank : ∀ c ∈ blanks, isBlank c = true)
    {rest : List Char} (hends : EndsNumeral rest) {fuel : Nat}
    (hfuel : 2 * (l.fieldChars level (key, value)).length ≤ fuel) :
    (∀ left, skipBlanks rest = '\x7d' :: left →
      readFields? (fuel + 1) (blanks ++ (l.fieldChars level (key, value) ++ rest)) =
        some ([(some key, kept value)], left)) ∧
    (∀ more, skipBlanks rest = ',' :: more →
      readFields? (fuel + 1) (blanks ++ (l.fieldChars level (key, value) ++ rest)) =
        (readFields? fuel more).map fun read => ((some key, kept value) :: read.1, read.2)) := by
  have hkey := length_le_flatMap_escape key.toList
  simp only [Layout.fieldChars, quote, List.length_cons, List.length_append, List.length_nil] at hfuel
  have hquoted := readQuoted?_flatMap_escape key.toList
    (':' :: (l.afterColon ++ (l.chars (level + 1) value ++ rest)))
    (show key.toList.length < fuel by omega)
  have hread := hvalue (level + 1) fuel rest hends (by omega)
  have hspaced : readValue? fuel (l.afterColon ++ (l.chars (level + 1) value ++ rest)) =
      some (kept value, rest) :=
    (readValue?_append_blanks l.isBlank_afterColon fuel _).trans hread
  simp only [Layout.fieldChars, quote, List.cons_append, List.append_assoc, List.nil_append]
  rw [readFields?, skipBlanks_append hblank, skipBlanks_cons rfl]
  simp only [hquoted, Option.bind_eq_bind, Option.bind_some]
  rw [skipBlanks_cons rfl]
  simp only [hspaced, Option.bind_some, textOf?_map_some]
  constructor
  · intro left hleft
    simp only [hleft]
  · intro more hmore
    simp only [hmore]
    cases readFields? fuel more <;> rfl

theorem readFields?_fieldsChars (level : Nat) {field : String × Tree}
    {fields : List (String × Tree)} (hall : ∀ f ∈ field :: fields, IsReadBack l f.2)
    {blanks : List Char} (hblank : ∀ c ∈ blanks, isBlank c = true) (rest : List Char) {fuel : Nat}
    (hfuel : 2 * ((l.fieldChars level field).length + (l.fieldsChars level fields).length) ≤
      fuel) :
    readFields? fuel
        (blanks ++ (l.fieldChars level field ++ (l.fieldsChars level fields ++ rest))) =
      some ((keptFields (field :: fields)).map fun f => (some f.1, f.2), rest) := by
  induction fields generalizing field blanks fuel with
  | nil =>
      have hlength : 0 < (l.fieldsChars level []).length := by
        simp [Layout.fieldsChars]
      obtain ⟨fuel, rfl⟩ := Nat.exists_eq_succ_of_ne_zero (show fuel ≠ 0 by omega)
      obtain ⟨key, value⟩ := field
      have hfield : IsReadBack l value := hall (key, value) List.mem_cons_self
      refine (readFields?_fieldChars hfield hblank (endsNumeral_fieldsChars l level [] rest)
        (by omega)).1 rest ?_
      rw [Layout.fieldsChars, List.append_assoc, skipBlanks_append (l.isBlank_gap level)]
      rfl
  | cons next fields ih =>
      have hlength : (l.fieldsChars level (next :: fields)).length =
          1 + ((l.gap (level + 1)).length + (l.fieldChars level next).length
            + (l.fieldsChars level fields).length) := by
        simp only [Layout.fieldsChars, List.length_cons, List.length_append]
        omega
      obtain ⟨fuel, rfl⟩ := Nat.exists_eq_succ_of_ne_zero (show fuel ≠ 0 by omega)
      obtain ⟨key, value⟩ := field
      have hrest := ih (List.forall_mem_cons.1 hall).2 (l.isBlank_gap (level + 1))
        (show 2 * ((l.fieldChars level next).length + (l.fieldsChars level fields).length) ≤
          fuel by omega)
      have hfield : IsReadBack l value := hall (key, value) List.mem_cons_self
      have hcomma : skipBlanks (l.fieldsChars level (next :: fields) ++ rest) =
          ',' :: (l.gap (level + 1) ++ (l.fieldChars level next ++
            (l.fieldsChars level fields ++ rest))) := by
        rw [Layout.fieldsChars, List.cons_append, skipBlanks_cons rfl, List.append_assoc,
          List.append_assoc]
      have hends := endsNumeral_fieldsChars l level (next :: fields) rest
      rw [(readFields?_fieldChars hfield hblank hends (by omega)).2 _ hcomma, hrest]
      rfl

/-- A record of one field or more starts with the key of its first field. -/
theorem readValue?_open_record {rest tail : List Char} (hrest : skipBlanks rest = '"' :: tail)
    (fuel : Nat) :
    readValue? (fuel + 1) ('\x7b' :: rest) =
      (readFields? fuel ('"' :: tail)).map fun read => (recordOf read.1, read.2) := by
  rw [readValue?, skipBlanks_cons rfl]
  simp only [hrest]
  split
  · next heq => cases heq
  · cases readFields? fuel ('"' :: tail) <;> rfl

/-- A record all of whose keys are readable. -/
theorem recordOf_map_some (fields : List (String × Tree)) :
    recordOf (fields.map fun f => (some f.1, f.2)) = .record fields := by
  have hall : (fields.map fun f => (some f.1, f.2)).mapM
      (fun f : Option String × Tree => f.1.map fun key => (key, f.2)) = some fields := by
    induction fields with
    | nil => rfl
    | cons field fields ih => simp [List.mapM_cons, ih]
  rw [recordOf, hall]

theorem isReadBack_record {fields : List (String × Tree)} (hall : ∀ f ∈ fields, IsReadBack l f.2) :
    IsReadBack l (.record fields) := by
  intro level fuel rest _ hfuel
  cases fields with
  | nil =>
      have hlength : (l.chars level (.record [])).length = 2 := rfl
      obtain ⟨fuel, rfl⟩ := Nat.exists_eq_succ_of_ne_zero (show fuel ≠ 0 by omega)
      rfl
  | cons field fields =>
      simp only [Layout.chars, List.length_cons, List.length_append] at hfuel
      obtain ⟨fuel, rfl⟩ := Nat.exists_eq_succ_of_ne_zero (show fuel ≠ 0 by omega)
      have hfields := readFields?_fieldsChars level hall (List.forall_mem_nil _) rest
        (show 2 * ((l.fieldChars level field).length + (l.fieldsChars level fields).length) ≤
          fuel by omega)
      obtain ⟨key, value⟩ := field
      obtain ⟨tail, htail⟩ : ∃ tail, l.fieldChars level (key, value) ++
          (l.fieldsChars level fields ++ rest) = '"' :: tail := ⟨_, rfl⟩
      rw [List.nil_append, htail] at hfields
      simp only [Layout.chars, List.cons_append, List.append_assoc]
      have hopen : skipBlanks (l.gap (level + 1) ++ (l.fieldChars level (key, value) ++
          (l.fieldsChars level fields ++ rest))) = '"' :: tail := by
        rw [skipBlanks_append (l.isBlank_gap (level + 1)), htail, skipBlanks_cons rfl]
      rw [readValue?_open_record hopen, hfields]
      simp only [Option.map_some, recordOf_map_some]
      rfl

/-- The text of a document is read as what is kept of it, at every level and before whatever may
follow a numeral. -/
theorem isReadBack_of_writable {depth : Nat} {t : Tree} (h : Writable depth t) : IsReadBack l t := by
  induction h with
  | null =>
      intro level fuel rest _ hfuel
      have hlength : (l.chars level .null).length = 4 := rfl
      obtain ⟨fuel, rfl⟩ := Nat.exists_eq_succ_of_ne_zero (show fuel ≠ 0 by omega)
      rfl
  | bool b =>
      intro level fuel rest _ hfuel
      have hlength : 4 ≤ (scalarText (.bool b)).length := by cases b <;> decide
      have hsame : l.chars level (.bool b) = scalarText (.bool b) := rfl
      rw [hsame] at hfuel
      obtain ⟨fuel, rfl⟩ := Nat.exists_eq_succ_of_ne_zero (show fuel ≠ 0 by omega)
      cases b <;> rfl
  | @integer _ n hlow hhigh =>
      intro level fuel rest hends hfuel
      obtain ⟨numeral, hread, htree⟩ := readNumeral?_integerText hlow hhigh
      have hsame : l.chars level (.integer n) = integerText n := rfl
      obtain ⟨c, tail, htext, -⟩ := exists_cons_of_readNumeral? hread
      rw [hsame, htext, List.length_cons] at hfuel
      obtain ⟨fuel, rfl⟩ := Nat.exists_eq_succ_of_ne_zero (show fuel ≠ 0 by omega)
      rw [hsame, readValue?_numeral hread hends, htree]
      rfl
  | @number _ x hback =>
      intro level fuel rest hends hfuel
      have hsame : l.chars level (.number x) = numberText x := rfl
      cases hfinite : x.isFinite with
      | true =>
          obtain ⟨numeral, hread, htree⟩ := hback hfinite
          obtain ⟨c, tail, htext, -⟩ := exists_cons_of_readNumeral? hread
          rw [hsame, htext, List.length_cons] at hfuel
          obtain ⟨fuel, rfl⟩ := Nat.exists_eq_succ_of_ne_zero (show fuel ≠ 0 by omega)
          rw [hsame, readValue?_numeral hread hends, htree, kept, if_pos hfinite]
      | false =>
          have hnull : numberText x = ['n', 'u', 'l', 'l'] := by
            rw [numberText, hfinite]
            rfl
          rw [hsame, hnull] at hfuel
          obtain ⟨fuel, rfl⟩ := Nat.exists_eq_succ_of_ne_zero (show fuel ≠ 0 by
            simp only [List.length_cons, List.length_nil] at hfuel
            omega)
          rw [hsame, hnull, kept, hfinite]
          rfl
  | text s =>
      intro level fuel rest _ hfuel
      exact readValue?_quote s rest hfuel
  | list hitems ih => exact isReadBack_list ih fun t ht => ⟨_, hitems t ht⟩
  | record hkeys hfields ih => exact isReadBack_record ih

/-- What is written of a document is read as what is kept of it. -/
theorem read?_text (l : Layout) {depth : Nat} {t : Tree} (h : Writable depth t) :
    read? (l.text t) = some (kept t) := by
  have hread : readValue? (2 * (l.chars 0 t).length + 2) (l.chars 0 t ++ []) = some (kept t, []) :=
    isReadBack_of_writable h 0 _ [] nofun (by omega)
  rw [List.append_nil] at hread
  simp only [read?, Layout.text, String.toList_ofList, hread]
  rfl

end

theorem field?_eq_none {key : String} {fields : List (String × Tree)}
    (hkey : key ∉ fields.map Prod.fst) : Tree.field? key fields = none := by
  induction fields with
  | nil => rfl
  | cons field rest ih =>
      obtain ⟨k, value⟩ := field
      rw [List.map_cons, List.mem_cons, not_or] at hkey
      rw [Tree.field?, ih hkey.2]
      exact if_neg fun heq => hkey.1 heq.symm

/-- Where no key is there twice, every value is the last one under its key. -/
theorem lastWins_of_nodup {fields : List (String × Tree)} (h : (fields.map Prod.fst).Nodup) :
    Tree.lastWins fields = fields := by
  induction fields with
  | nil => rfl
  | cons field rest ih =>
      obtain ⟨k, value⟩ := field
      rw [List.map_cons, List.nodup_cons] at h
      have hother : ∀ f ∈ rest, decide (f.1 ≠ k) = true := by
        intro f hf
        refine decide_eq_true fun heq => h.1 ?_
        have hmem : f.1 ∈ rest.map Prod.fst := List.mem_map_of_mem hf
        rwa [heq] at hmem
      rw [Tree.lastWins, field?_eq_none h.1, ih h.2, List.filter_eq_self.2 hother]
      rfl

theorem genericItems?_keptItems {depth : Nat} {items : List Tree}
    (hall : ∀ item ∈ items, Tree.generic? depth (kept item) = some (kept item)) :
    Tree.genericItems? depth (keptItems items) = some (keptItems items) := by
  induction items with
  | nil => rfl
  | cons item rest ih =>
      rw [List.forall_mem_cons] at hall
      simp [keptItems, Tree.genericItems?, hall.1, ih hall.2]

theorem genericFields?_keptFields {depth : Nat} {fields : List (String × Tree)}
    (hall : ∀ field ∈ fields, Tree.generic? depth (kept field.2) = some (kept field.2)) :
    Tree.genericFields? depth (keptFields fields) = some (keptFields fields) := by
  induction fields with
  | nil => rfl
  | cons field rest ih =>
      obtain ⟨key, value⟩ := field
      rw [List.forall_mem_cons] at hall
      simp [keptFields, Tree.genericFields?, hall.1, ih hall.2]

theorem map_fst_keptFields (fields : List (String × Tree)) :
    (keptFields fields).map Prod.fst = fields.map Prod.fst := by
  rw [keptFields_eq, List.map_map]
  rfl

/-- What is kept of a document is a value of its own. -/
theorem generic?_kept {depth : Nat} {t : Tree} (h : Writable depth t) :
    Tree.generic? depth (kept t) = some (kept t) := by
  induction h with
  | null => rfl
  | bool b => rfl
  | integer hlow hhigh => rfl
  | @number depth x hback => cases hfinite : x.isFinite <;> simp [kept, hfinite, Tree.generic?]
  | text s => rfl
  | list hitems ih => rw [kept, Tree.generic?, genericItems?_keptItems ih, Option.map_some]
  | record hkeys hfields ih =>
      rw [kept, Tree.generic?, genericFields?_keptFields ih, Option.map_some,
        lastWins_of_nodup ((map_fst_keptFields _).symm ▸ hkeys)]

/-- What is written of a document is a value of its own when it is read. -/
theorem readGeneric?_text (l : Layout) {t : Tree} (h : Writable maxDepth t) :
    readGeneric? (l.text t) = some (kept t) := by
  rw [readGeneric?, read?_text l h, Option.bind_some, generic?_kept h]

theorem readGeneric?_indented {t : Tree} (h : Writable maxDepth t) :
    readGeneric? (indented t) = some (kept t) := by
  rw [← Layout.text_indented, readGeneric?_text .indented h]

end InferenceFleet.Json
