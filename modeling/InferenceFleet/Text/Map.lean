/-!
# Maps with text keys

Finite maps whose keys are texts, kept in ascending order of the keys by code points. The order is
part of the type: there is one map for each set of bindings, and listing a map needs no sorting.
Reading after a write is described by `get?_insert`, `get?_erase` and `get?_modify`, and two maps
with the same readings are equal (`ext_get?`).
-/

namespace InferenceFleet

/-- A finite map, listed by ascending keys. -/
structure TextMap (α : Type) where
  entries : List (String × α)
  ascending : entries.Pairwise fun a b => a.1 < b.1
  deriving DecidableEq

namespace TextMap

variable {α β : Type}

/-- The value bound to a key in a list of bindings. -/
def find (key : String) : List (String × α) → Option α
  | [] => none
  | (k, v) :: rest => if k = key then some v else find key rest

/-- A binding put at its place among ascending ones, over the one it replaces. -/
def place (key : String) (value : α) : List (String × α) → List (String × α)
  | [] => [(key, value)]
  | (k, v) :: rest =>
      if key < k then (key, value) :: (k, v) :: rest
      else if key = k then (key, value) :: rest
      else (k, v) :: place key value rest

theorem mem_place {key : String} {value : α} {entries : List (String × α)} {b : String × α}
    (hb : b ∈ place key value entries) : b = (key, value) ∨ b ∈ entries := by
  induction entries with
  | nil => exact .inl (by simpa [place] using hb)
  | cons head rest ih =>
      obtain ⟨k, v⟩ := head
      unfold place at hb
      split at hb
      · simpa using hb
      · split at hb
        · rcases List.mem_cons.1 hb with h | h
          · exact .inl h
          · exact .inr (List.mem_cons_of_mem _ h)
        · rcases List.mem_cons.1 hb with h | h
          · exact .inr (h ▸ List.mem_cons_self)
          · exact (ih h).imp id (List.mem_cons_of_mem _)

theorem place_ascending {key : String} {value : α} {entries : List (String × α)}
    (h : entries.Pairwise fun a b => a.1 < b.1) :
    (place key value entries).Pairwise fun a b => a.1 < b.1 := by
  induction entries with
  | nil => simp [place]
  | cons head rest ih =>
      obtain ⟨k, v⟩ := head
      have hrest := List.pairwise_cons.1 h
      unfold place
      split
      · next hlt =>
          refine List.pairwise_cons.2 ⟨fun b hb => ?_, h⟩
          rcases List.mem_cons.1 hb with rfl | hb
          · exact hlt
          · exact String.lt_trans hlt (hrest.1 b hb)
      · next hnot =>
          split
          · next heq => exact List.pairwise_cons.2 ⟨heq ▸ hrest.1, hrest.2⟩
          · next hne =>
              refine List.pairwise_cons.2 ⟨fun b hb => ?_, ih hrest.2⟩
              rcases mem_place hb with rfl | hb
              · exact Decidable.byContradiction fun hnot' =>
                  hne (String.le_antisymm (String.not_lt.1 hnot') (String.not_lt.1 hnot))
              · exact hrest.1 b hb

theorem find_place (key k : String) (value : α) (entries : List (String × α)) :
    find k (place key value entries) = if key = k then some value else find k entries := by
  induction entries with
  | nil => simp [place, find]
  | cons head rest ih =>
      obtain ⟨k', v'⟩ := head
      unfold place
      split
      · simp [find]
      · split
        · next heq => subst heq; simp only [find]; split <;> rfl
        · next hne =>
            simp only [find, ih]
            by_cases h' : k' = k
            · subst h'; simp [hne]
            · simp [h']

theorem find_eq_none_of_forall {key : String} {entries : List (String × α)}
    (h : ∀ b ∈ entries, b.1 ≠ key) : find key entries = none := by
  induction entries with
  | nil => rfl
  | cons head rest ih =>
      simp only [find, if_neg (h head List.mem_cons_self)]
      exact ih fun b hb => h b (List.mem_cons_of_mem _ hb)

theorem mem_of_find {key : String} {value : α} {entries : List (String × α)}
    (h : find key entries = some value) : (key, value) ∈ entries := by
  induction entries with
  | nil => simp [find] at h
  | cons head rest ih =>
      obtain ⟨k, v⟩ := head
      simp only [find] at h
      split at h
      · next hk => simp_all
      · exact List.mem_cons_of_mem _ (ih h)

theorem find_of_mem {key : String} {value : α} {entries : List (String × α)}
    (hasc : entries.Pairwise fun a b => a.1 < b.1) (h : (key, value) ∈ entries) :
    find key entries = some value := by
  induction entries with
  | nil => simp at h
  | cons head rest ih =>
      obtain ⟨k, v⟩ := head
      have hrest := List.pairwise_cons.1 hasc
      rcases List.mem_cons.1 h with heq | h
      · injection heq with hk hv
        simp [find, hk, hv]
      · have hne : k ≠ key := fun hk => String.lt_irrefl key (hk ▸ hrest.1 _ h)
        simp [find, hne, ih hrest.2 h]

theorem find_filter (key k : String) (entries : List (String × α)) :
    find k (entries.filter fun b => b.1 ≠ key) = if key = k then none else find k entries := by
  induction entries with
  | nil => simp [find]
  | cons head rest ih =>
      obtain ⟨k', v'⟩ := head
      by_cases hk : k' = key
      · subst hk
        simp only [ne_eq, not_true_eq_false, decide_false, Bool.false_eq_true, not_false_eq_true,
          List.filter_cons_of_neg, find] at ih ⊢
        rw [ih]
        split <;> simp_all
      · simp only [ne_eq, hk, not_false_eq_true, decide_true, List.filter_cons_of_pos, find] at ih ⊢
        rw [ih]
        by_cases h' : k' = k
        · subst h'; simp [Ne.symm hk]
        · simp [h']

theorem length_place {key : String} {value : α} {entries : List (String × α)}
    (h : find key entries = none) : (place key value entries).length = entries.length + 1 := by
  induction entries with
  | nil => rfl
  | cons head rest ih =>
      obtain ⟨k, v⟩ := head
      have hne : ¬ k = key := fun hk => by simp [find, hk] at h
      rw [find, if_neg hne] at h
      unfold place
      split
      · rfl
      · rw [if_neg (Ne.symm hne), List.length_cons, ih h]
        rfl

/-- The map without bindings. -/
def empty : TextMap α := ⟨[], .nil⟩

instance : EmptyCollection (TextMap α) := ⟨empty⟩

instance : Inhabited (TextMap α) := ⟨empty⟩

/-- The value bound to a key. -/
def get? (m : TextMap α) (key : String) : Option α := find key m.entries

/-- Whether a key is bound. -/
def contains (m : TextMap α) (key : String) : Bool := (m.get? key).isSome

/-- The map with a key bound to a value. -/
def insert (m : TextMap α) (key : String) (value : α) : TextMap α :=
  ⟨place key value m.entries, place_ascending m.ascending⟩

/-- The map without a key. -/
def erase (m : TextMap α) (key : String) : TextMap α :=
  ⟨m.entries.filter fun b => b.1 ≠ key, m.ascending.filter _⟩

/-- The map with the value of a key replaced by its image, if the key is bound. -/
def modify (m : TextMap α) (key : String) (f : α → α) : TextMap α :=
  match m.get? key with
  | some value => m.insert key (f value)
  | none => m

/-- The keys, ascending. -/
def keys (m : TextMap α) : List String := m.entries.map Prod.fst

/-- The values, by ascending keys. -/
def values (m : TextMap α) : List α := m.entries.map Prod.snd

/-- The number of bindings. -/
def size (m : TextMap α) : Nat := m.entries.length

/-- Whether nothing is bound. -/
def isEmpty (m : TextMap α) : Bool := m.entries.isEmpty

/-- The bindings of a list, a later one over an earlier one. -/
def ofList (bindings : List (String × α)) : TextMap α :=
  bindings.foldl (fun m b => m.insert b.1 b.2) empty

/-- The image of every value under a function. -/
def map (f : α → β) (m : TextMap α) : TextMap β :=
  ⟨m.entries.map fun b => (b.1, f b.2), List.pairwise_map.2 m.ascending⟩

@[simp]
theorem get?_empty (key : String) : (empty : TextMap α).get? key = none := rfl

@[simp]
theorem get?_insert (m : TextMap α) (key k : String) (value : α) :
    (m.insert key value).get? k = if key = k then some value else m.get? k :=
  find_place key k value m.entries

/-- A new key is one more. -/
theorem size_insert {m : TextMap α} {key : String} (h : m.get? key = none) (value : α) :
    (m.insert key value).size = m.size + 1 := length_place h

@[simp]
theorem get?_erase (m : TextMap α) (key k : String) :
    (m.erase key).get? k = if key = k then none else m.get? k :=
  find_filter key k m.entries

@[simp]
theorem get?_modify (m : TextMap α) (key k : String) (f : α → α) :
    (m.modify key f).get? k = if key = k then (m.get? k).map f else m.get? k := by
  unfold modify
  split
  · next value h => by_cases hk : key = k <;> simp_all
  · next h => by_cases hk : key = k <;> simp_all

/-- A binding is listed exactly if reading its key gives its value. -/
theorem mem_entries_iff {m : TextMap α} {key : String} {value : α} :
    (key, value) ∈ m.entries ↔ m.get? key = some value :=
  ⟨find_of_mem m.ascending, mem_of_find⟩

/-- Ascending lists with the same bindings are the same list. -/
theorem eq_of_mem_iff {xs ys : List (String × α)} (hx : xs.Pairwise fun a b => a.1 < b.1)
    (hy : ys.Pairwise fun a b => a.1 < b.1) (h : ∀ b, b ∈ xs ↔ b ∈ ys) : xs = ys := by
  induction xs generalizing ys with
  | nil =>
      cases ys with
      | nil => rfl
      | cons y ys => exact absurd ((h y).2 List.mem_cons_self) List.not_mem_nil
  | cons x xs ih =>
      cases ys with
      | nil => exact absurd ((h x).1 List.mem_cons_self) List.not_mem_nil
      | cons y ys =>
          have hxs := List.pairwise_cons.1 hx
          have hys := List.pairwise_cons.1 hy
          have heq : x = y := by
            rcases List.mem_cons.1 ((h x).1 List.mem_cons_self) with hxy | hxy
            · exact hxy
            · rcases List.mem_cons.1 ((h y).2 List.mem_cons_self) with hyx | hyx
              · exact hyx.symm
              · exact absurd (hys.1 x hxy) (String.lt_asymm (hxs.1 y hyx))
          subst heq
          refine congrArg _ (ih hxs.2 hys.2 fun b => ⟨fun hb => ?_, fun hb => ?_⟩)
          · rcases List.mem_cons.1 ((h b).1 (List.mem_cons_of_mem _ hb)) with rfl | hb'
            · exact absurd (hxs.1 b hb) (String.lt_irrefl _)
            · exact hb'
          · rcases List.mem_cons.1 ((h b).2 (List.mem_cons_of_mem _ hb)) with rfl | hb'
            · exact absurd (hys.1 b hb) (String.lt_irrefl _)
            · exact hb'

/-- Maps with the same readings are equal. -/
theorem ext_get? {m n : TextMap α} (h : ∀ key, m.get? key = n.get? key) : m = n := by
  obtain ⟨xs, hx⟩ := m
  obtain ⟨ys, hy⟩ := n
  have heq : xs = ys := eq_of_mem_iff hx hy fun b => by
    have hm := @mem_entries_iff α ⟨xs, hx⟩ b.1 b.2
    have hn := @mem_entries_iff α ⟨ys, hy⟩ b.1 b.2
    exact hm.trans ((h b.1) ▸ hn.symm)
  subst heq
  rfl

/-- Keys are listed once each and in ascending order. -/
theorem keys_ascending (m : TextMap α) : m.keys.Pairwise (· < ·) :=
  List.pairwise_map.2 m.ascending

end TextMap

end InferenceFleet
