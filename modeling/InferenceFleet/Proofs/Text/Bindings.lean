import InferenceFleet.Text.Map
import Mathlib.Data.List.Induction

/-!
# Maps given by lists of bindings

When the bindings of a list are inserted one after the other, the last one of a key counts. So the
bindings of a map, which has every key once, make up that map again (`ofList_entries`).
-/

namespace InferenceFleet.TextMap

variable {α : Type} {key : String} {value : α} {entries : List (String × α)}

/-- Where all bindings of a key have the same value, reading the key gives it. -/
theorem find_eq_some_of_forall (hmem : (key, value) ∈ entries)
    (hall : ∀ b ∈ entries, b.1 = key → b.2 = value) : find key entries = some value := by
  induction entries with
  | nil => cases hmem
  | cons b rest ih =>
      rw [List.forall_mem_cons] at hall
      by_cases hb : b.1 = key
      · rw [find, if_pos hb, hall.1 hb]
      · rcases List.mem_cons.1 hmem with rfl | hrest
        · exact absurd rfl hb
        · rw [find, if_neg hb, ih hrest hall.2]

/-- The last binding that was inserted counts, and what was there before only without one. -/
theorem get?_foldl_insert (m : TextMap α) (bindings : List (String × α)) (key : String) :
    (bindings.foldl (fun m b => m.insert b.1 b.2) m).get? key =
      (find key bindings.reverse).or (m.get? key) := by
  induction bindings using List.reverseRecOn with
  | nil => rfl
  | append_singleton front b ih =>
      rw [List.foldl_append, List.foldl_cons, List.foldl_nil, get?_insert, ih,
        List.reverse_concat, find]
      split <;> rfl

/-- Where no key is bound twice, the order of the bindings does not matter. -/
theorem find_reverse_of_ascending (hasc : entries.Pairwise fun a b => a.1 < b.1) (key : String) :
    find key entries.reverse = find key entries := by
  cases hfind : find key entries with
  | some value =>
      refine find_eq_some_of_forall (List.mem_reverse.2 (mem_of_find hfind)) ?_
      rintro ⟨_, value'⟩ hb rfl
      rw [find_of_mem hasc (List.mem_reverse.1 hb)] at hfind
      exact Option.some.inj hfind
  | none =>
      refine find_eq_none_of_forall ?_
      rintro ⟨_, value'⟩ hb rfl
      rw [find_of_mem hasc (List.mem_reverse.1 hb)] at hfind
      cases hfind

/-- A map is the map of its bindings. -/
theorem ofList_entries (m : TextMap α) : ofList m.entries = m := by
  refine ext_get? fun key => ?_
  rw [ofList, get?_foldl_insert, find_reverse_of_ascending m.ascending, get?_empty, Option.or_none]
  rfl

end InferenceFleet.TextMap
