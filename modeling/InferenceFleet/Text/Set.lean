import InferenceFleet.Text.Map

/-!
# Sets of texts

Finite sets of texts, listed in ascending order by code points. A set is a map that binds its
members to nothing, so that membership after an insertion follows from reading after a write.
-/

namespace InferenceFleet

/-- A finite set, listed in ascending order. -/
structure TextSet where
  members : TextMap Unit
  deriving DecidableEq

namespace TextSet

/-- The set without members. -/
def empty : TextSet := ⟨TextMap.empty⟩

instance : EmptyCollection TextSet := ⟨empty⟩

instance : Inhabited TextSet := ⟨empty⟩

/-- Whether a text is a member. -/
def contains (s : TextSet) (item : String) : Bool := s.members.contains item

/-- The set with one more member. -/
def insert (s : TextSet) (item : String) : TextSet := ⟨s.members.insert item ()⟩

/-- The members, ascending. -/
def toList (s : TextSet) : List String := s.members.keys

/-- The number of members. -/
def size (s : TextSet) : Nat := s.members.size

/-- The set with all of a list as members too. -/
def insertMany (s : TextSet) (items : List String) : TextSet := items.foldl insert s

/-- The set of the items of a list. -/
def ofList (items : List String) : TextSet := empty.insertMany items

@[simp]
theorem contains_empty (item : String) : empty.contains item = false := rfl

@[simp]
theorem contains_insert (s : TextSet) (item x : String) :
    (s.insert item).contains x = (decide (item = x) || s.contains x) := by
  by_cases h : item = x <;> simp [insert, contains, TextMap.contains, h]

@[simp]
theorem contains_insertMany (s : TextSet) (items : List String) (x : String) :
    (s.insertMany items).contains x = (decide (x ∈ items) || s.contains x) := by
  induction items generalizing s with
  | nil => simp [insertMany]
  | cons item rest ih =>
      have h := ih (s.insert item)
      simp only [insertMany, List.foldl_cons] at h ⊢
      rw [h, contains_insert]
      by_cases hx : x = item
      · subst hx; simp
      · simp [hx, Ne.symm hx]

end TextSet

end InferenceFleet
