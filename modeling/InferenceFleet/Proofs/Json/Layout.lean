import InferenceFleet.Json.Reader
import InferenceFleet.Json.Writer

/-!
# Layouts of JSON text

The compact and the indented text of a tree differ in nothing but their blanks. A layout says which
blanks stand before an item, a field and a closing bracket, and after the colon of a field; what is
shown of the texts in every layout then holds of both.
-/

namespace InferenceFleet.Json

/-- The blanks of a text: before what stands at a level of indentation, and after a colon. -/
structure Layout where
  gap : Nat → List Char
  afterColon : List Char
  isBlank_gap : ∀ level, ∀ c ∈ gap level, isBlank c = true
  isBlank_afterColon : ∀ c ∈ afterColon, isBlank c = true

namespace Layout

mutual
/-- A tree at a level of indentation. -/
def chars (l : Layout) (level : Nat) : Tree → List Char
  | .list [] => ['[', ']']
  | .list (item :: items) =>
      '[' :: (l.gap (level + 1) ++ (chars l (level + 1) item ++ itemChars l level items))
  | .record [] => ['{', '}']
  | .record (field :: fields) =>
      '{' :: (l.gap (level + 1) ++ (fieldChars l level field ++ fieldsChars l level fields))
  | scalar => scalarText scalar

/-- The later items of a list at a level, and the closing bracket. -/
def itemChars (l : Layout) (level : Nat) : List Tree → List Char
  | [] => l.gap level ++ [']']
  | item :: items =>
      ',' :: (l.gap (level + 1) ++ (chars l (level + 1) item ++ itemChars l level items))

/-- A key and its value, inside a record at a level. -/
def fieldChars (l : Layout) (level : Nat) : String × Tree → List Char
  | (key, value) => quote key ++ ':' :: (l.afterColon ++ chars l (level + 1) value)

/-- The later fields of a record at a level, and the closing brace. -/
def fieldsChars (l : Layout) (level : Nat) : List (String × Tree) → List Char
  | [] => l.gap level ++ ['}']
  | field :: fields =>
      ',' :: (l.gap (level + 1) ++ (fieldChars l level field ++ fieldsChars l level fields))
end

/-- No blanks at all. -/
def compact : Layout where
  gap _ := []
  afterColon := []
  isBlank_gap _ := List.forall_mem_nil _
  isBlank_afterColon := List.forall_mem_nil _

@[simp]
theorem gap_compact (level : Nat) : compact.gap level = [] :=
  rfl

@[simp]
theorem afterColon_compact : compact.afterColon = [] :=
  rfl

theorem isBlank_newline (level : Nat) : ∀ c ∈ newline level, isBlank c = true := by
  intro c hc
  rcases List.mem_cons.1 hc with rfl | hspace
  · rfl
  · rw [(List.mem_replicate.1 hspace).2]
    rfl

/-- One item or field a line. -/
def indented : Layout where
  gap := newline
  afterColon := [' ']
  isBlank_gap := isBlank_newline
  isBlank_afterColon := List.forall_mem_singleton.2 rfl

@[simp]
theorem gap_indented (level : Nat) : indented.gap level = newline level :=
  rfl

@[simp]
theorem afterColon_indented : indented.afterColon = [' '] :=
  rfl

mutual
theorem chars_compact (level : Nat) : ∀ t, compact.chars level t = compactChars t
  | .list [] => rfl
  | .list (item :: items) => by
      simp [chars, compactChars, chars_compact _ item, itemChars_compact _ items]
  | .record [] => rfl
  | .record (field :: fields) => by
      simp [chars, compactChars, fieldChars_compact _ field, fieldsChars_compact _ fields]
  | .null | .bool _ | .integer _ | .number _ | .text _ | .unreadable => rfl

theorem itemChars_compact (level : Nat) :
    ∀ items, compact.itemChars level items = compactItems items
  | [] => rfl
  | item :: items => by
      simp [itemChars, compactItems, chars_compact _ item, itemChars_compact _ items]

theorem fieldChars_compact (level : Nat) :
    ∀ field, compact.fieldChars level field = compactField field
  | (key, value) => by simp [fieldChars, compactField, chars_compact _ value]

theorem fieldsChars_compact (level : Nat) :
    ∀ fields, compact.fieldsChars level fields = compactFields fields
  | [] => rfl
  | field :: fields => by
      simp [fieldsChars, compactFields, fieldChars_compact _ field, fieldsChars_compact _ fields]
end

mutual
theorem chars_indented (level : Nat) : ∀ t, indented.chars level t = indentedChars level t
  | .list [] => rfl
  | .list (item :: items) => by
      simp [chars, indentedChars, chars_indented _ item, itemChars_indented _ items]
  | .record [] => rfl
  | .record (field :: fields) => by
      simp [chars, indentedChars, fieldChars_indented _ field, fieldsChars_indented _ fields]
  | .null | .bool _ | .integer _ | .number _ | .text _ | .unreadable => rfl

theorem itemChars_indented (level : Nat) :
    ∀ items, indented.itemChars level items = indentedItems level items
  | [] => rfl
  | item :: items => by
      simp [itemChars, indentedItems, chars_indented _ item, itemChars_indented _ items]

theorem fieldChars_indented (level : Nat) :
    ∀ field, indented.fieldChars level field = indentedField level field
  | (key, value) => by simp [fieldChars, indentedField, chars_indented _ value]

theorem fieldsChars_indented (level : Nat) :
    ∀ fields, indented.fieldsChars level fields = indentedFields level fields
  | [] => rfl
  | field :: fields => by
      simp [fieldsChars, indentedFields, fieldChars_indented _ field,
        fieldsChars_indented _ fields]
end

/-- The text of a tree. -/
def text (l : Layout) (t : Tree) : String :=
  String.ofList (l.chars 0 t)

theorem text_compact (t : Tree) : compact.text t = Json.compact t := by
  rw [text, chars_compact, Json.compact]

theorem text_indented (t : Tree) : indented.text t = Json.indented t := by
  rw [text, chars_indented, Json.indented]

end Layout

end InferenceFleet.Json
