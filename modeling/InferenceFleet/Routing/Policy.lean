import InferenceFleet.Routing.Request
import InferenceFleet.Text.Blank
import InferenceFleet.Text.Digits
import InferenceFleet.Text.Display
import InferenceFleet.Text.LowerCase

/-!
# Preference policies

A policy turns a task into an ordered list of models. Keywords sort prompts into categories, the
first rule whose keyword occurs deciding; roles name categories directly; and every category has
a list of models in order of preference, with one list for all that have none of their own. A
policy is the built-in one with the settings of a configuration laid over it. A hook may name one
more model for a category, which is then preferred to all others; a hook that fails is ignored.
-/

namespace InferenceFleet

/-- A keyword and the category of the prompts it occurs in. -/
structure KeywordRule where
  keyword : String
  category : String
  deriving DecidableEq

/-- What a configuration says about preferences. -/
structure PolicySettings where
  defaultCategory : Option String
  preferences : TextMap (List String)
  keywords : List KeywordRule
  roles : TextMap String

/-- Settings that leave the built-in policy as it is. -/
def PolicySettings.none : PolicySettings := ⟨.none, .empty, [], .empty⟩

/-- Names a model for a category, if it has learned one; the error is a text. -/
abbrev LearnedHook := String → Except String (Option String)

/-- How tasks are turned into lists of models. -/
structure Policy where
  keywords : List KeywordRule
  preferences : TextMap (List String)
  roles : TextMap String
  defaultCategory : String
  learned : Option LearnedHook

namespace Policy

/-- The category of prompts in which no keyword occurs. -/
def generalCategory : String := "general"

/-- The entry that serves categories without preferences of their own. -/
def sharedEntry : String := "default"

/-- The built-in keywords of each category, in the order they are tried. -/
def builtinKeywords : List (String × List String) :=
  [("coding", ["code", "python", "function", "debug", "program", "script", "rust", "javascript",
      "bug", "compile"]),
    ("math", ["math", "calculate", "equation", "solve", "integral", "algebra"]),
    ("summarization", ["summar", "tl;dr", "condense", "recap"]),
    ("analysis", ["analy", "compare", "evaluate", "assess"]),
    ("research", ["research", "investigate", "sources", "literature"]),
    ("writing", ["write", "story", "essay", "blog", "poem", "draft"])]

/-- The built-in preferences of each category. -/
def builtinPreferences : List (String × List String) :=
  [("coding", ["codellama:13b", "llama3.1:8b", "mistral:7b"]),
    ("math", ["qwen2-math:7b", "llama3.1:8b", "mistral:7b"]),
    ("analysis", ["llama3.1:70b", "mixtral:8x7b", "llama3.1:8b"]),
    ("research", ["llama3.1:70b", "llama3.1:8b", "mistral:7b"]),
    ("writing", ["mistral:7b", "llama3.1:8b"]),
    ("summarization", ["llama3.2:3b", "mistral:7b", "llama3.1:8b"]),
    (generalCategory, ["llama3.1:8b", "mistral:7b", "llama3.2:3b"]),
    (sharedEntry, ["llama3.1:8b", "mistral:7b", "llama3.2:3b"])]

/-- The built-in category of each role. -/
def builtinRoles : List (String × String) :=
  [("researcher", "research"), ("writer", "writing"), ("developer", "coding"),
    ("coder", "coding"), ("engineer", "coding"), ("analyst", "analysis"),
    ("mathematician", "math"), ("summarizer", "summarization"), ("editor", "summarization"),
    ("assistant", "general")]

/-- The built-in keyword rules. -/
def builtinRules : List KeywordRule :=
  builtinKeywords.flatMap fun (category, words) => words.map (⟨·, category⟩)

/-- The built-in policy. -/
def builtin : Policy :=
  { keywords := builtinRules
    preferences := .ofList builtinPreferences
    roles := .ofList builtinRoles
    defaultCategory := generalCategory
    learned := none }

/-- The bindings of one map over those of another. -/
def overlay {α : Type} (base : TextMap α) (top : List (String × α)) : TextMap α :=
  top.foldl (fun m b => m.insert b.1 b.2) base

/-- The policy of a configuration. Its keywords are tried before the built-in ones, and keywords
and roles are taken in lower case. -/
def ofSettings (s : PolicySettings) : Policy :=
  { keywords := s.keywords.map (fun r => ⟨Text.lowerCase r.keyword, r.category⟩) ++ builtinRules
    preferences := overlay builtin.preferences s.preferences.entries
    roles := overlay builtin.roles (s.roles.entries.map fun b => (Text.lowerCase b.1, b.2))
    defaultCategory := s.defaultCategory.getD builtin.defaultCategory
    learned := none }

/-- The policy with a hook. -/
def withLearned (p : Policy) (hook : LearnedHook) : Policy := { p with learned := some hook }

/-- The policy with other preferences for a category. -/
def withPreferences (p : Policy) (category : String) (models : List String) : Policy :=
  { p with preferences := p.preferences.insert category models }

/-- The policy without preferences for a category. -/
def withoutPreferences (p : Policy) (category : String) : Policy :=
  { p with preferences := p.preferences.erase category }

/-- The category of a prompt: that of the first rule whose keyword occurs in it. -/
def classify (p : Policy) (prompt : String) : String :=
  let prompt := Text.lowerCase prompt
  match p.keywords.find? fun r => Text.containsText prompt r.keyword with
  | some r => r.category
  | none => p.defaultCategory

/-- The key that a role is looked up by. -/
def roleKey (role : String) : String := Text.lowerCase (Text.trim role)

/-- The category of a role. -/
def categoryOfRole (p : Policy) (role : String) : String :=
  (p.roles.get? (roleKey role)).getD p.defaultCategory

/-- The preferences of a category in the table. -/
def tableOf (p : Policy) (category : String) : List String :=
  match p.preferences.get? category with
  | some models => models
  | none => (p.preferences.get? sharedEntry).getD []

/-- The model that the hook names for a category, unless it is blank. -/
def learnedModel? (p : Policy) (category : String) : Option String :=
  match p.learned with
  | none => none
  | some hook =>
      match hook category with
      | .ok (some model) => if Text.isBlankText model then none else some model
      | _ => none

/-- The models to try for a category, in order. -/
def resolve (p : Policy) (category : String) (preferred : Option (List String)) : List String :=
  match preferred with
  | some models => models
  | none =>
      match p.learnedModel? category with
      | some model => model :: (p.tableOf category).filter (· ≠ model)
      | none => p.tableOf category

/-- The categories that have preferences of their own, ascending. -/
def categories (p : Policy) : List String :=
  p.preferences.keys.filter (· ≠ sharedEntry)

/-- A one-line summary. -/
def summary (p : Policy) : String :=
  "PreferencePolicy \x7b keywords: " ++ Text.numeral p.keywords.length
    ++ ", categories: " ++ Text.numeral p.preferences.size
    ++ ", default_category: " ++ Text.display p.defaultCategory
    ++ ", learned: " ++ (if p.learned.isSome then "true" else "false") ++ " \x7d"

end Policy

end InferenceFleet
