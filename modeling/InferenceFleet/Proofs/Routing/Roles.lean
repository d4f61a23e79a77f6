import InferenceFleet.Proofs.Routing.Coverage
import InferenceFleet.Proofs.Text.Trimmed

/-!
# Configured roles

A role is looked up without its outer blanks and in lower case, while a configured role is bound in
lower case but with all its blanks. The two agree on trimmed roles and on no others, because a text
in lower case is trimmed exactly if the text is (`lowerCase_eq_roleKey_iff`). So a trimmed role that
shares its key with no other configured one gets its category however its ASCII letters are written
and whatever blanks surround it, and a role with outer blanks is as good as not configured.
-/

namespace InferenceFleet

open Text (lowerCase sameUpToAsciiCase trim)

namespace Policy

variable {s : PolicySettings} {role other text category : String}

/-- The text differs from the role in outer blanks and in the case of ASCII letters at most. -/
def Resembles (text role : String) : Prop :=
  sameUpToAsciiCase (trim text) (trim role) = true

theorem resembles_refl (role : String) : Resembles role role :=
  Text.sameUpToAsciiCase_refl (trim role)

theorem Resembles.roleKey_eq (h : Resembles text role) : roleKey text = roleKey role :=
  Text.lowerCase_eq_of_sameUpToAsciiCase h

theorem trim_roleKey (role : String) : trim (roleKey role) = roleKey role :=
  Text.trim_lowerCase_eq_iff.2 (Text.trim_trim role)

/-- A role is bound where another one is looked up exactly if it is trimmed and looked up there
itself. -/
theorem lowerCase_eq_roleKey_iff :
    lowerCase other = roleKey role ↔ trim other = other ∧ roleKey other = roleKey role := by
  constructor
  · intro h
    have htrimmed : trim other = other := by
      rw [← Text.trim_lowerCase_eq_iff, h, trim_roleKey]
    exact ⟨htrimmed, by rw [← h, roleKey, htrimmed]⟩
  · rintro ⟨htrimmed, hkey⟩
    rw [← hkey, roleKey, htrimmed]

/-- The bindings that configured roles add to the built-in ones. -/
def roleBindings (roles : TextMap String) : List (String × String) :=
  roles.entries.map fun b => (lowerCase b.1, b.2)

theorem get?_roles_ofSettings (s : PolicySettings) (key : String) :
    (ofSettings s).roles.get? key =
      (TextMap.find key (roleBindings s.roles).reverse).or (builtin.roles.get? key) :=
  get?_overlay builtin.roles (roleBindings s.roles) key

theorem mem_roleBindings_iff {roles : TextMap String} {b : String × String} :
    b ∈ roleBindings roles ↔ ∃ other, roles.get? other = some b.2 ∧ lowerCase other = b.1 := by
  obtain ⟨key, category⟩ := b
  simp only [roleBindings, List.mem_map, Prod.exists, Prod.mk.injEq, TextMap.mem_entries_iff]
  constructor
  · rintro ⟨other, _, hget, hkey, rfl⟩
    exact ⟨other, hget, hkey⟩
  · rintro ⟨other, hget, hkey⟩
    exact ⟨other, category, hget, hkey, rfl⟩

/-- The role is configured with the category, and no other configured role has its key. -/
structure Configures (s : PolicySettings) (role category : String) : Prop where
  bound : s.roles.get? role = some category
  alone : ∀ other, (s.roles.get? other).isSome = true → roleKey other = roleKey role → other = role

theorem Configures.eq_of_lowerCase_eq (h : Configures s role category) {category' : String}
    (hbound : s.roles.get? other = some category') (hkey : lowerCase other = roleKey role) :
    other = role ∧ trim role = role := by
  obtain ⟨htrimmed, hsame⟩ := lowerCase_eq_roleKey_iff.1 hkey
  obtain rfl := h.alone other (Option.isSome_iff_exists.2 ⟨_, hbound⟩) hsame
  exact ⟨rfl, htrimmed⟩

theorem Configures.get?_of_trimmed (h : Configures s role category) (htrimmed : trim role = role) :
    (ofSettings s).roles.get? (roleKey role) = some category := by
  have hmem : (roleKey role, category) ∈ (roleBindings s.roles).reverse := by
    rw [List.mem_reverse, mem_roleBindings_iff]
    exact ⟨role, h.bound, lowerCase_eq_roleKey_iff.2 ⟨htrimmed, rfl⟩⟩
  have hall : ∀ b ∈ (roleBindings s.roles).reverse, b.1 = roleKey role → b.2 = category := by
    intro b hb hkey
    rw [List.mem_reverse, mem_roleBindings_iff] at hb
    obtain ⟨other, hbound, hother⟩ := hb
    obtain ⟨rfl, -⟩ := h.eq_of_lowerCase_eq hbound (hother.trans hkey)
    exact Option.some.inj (hbound.symm.trans h.bound)
  rw [get?_roles_ofSettings, TextMap.find_eq_some_of_forall hmem hall, Option.some_or]

theorem Configures.get?_of_not_trimmed (h : Configures s role category)
    (hblanks : trim role ≠ role) :
    (ofSettings s).roles.get? (roleKey role) = builtin.roles.get? (roleKey role) := by
  have hnone : TextMap.find (roleKey role) (roleBindings s.roles).reverse = none := by
    refine TextMap.find_eq_none_of_forall fun b hb hkey => ?_
    rw [List.mem_reverse, mem_roleBindings_iff] at hb
    obtain ⟨other, hbound, hother⟩ := hb
    exact hblanks (h.eq_of_lowerCase_eq hbound (hother.trans hkey)).2
  rw [get?_roles_ofSettings, hnone, Option.none_or]

/-- The settings without a role. -/
def withoutRole (s : PolicySettings) (role : String) : PolicySettings :=
  { s with roles := s.roles.erase role }

/-- The category of a role that no settings speak of. -/
def unconfiguredCategory (s : PolicySettings) (role : String) : String :=
  (builtin.roles.get? (roleKey role)).getD (ofSettings s).defaultCategory

/-- What is bound under another key is not missed. -/
theorem find_roleBindings_erase (roles : TextMap String) {key : String}
    (hkey : lowerCase role ≠ key) :
    TextMap.find key (roleBindings (roles.erase role)).reverse =
      TextMap.find key (roleBindings roles).reverse := by
  simp only [roleBindings, TextMap.erase, ← List.map_reverse, ← List.filter_reverse]
  induction roles.entries.reverse with
  | nil => rfl
  | cons b rest ih =>
      by_cases hb : b.1 = role
      · rw [List.filter_cons_of_neg (by simpa using hb), ih, List.map_cons, TextMap.find,
          if_neg (hb ▸ hkey)]
      · rw [List.filter_cons_of_pos (by simpa using hb), List.map_cons, List.map_cons,
          TextMap.find, TextMap.find, ih]

/-- A role with outer blanks is as good as not configured. -/
theorem categoryOfRole_withoutRole (s : PolicySettings) (hblanks : trim role ≠ role)
    (text : String) :
    (ofSettings (withoutRole s role)).categoryOfRole text = (ofSettings s).categoryOfRole text := by
  have hkey : lowerCase role ≠ roleKey text := fun h => hblanks (lowerCase_eq_roleKey_iff.1 h).1
  have hroles : (ofSettings (withoutRole s role)).roles.get? (roleKey text) =
      (ofSettings s).roles.get? (roleKey text) := by
    rw [get?_roles_ofSettings, get?_roles_ofSettings, withoutRole,
      find_roleBindings_erase s.roles hkey]
  rw [categoryOfRole, hroles]
  rfl

/-- A configured role is honoured, for its own text and all that resemble it, exactly if it is
trimmed or is not missed; without being trimmed it plays no part in any answer. -/
theorem configured_role_is_honoured_iff (h : Configures s role category) :
    ((∀ text, Resembles text role → (ofSettings s).categoryOfRole text = category) ↔
      trim role = role ∨ unconfiguredCategory s role = category) ∧
    (trim role ≠ role →
      (∀ text, Resembles text role →
        (ofSettings s).categoryOfRole text = unconfiguredCategory s role) ∧
      ∀ text, (ofSettings s).categoryOfRole text =
        (ofSettings (withoutRole s role)).categoryOfRole text) := by
  have hmissed : trim role ≠ role → ∀ text, Resembles text role →
      (ofSettings s).categoryOfRole text = unconfiguredCategory s role := by
    intro hblanks text htext
    rw [categoryOfRole, htext.roleKey_eq, h.get?_of_not_trimmed hblanks, unconfiguredCategory]
  constructor
  · constructor
    · intro hall
      by_cases htrimmed : trim role = role
      · exact .inl htrimmed
      · exact .inr ((hmissed htrimmed role (resembles_refl role)).symm.trans
          (hall role (resembles_refl role)))
    · intro hcases text htext
      by_cases htrimmed : trim role = role
      · rw [categoryOfRole, htext.roleKey_eq, h.get?_of_trimmed htrimmed, Option.getD_some]
      · exact (hmissed htrimmed text htext).trans (hcases.resolve_left htrimmed)
  · intro hblanks
    exact ⟨hmissed hblanks, fun text => (categoryOfRole_withoutRole s hblanks text).symm⟩

/-- Settings with one role and nothing else. -/
def onlyRole (role category : String) : PolicySettings :=
  { PolicySettings.none with roles := .ofList [(role, category)] }

theorem configures_onlyRole (role category : String) :
    Configures (onlyRole role category) role category := by
  have hget : ∀ other, (onlyRole role category).roles.get? other =
      if role = other then some category else none := fun other =>
    TextMap.get?_insert TextMap.empty role other category
  constructor
  · rw [hget, if_pos rfl]
  · intro other hbound _
    rw [hget] at hbound
    split at hbound
    · next hsame => exact hsame.symm
    · cases hbound

/-- A role written with capital letters is honoured for other capitals and outer blanks; a writer
with outer blanks remains the built-in one. -/
theorem configured_role_is_honoured_iff_devOps :
    Configures (onlyRole "DevOps" "coding") "DevOps" "coding" ∧
    Resembles "\u00A0dEVops\t" "DevOps" ∧
    (ofSettings (onlyRole "DevOps" "coding")).categoryOfRole "\u00A0dEVops\t" = "coding" ∧
    Configures (onlyRole "Writer " "coding") "Writer " "coding" ∧
    trim "Writer " ≠ "Writer " ∧
    (ofSettings (onlyRole "Writer " "coding")).categoryOfRole "Writer " = "writing" := by
  have hdevOps := configures_onlyRole "DevOps" "coding"
  have hwriter := configures_onlyRole "Writer " "coding"
  have hresembles : Resembles "\u00A0dEVops\t" "DevOps" := by
    unfold Resembles
    decide +kernel
  have hblanks : trim "Writer " ≠ "Writer " := by decide +kernel
  refine ⟨hdevOps, hresembles, ?_, hwriter, hblanks, ?_⟩
  · exact (configured_role_is_honoured_iff hdevOps).1.2 (.inl (by decide +kernel)) _ hresembles
  · rw [((configured_role_is_honoured_iff hwriter).2 hblanks).1 _ (resembles_refl _)]
    decide +kernel

/-- The only configured role is not found by its own text. -/
theorem configured_role_is_missed :
    (onlyRole " devops " "coding").roles.get? " devops " = some "coding" ∧
    (∀ other, ((onlyRole " devops " "coding").roles.get? other).isSome = true →
      roleKey other = roleKey " devops " → other = " devops ") ∧
    Resembles " devops " " devops " ∧
    (ofSettings (onlyRole " devops " "coding")).categoryOfRole " devops " = generalCategory ∧
    generalCategory ≠ "coding" := by
  obtain ⟨hbound, halone⟩ := configures_onlyRole " devops " "coding"
  refine ⟨hbound, halone, resembles_refl " devops ", ?_, by decide⟩
  decide +kernel

end Policy

end InferenceFleet
