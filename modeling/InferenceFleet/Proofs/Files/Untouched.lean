import InferenceFleet.Proofs.Files.Failing
import Mathlib.Data.List.Induction
import Mathlib.Data.List.Infix

/-!
# A path that a failed replacement leaves alone

Where the text of a file cannot be kept, directories may have been made on the way. For a path that
does not lead up they are all shorter than the path, so what is found at the path is what was found
before, or nothing if nothing was (`Spares`). A path that leads up out of a
directory that was missing is the exception: once the directory is made, such a path leads to what
was out of its reach.

This is about file systems in which whatever there is, is in a directory (`IsTree`). There a path
that leads nowhere holds nothing at all, under whatever name.
-/

namespace InferenceFleet

namespace Path

theorem isPrefix_trimmed (pieces : List String) : trimmed pieces <+: pieces := by
  have hsuffix : pieces.reverse.dropWhile isIdle <:+ pieces.reverse := List.dropWhile_suffix _
  rw [trimmed, ← List.reverse_suffix, List.reverse_reverse]
  exact hsuffix

theorem mem_of_mem_parent? {p q : Path} (hq : p.parent? = some q) {piece : String}
    (hmem : piece ∈ q.pieces) : piece ∈ p.pieces := by
  rw [← p.lead_append]
  unfold parent? at hq
  split at hq
  · cases hq
  · rw [← Option.some.inj hq] at hmem
    cases hmem
  · rw [← Option.some.inj hq] at hmem
    rcases List.mem_append.1 hmem with hlead | hnamed
    · exact List.mem_append_left _ hlead
    · have hfront := (List.dropLast_prefix _).subset ((isPrefix_trimmed _).subset hnamed)
      exact List.mem_append_right _ ((isPrefix_trimmed _).subset hfront)

/-- The parent of a path that does not lead up is where the way of the whole path starts, or one
name short of the path. -/
theorem parent?_cases {p q : Path} (hq : p.parent? = some q) (hup : ".." ∉ p.pieces) :
    q.parent? = none ∨ ∃ name, isIdle name = false ∧
      ∀ place, walk place p.pieces = walk place q.pieces ++ [name] := by
  cases hname : p.fileName? with
  | some name =>
      obtain ⟨q', hq', hidle, hwalk⟩ := exists_parent_of_fileName? hname
      obtain rfl := Option.some.inj (hq.symm.trans hq')
      exact .inr ⟨name, hidle, hwalk⟩
  | none =>
      -- Without a last name, there are no names at all.
      have hnil : trimmed p.lead.2 = [] := by
        unfold fileName? at hname
        split at hname
        · next hlast =>
            have hmem := (isPrefix_trimmed _).subset (List.mem_of_getLast? hlast)
            rw [← p.lead_append] at hup
            exact absurd (List.mem_append_right _ hmem) hup
        · exact List.getLast?_eq_none_iff.1 hname
      unfold parent? at hq
      rw [hnil] at hq
      split at hq
      · cases hq
      · rw [← Option.some.inj hq]
        exact .inl (by cases habsolute : p.absolute <;> simp [parent?, lead, trimmed])
      · next hne _ => exact absurd rfl hne

end Path

/-- Whether an entry is a directory. -/
def FileEntry.isDirectory : FileEntry → Bool
  | .directory _ => true
  | .file _ => false

namespace FileSystem

variable {fs fs' : FileSystem} {place : List String} {p : Path}

theorem length_keyOf_lt (base : List String) {name : String} (hname : Path.isIdle name = false) :
    (keyOf base).length < (keyOf (base ++ [name])).length := by
  obtain ⟨start, hstart, hlength⟩ := exists_keyOf_concat base
  have hne : name.length ≠ 0 := by
    intro hzero
    rw [String.length_eq_zero_iff] at hzero
    rw [hzero] at hname
    cases hname
  rw [hstart, String.length_append]
  omega

theorem at?_ensureDirectory (h : fs.ensureDirectory p = .ok fs')
    (hne : keyOf (Path.walk (fs.start p) p.pieces) ≠ keyOf place) :
    fs'.at? place = fs.at? place := by
  rcases ensureDirectory_cases h with rfl | ⟨made, hmade, -, rfl⟩
  · rfl
  · rw [← eq_walk_of_locate hmade] at hne
    cases place with
    | nil => rfl
    | cons name rest => exact (TextMap.get?_insert fs.entries _ _ _).trans (if_neg hne)

/-- The key of a place is longer than those of the directories that lead to a path and of the one
that it is the path of. -/
structure IsAbove (fs : FileSystem) (p : Path) (place : List String) : Prop where
  up : ".." ∉ p.pieces
  shorter : p.parent? = none ∨
    (keyOf (Path.walk (fs.start p) p.pieces)).length < (keyOf place).length

theorem isAbove_parent? {q : Path} (hq : p.parent? = some q) (hup : ".." ∉ p.pieces)
    (hle : (keyOf (Path.walk (fs.start p) p.pieces)).length ≤ (keyOf place).length) :
    fs.IsAbove q place where
  up := fun hmem => hup (Path.mem_of_mem_parent? hq hmem)
  shorter := by
    rcases Path.parent?_cases hq hup with hnone | ⟨name, hidle, hwalk⟩
    · exact .inl hnone
    · have hstart : fs.start q = fs.start p := by
        rw [start, start, Path.absolute_parent? hq]
      have hless := length_keyOf_lt (Path.walk (fs.start p) q.pieces) hidle
      rw [← hwalk] at hless
      rw [hstart]
      exact .inr (hless.trans_le hle)

theorem IsAbove.parent {q : Path} (h : fs.IsAbove p place) (hq : p.parent? = some q) :
    fs.IsAbove q place := by
  rcases h.shorter with hnone | hshorter
  · cases hnone.symm.trans hq
  · exact isAbove_parent? hq h.up hshorter.le

theorem IsAbove.at?_ensureDirectory {fs₀ fs₁ : FileSystem} (h : fs.IsAbove p place) {q : Path}
    (hq : p.parent? = some q) (hworking : fs₀.working = fs.working)
    (hmade : fs₀.ensureDirectory p = .ok fs₁) : fs₁.at? place = fs₀.at? place := by
  have hstart : fs₀.start p = fs.start p := by rw [start, start, hworking]
  refine FileSystem.at?_ensureDirectory hmade fun heq => ?_
  rcases h.shorter with hnone | hshorter
  · cases hnone.symm.trans hq
  · rw [← hstart, heq] at hshorter
    exact Nat.lt_irrefl _ hshorter

/-- Making the directories that lead to one, and that one, leaves alone what has a longer key. -/
theorem IsAbove.at?_makeDirectoriesFrom (h : fs.IsAbove p place) (fuel : Nat) :
    (makeDirectoriesFrom fuel fs p).2.at? place = fs.at? place := by
  induction fuel generalizing p with
  | zero => rfl
  | succ fuel ih =>
      unfold makeDirectoriesFrom
      split
      · rfl
      · next parent hparent =>
          have hshorter := ih (h.parent hparent)
          have hworking := (addsDirectories_makeDirectoriesFrom fuel fs parent).working
          split
          · next hdone => exact h.at?_ensureDirectory hparent rfl hdone
          · split
            · next hfailed => rwa [hfailed] at hshorter
            · next hdone =>
                rw [hdone] at hshorter hworking
                split
                · next hdone' =>
                    exact (h.at?_ensureDirectory hparent hworking hdone').trans hshorter
                · exact hshorter
          · rfl

theorem IsAbove.at?_makeDirectoriesUpTo (h : fs.IsAbove p place) (e : FileError)
    (above fuel : Nat) : (makeDirectoriesUpTo e above fuel fs p).2.at? place = fs.at? place := by
  induction fuel generalizing above p with
  | zero => cases above <;> rfl
  | succ fuel ih =>
      unfold makeDirectoriesUpTo
      split
      · rfl
      · next parent hparent =>
          split
          · cases above with
            | zero => exact (h.parent hparent).at?_makeDirectoriesFrom fuel
            | succ above => exact ih (h.parent hparent) above
          · rfl

/-- Making the directories that lead to a path leaves alone what is at the path, if it does not lead
up. -/
theorem MakesParents.at? (h : fs.MakesParents p fs') (hup : ".." ∉ p.pieces) :
    fs'.at? (Path.walk (fs.start p) p.pieces) = fs.at? (Path.walk (fs.start p) p.pieces) := by
  cases h with
  | whole =>
      unfold makeParents
      split
      · next hparent =>
          exact (isAbove_parent? hparent hup (Nat.le_refl _)).at?_makeDirectoriesFrom _
      · rfl
  | part above e =>
      unfold makeParentsUpTo
      split
      · next hparent =>
          exact (isAbove_parent? hparent hup (Nat.le_refl _)).at?_makeDirectoriesUpTo e above _
      · rfl

/-- Where a directory was made, there was none. -/
theorem eq_of_ensureDirectory {fs₀ : FileSystem} (hadds : fs.AddsDirectories fs₀)
    (hmade : fs₀.ensureDirectory p = .ok fs) : fs₀ = fs := by
  rcases ensureDirectory_cases hmade with rfl | ⟨place, -, hfree, rfl⟩
  · rfl
  · have hthere := hadds.kept place _ (at?_put_self (by simp [hfree]) (.directory false))
    cases hfree.symm.trans hthere

/-- Where no directories have to be made, or none can be, not even some are. -/
theorem makeDirectoriesUpTo_eq_self (e : FileError) (above fuel : Nat)
    (hnothing : (makeDirectoriesFrom fuel fs p).2 = fs) :
    (makeDirectoriesUpTo e above fuel fs p).2 = fs := by
  induction fuel generalizing above p with
  | zero => cases above <;> rfl
  | succ fuel ih =>
      unfold makeDirectoriesFrom at hnothing
      unfold makeDirectoriesUpTo
      split
      · rfl
      · next parent hparent =>
          simp only [hparent] at hnothing
          split
          · next hmissing =>
              simp only [hmissing] at hnothing
              have hadds := addsDirectories_makeDirectoriesFrom fuel fs parent
              have hparents : (makeDirectoriesFrom fuel fs parent).2 = fs := by
                rcases hmade : makeDirectoriesFrom fuel fs parent with ⟨_ | e, fs₀⟩
                · simp only [hmade] at hnothing hadds
                  split at hnothing
                  · next hdone =>
                      subst hnothing
                      exact eq_of_ensureDirectory hadds hdone
                  · exact hnothing
                · simp only [hmade] at hnothing
                  exact hnothing
              cases above with
              | zero => exact hparents
              | succ above => exact ih above hparents
          · rfl

theorem MakesParents.eq_self (h : fs.MakesParents p fs') (hnothing : (fs.makeParents p).2 = fs) :
    fs' = fs := by
  cases h with
  | whole => exact hnothing
  | part above e =>
      unfold makeParents at hnothing
      unfold makeParentsUpTo
      split
      · next hparent =>
          simp only [hparent] at hnothing
          exact makeDirectoriesUpTo_eq_self e above _ hnothing
      · rfl

/-! ## Trees -/

/-- Whatever there is, is in a directory. -/
def IsTree (fs : FileSystem) : Prop :=
  ∀ place name entry, fs.at? (place ++ [name]) = some entry →
    ∃ isSealed, fs.at? place = some (.directory isSealed)

/-- What leads to an entry is a directory. -/
theorem IsTree.exists_directory (h : fs.IsTree) {rest : List String} {entry : FileEntry}
    (hrest : rest ≠ []) (hat : fs.at? (place ++ rest) = some entry) :
    ∃ isSealed, fs.at? place = some (.directory isSealed) := by
  induction rest using List.reverseRecOn generalizing entry with
  | nil => exact absurd rfl hrest
  | append_singleton rest name ih =>
      rw [← List.append_assoc] at hat
      obtain ⟨isSealed, hdirectory⟩ := h _ _ _ hat
      by_cases hnil : rest = []
      · rw [hnil, List.append_nil] at hdirectory
        exact ⟨isSealed, hdirectory⟩
      · exact ih hnil hdirectory

/-- A file system is a tree if each part of a key that ends before a slash is the key of a
directory. -/
theorem isTree_of_keys
    (h : ∀ key ∈ fs.entries.keys, ∀ start ∈ key.toList.inits, start ≠ [] →
      start ++ ['/'] <+: key.toList →
        (fs.entries.get? (String.ofList start)).any FileEntry.isDirectory = true) : fs.IsTree := by
  intro place name entry hat
  cases place with
  | nil => exact ⟨false, rfl⟩
  | cons first rest =>
      have hkey : keyOf (first :: rest ++ [name]) = keyOf (first :: rest) ++ "/" ++ name :=
        keyOf_concat first rest name
      have hget : fs.entries.get? (keyOf (first :: rest ++ [name])) = some entry := hat
      have hmem : keyOf (first :: rest ++ [name]) ∈ fs.entries.keys :=
        List.mem_map.2 ⟨_, TextMap.mem_entries_iff.2 hget, rfl⟩
      have hleads : (keyOf (first :: rest)).toList ++ ['/'] <+:
          (keyOf (first :: rest ++ [name])).toList := by
        rw [hkey, String.toList_append, String.toList_append]
        exact List.prefix_append _ _
      have hstart : (keyOf (first :: rest)).toList ≠ [] := by
        simp [keyOf, Path.text]
      have hdirectory := h _ hmem _
        ((List.mem_inits _ _).2 ((List.prefix_append _ _).trans hleads)) hstart hleads
      rw [String.ofList_toList] at hdirectory
      show ∃ isSealed, fs.entries.get? (keyOf (first :: rest)) = some (.directory isSealed)
      cases hthere : fs.entries.get? (keyOf (first :: rest)) with
      | none => simp [hthere] at hdirectory
      | some there =>
          cases there with
          | directory isSealed => exact ⟨isSealed, rfl⟩
          | file content => simp [hthere, FileEntry.isDirectory] at hdirectory

/-- Steps that do not lead up lead on. -/
theorem isPrefix_foldl_next {steps : List String} (hup : ".." ∉ steps) (place : List String) :
    place <+: steps.foldl next place := by
  induction steps generalizing place with
  | nil => exact List.prefix_rfl
  | cons step rest ih =>
      have hstep : place <+: next place step := by
        unfold next
        split
        · exact List.prefix_rfl
        · rw [if_neg (List.ne_of_not_mem_cons hup).symm]
          exact List.prefix_append place [step]
      exact hstep.trans (ih (List.not_mem_of_not_mem_cons hup) _)

/-- Where an entry was there before, the steps that lead to it led to it before. -/
theorem IsTree.follow (htree : fs.IsTree) {steps reached : List String} {entry : FileEntry}
    (hup : ".." ∉ steps) (hat : fs.at? reached = some entry) (hat' : fs'.at? reached = some entry)
    (hreach : fs'.follow place steps = .ok reached) : fs.follow place steps = .ok reached := by
  induction steps generalizing place with
  | nil => exact hreach
  | cons step rest ih =>
      obtain ⟨between, hbetween⟩ : place <+: reached := by
        rw [eq_foldl_of_follow hreach]
        exact isPrefix_foldl_next hup place
      rw [FileSystem.follow] at hreach ⊢
      split at hreach
      · next isSealed hplace =>
          have hdirectory : ∃ isSealed, fs.at? place = some (.directory isSealed) := by
            by_cases hnil : between = []
            · rw [hnil, List.append_nil] at hbetween
              rw [← hbetween, hplace] at hat'
              exact ⟨isSealed, by rw [hbetween, hat, hat']⟩
            · rw [← hbetween] at hat
              exact htree.exists_directory hnil hat
          obtain ⟨isSealed', hplace'⟩ := hdirectory
          simp only [hplace']
          split at hreach
          · cases hreach
          · next hshort =>
              rw [if_neg hshort]
              exact ih (List.not_mem_of_not_mem_cons hup) hreach
      · cases hreach
      · cases hreach

theorem find_eq_ok_iff {entry : FileEntry} :
    fs.find p = .ok entry ↔
      ∃ place, fs.locate p = .ok place ∧ fs.at? place = some entry ∧
        (p.endsInSlash = true → ∃ isSealed, entry = .directory isSealed) := by
  unfold find
  cases hlocate : fs.locate p with
  | error e => simp
  | ok place =>
      cases hat : fs.at? place with
      | none => simp [hat]
      | some there =>
          cases there with
          | directory isSealed =>
              simp only [Except.ok.injEq, exists_eq_left', hat, Option.some.injEq]
              exact ⟨fun heq => ⟨heq, fun _ => ⟨isSealed, heq.symm⟩⟩, And.left⟩
          | file content =>
              cases hends : p.endsInSlash
              · simp [hat]
              · simp only [if_true, reduceCtorEq, Except.ok.injEq, exists_eq_left', hat,
                  Option.some.injEq, true_implies, false_iff]
                rintro ⟨rfl, isSealed, hdirectory⟩
                cases hdirectory

/-- What is found at a path in one file system is found there in another one. -/
theorem find_of_locate {entry : FileEntry} (hfind : fs.find p = .ok entry)
    (hlocate : ∀ place, fs.locate p = .ok place → fs.at? place = some entry →
      fs'.locate p = .ok place ∧ fs'.at? place = some entry) : fs'.find p = .ok entry := by
  obtain ⟨place, hplace, hat, hends⟩ := find_eq_ok_iff.1 hfind
  obtain ⟨hplace', hat'⟩ := hlocate place hplace hat
  exact find_eq_ok_iff.2 ⟨place, hplace', hat', hends⟩

theorem LooksAlike.find_iff (h : fs.LooksAlike fs' p) {entry : FileEntry} :
    fs'.find p = .ok entry ↔ fs.find p = .ok entry := by
  constructor
  · intro hfind
    refine find_of_locate hfind fun place hplace hat => ?_
    have hplace' := (h.locate place).1 hplace
    exact ⟨hplace', (h.at? place hplace').symm.trans hat⟩
  · intro hfind
    refine find_of_locate hfind fun place hplace hat => ?_
    exact ⟨(h.locate place).2 hplace, (h.at? place hplace).trans hat⟩

/-- With the directories made that lead to it, nothing new is found at a path that does not lead
up. -/
theorem MakesParents.find (h : fs.MakesParents p fs') (htree : fs.IsTree)
    (hup : ".." ∉ p.pieces) {entry : FileEntry} (hfind : fs'.find p = .ok entry) :
    fs.find p = .ok entry := by
  have hstart : fs'.start p = fs.start p := by
    rw [start, start, h.addsDirectories.working]
  refine find_of_locate hfind fun place hplace hat => ?_
  have hsame : fs'.at? place = fs.at? place := by
    rw [eq_walk_of_locate hplace, hstart]
    exact h.at? hup
  have hat' := hsame.symm.trans hat
  refine ⟨?_, hat'⟩
  unfold locate at hplace ⊢
  cases hflaw : flaw? p with
  | some e => simp [hflaw] at hplace
  | none =>
      simp only [hflaw, hstart] at hplace ⊢
      have hsteps : ".." ∉ p.steps := fun hmem => hup (List.mem_filter.1 hmem).1
      exact htree.follow hsteps hat' hat hplace

/-- What a failure may leave of a path in a file system. -/
structure Spares (fs fs' : FileSystem) (p : Path) : Prop where
  /-- What was found at the path is found there still. -/
  kept : ∀ entry, fs.find p = .ok entry → fs'.find p = .ok entry
  /-- Nothing else is found there, if the path does not lead up or no directory is made for it. -/
  nothing_new : ".." ∉ p.pieces ∨ (fs.makeParents p).2 = fs →
    ∀ entry, fs'.find p = .ok entry → fs.find p = .ok entry
  /-- In any case, what is where the path leads was there before, or is a directory where nothing
  was. -/
  nothing_else : ∀ place, fs'.locate p = .ok place → fs'.at? place = fs.at? place ∨
    fs.at? place = none ∧ ∃ isSealed, fs'.at? place = some (.directory isSealed)

theorem Spares.refl (fs : FileSystem) (p : Path) : fs.Spares fs p where
  kept _ hfind := hfind
  nothing_new _ _ hfind := hfind
  nothing_else _ _ := .inl rfl

/-- Where the text of a file could not be kept, its path is spared. -/
theorem spares_of_replaceText_eq_some {faults : Faults} {text : String} {e : FileError}
    (htree : fs.IsTree) (h : fs.replaceText faults p text = (some e, fs')) : fs.Spares fs' p := by
  obtain ⟨fs₀, hmade, halike⟩ := exists_of_replaceText_eq_some h
  have hadds := hmade.addsDirectories
  constructor
  case kept =>
    intro entry hfind
    refine halike.find_iff.2 (find_of_locate hfind fun place hplace hat => ?_)
    exact ⟨hadds.keepsDirectories.locate hplace, hadds.kept place entry hat⟩
  case nothing_new =>
    intro hway entry hfind
    have hfind₀ := halike.find_iff.1 hfind
    rcases hway with hup | hnothing
    · exact hmade.find htree hup hfind₀
    · rwa [hmade.eq_self hnothing] at hfind₀
  case nothing_else =>
    intro place hplace
    rw [halike.at? place ((halike.locate place).1 hplace)]
    cases hat : fs.at? place with
    | some entry => exact .inl (hadds.kept place entry hat)
    | none =>
        cases hat₀ : fs₀.at? place with
        | none => exact .inl rfl
        | some entry =>
            cases entry with
            | directory isSealed => exact .inr ⟨rfl, isSealed, rfl⟩
            | file content => cases hat.symm.trans (hadds.file place content hat₀)

/-- Where the text of a file was kept, no temporary file is left. -/
theorem find_temporary_of_replaceText {faults : Faults} {text : String}
    (h : fs.replaceText faults p text = (none, fs')) :
    fs'.find (temporary p) = .error .notFound := by
  obtain ⟨fs₀, fs₁, -, hrename⟩ := exists_of_replaceText h
  have hkeeps := keepsDirectories_of_rename hrename
  obtain ⟨old, new, content, hold, hnew, hfile, -, -, rfl⟩ := exists_of_rename_eq_ok hrename
  have hnothing : ((fs₁.drop old).put new (.file content)).at? old = none := by
    cases old with
    | nil => cases hfile
    | cons name rest =>
        have hne := (keyOf_temporary_ne hold hnew).symm
        have hdropped : (fs₁.drop (name :: rest)).entries.get? (keyOf (name :: rest)) = none :=
          (TextMap.get?_erase fs₁.entries _ _).trans (if_pos rfl)
        exact (TextMap.get?_insert _ _ _ _).trans ((if_neg hne).trans hdropped)
  simp only [find, hkeeps.locate hold, hnothing]

end FileSystem

end InferenceFleet
