import InferenceFleet.Files.Replacement

/-!
# A text that is kept is read back

Where replacing the text of a file succeeds, the file has the new text. The steps in between change
what is at two places, neither of which is a directory before or after, so every path leads to the
same place throughout (`KeepsDirectories.locate`).
-/

namespace InferenceFleet.FileSystem

variable {fs fs' : FileSystem} {place : List String} {p : Path}

/-- The directories of a file system are there in another one too. -/
structure KeepsDirectories (fs fs' : FileSystem) : Prop where
  working : fs'.working = fs.working
  directory : ∀ place isSealed, fs.at? place = some (.directory isSealed) →
    fs'.at? place = some (.directory isSealed)

theorem KeepsDirectories.trans {fs'' : FileSystem} (h : fs.KeepsDirectories fs')
    (h' : fs'.KeepsDirectories fs'') : fs.KeepsDirectories fs'' where
  working := h'.working.trans h.working
  directory place isSealed hat := h'.directory place isSealed (h.directory place isSealed hat)

/-- Following steps looks at directories only. -/
theorem KeepsDirectories.follow (h : fs.KeepsDirectories fs') {steps reached : List String}
    (hreach : fs.follow place steps = .ok reached) : fs'.follow place steps = .ok reached := by
  induction steps generalizing place with
  | nil => exact hreach
  | cons step rest ih =>
      rw [FileSystem.follow] at hreach ⊢
      cases hat : fs.at? place with
      | none => simp [hat] at hreach
      | some entry =>
          cases entry with
          | file content => simp [hat] at hreach
          | directory isSealed =>
              simp only [hat] at hreach
              simp only [h.directory place isSealed hat]
              split at hreach
              · cases hreach
              · next hshort =>
                  rw [if_neg hshort]
                  exact ih hreach

theorem KeepsDirectories.locate (h : fs.KeepsDirectories fs') {reached : List String}
    (hreach : fs.locate p = .ok reached) : fs'.locate p = .ok reached := by
  have hstart : fs'.start p = fs.start p := by rw [start, start, h.working]
  unfold FileSystem.locate at hreach ⊢
  cases hflaw : flaw? p with
  | some e => simp [hflaw] at hreach
  | none =>
      simp only [hflaw, hstart] at hreach ⊢
      exact h.follow hreach

/-- What is at a place, for all that is not a directory, is what is stored under its key. -/
theorem at?_of_not_directory (hfile : ∀ isSealed, fs.at? place ≠ some (.directory isSealed)) :
    place ≠ [] ∧ fs.at? place = fs.entries.get? (keyOf place) := by
  cases place with
  | nil => exact absurd rfl (hfile false)
  | cons name rest => exact ⟨nofun, rfl⟩

/-- A directory is stored under another key. -/
theorem keyOf_ne_of_directory (hfile : ∀ isSealed, fs.at? place ≠ some (.directory isSealed))
    {name : String} {rest : List String} {isSealed : Bool}
    (hat : fs.at? (name :: rest) = some (.directory isSealed)) :
    keyOf place ≠ keyOf (name :: rest) := by
  intro heq
  have hsame := (at?_of_not_directory hfile).2
  rw [heq] at hsame
  exact hfile isSealed (hsame.trans hat)

theorem at?_put_self (hfile : ∀ isSealed, fs.at? place ≠ some (.directory isSealed))
    (entry : FileEntry) : (fs.put place entry).at? place = some entry := by
  obtain ⟨name, rest, rfl⟩ := List.exists_cons_of_ne_nil (at?_of_not_directory hfile).1
  exact (TextMap.get?_insert fs.entries _ _ entry).trans (if_pos rfl)

theorem keepsDirectories_put (hfile : ∀ isSealed, fs.at? place ≠ some (.directory isSealed))
    (entry : FileEntry) : fs.KeepsDirectories (fs.put place entry) where
  working := rfl
  directory := by
    intro other isSealed hat
    cases other with
    | nil => exact hat
    | cons name rest =>
        exact (TextMap.get?_insert fs.entries _ _ entry).trans
          ((if_neg (keyOf_ne_of_directory hfile hat)).trans hat)

theorem keepsDirectories_drop (hfile : ∀ isSealed, fs.at? place ≠ some (.directory isSealed)) :
    fs.KeepsDirectories (fs.drop place) where
  working := rfl
  directory := by
    intro other isSealed hat
    cases other with
    | nil => exact hat
    | cons name rest =>
        exact (TextMap.get?_erase fs.entries _ _).trans
          ((if_neg (keyOf_ne_of_directory hfile hat)).trans hat)

/-- Nothing that is no directory becomes one by a file that is dropped. -/
theorem not_directory_drop {other : List String}
    (hfile : ∀ isSealed, fs.at? other ≠ some (.directory isSealed)) :
    ∀ isSealed, (fs.drop place).at? other ≠ some (.directory isSealed) := by
  intro isSealed hat
  obtain ⟨name, rest, rfl⟩ := List.exists_cons_of_ne_nil (at?_of_not_directory hfile).1
  have herase := TextMap.get?_erase fs.entries (keyOf place) (keyOf (name :: rest))
  have hget : (if keyOf place = keyOf (name :: rest) then none
      else fs.entries.get? (keyOf (name :: rest))) = some (.directory isSealed) :=
    herase.symm.trans hat
  split at hget
  · cases hget
  · exact hfile isSealed hget

theorem exists_of_write_eq_ok {content : ByteArray} (h : fs.write p content = .ok fs') :
    ∃ place, fs.locate p = .ok place ∧ (∀ isSealed, fs.at? place ≠ some (.directory isSealed)) ∧
      fs' = fs.put place (.file content) := by
  unfold write at h
  cases hlocate : fs.locate p with
  | error e => simp [hlocate] at h
  | ok place =>
      simp only [hlocate] at h
      split at h
      · cases h
      · cases hat : fs.at? place with
        | none =>
            simp only [hat] at h
            split at h
            · exact ⟨place, rfl, by simp [hat], (Except.ok.inj h).symm⟩
            · cases h
        | some entry =>
            cases entry with
            | directory isSealed => simp [hat] at h
            | file old =>
                simp only [hat] at h
                exact ⟨place, rfl, by simp [hat], (Except.ok.inj h).symm⟩

theorem exists_of_rename_eq_ok {source target : Path} (h : fs.rename source target = .ok fs') :
    ∃ old new content, fs.locate source = .ok old ∧ fs.locate target = .ok new ∧
      fs.at? old = some (.file content) ∧
      (∀ isSealed, fs.at? new ≠ some (.directory isSealed)) ∧ target.endsInSlash = false ∧
      fs' = (fs.drop old).put new (.file content) := by
  unfold rename at h
  cases hold : fs.locate source with
  | error e => simp [hold] at h
  | ok old =>
      cases hnew : fs.locate target with
      | error e => simp [hold, hnew] at h
      | ok new =>
          simp only [hold, hnew] at h
          split at h
          · cases h
          · cases hat : fs.at? old with
            | none => simp [hat] at h
            | some entry =>
                cases entry with
                | directory isSealed => simp [hat] at h
                | file content =>
                    simp only [hat] at h
                    split at h
                    · cases h
                    · next hslash =>
                        have hends : target.endsInSlash = false := by
                          cases htarget : target.endsInSlash <;> simp_all
                        cases hthere : fs.at? new with
                        | none =>
                            simp only [hthere] at h
                            split at h
                            · exact ⟨old, new, content, rfl, rfl, hat, by simp [hthere], hends,
                                (Except.ok.inj h).symm⟩
                            · cases h
                        | some entry =>
                            cases entry with
                            | directory isSealed => simp [hthere] at h
                            | file there =>
                                simp only [hthere] at h
                                exact ⟨old, new, content, rfl, rfl, hat, by simp [hthere], hends,
                                  (Except.ok.inj h).symm⟩

/-- Moving a file leaves the directories as they are. -/
theorem keepsDirectories_of_rename {source target : Path}
    (h : fs.rename source target = .ok fs') : fs.KeepsDirectories fs' := by
  obtain ⟨old, new, content, -, -, hold, hnew, -, rfl⟩ := exists_of_rename_eq_ok h
  have hfile : ∀ isSealed, fs.at? old ≠ some (.directory isSealed) := by simp [hold]
  exact (keepsDirectories_drop hfile).trans
    (keepsDirectories_put (not_directory_drop hnew) (.file content))

/-- A file that was written and then moved to a path is read there. -/
theorem read_of_write_rename {source : Path} {content : ByteArray} {fs₁ fs₂ : FileSystem}
    (hwrite : fs.write source content = .ok fs₁) (hrename : fs₁.rename source p = .ok fs₂) :
    fs₂.read p = .ok content := by
  have hkeeps := keepsDirectories_of_rename hrename
  obtain ⟨place, hplace, hfree, rfl⟩ := exists_of_write_eq_ok hwrite
  obtain ⟨old, new, moved, hold, hnew, hmoved, hnoDirectory, hends, rfl⟩ :=
    exists_of_rename_eq_ok hrename
  -- The path of the file that was written leads to it still.
  have hsame := (keepsDirectories_put hfree (.file content)).locate hplace
  rw [hold] at hsame
  obtain rfl := Except.ok.inj hsame
  rw [at?_put_self hfree] at hmoved
  obtain rfl := FileEntry.file.inj (Option.some.inj hmoved)
  simp only [read, find, hkeeps.locate hnew, at?_put_self (not_directory_drop hnoDirectory), hends]
  rfl

theorem fromUTF8?_toUTF8 (s : String) : String.fromUTF8? s.toUTF8 = some s := dif_pos s.isValidUTF8

/-- What is left once the directories that lead to a path were made, or some of them. -/
inductive MakesParents (fs : FileSystem) (p : Path) : FileSystem → Prop
  | whole : MakesParents fs p (fs.makeParents p).2
  | part (above : Nat) (e : FileError) : MakesParents fs p (fs.makeParentsUpTo above e p).2

/-- How far replacing a text can come: not beyond making directories, up to a temporary file with
some of the text, or to the end. -/
theorem replaceText_cases (faults : Faults) (fs : FileSystem) (p : Path) (text : String) :
    ∃ fs₀, fs.MakesParents p fs₀ ∧
      ((∃ e, fs.replaceText faults p text = (some e, fs₀)) ∨
        (∃ e content fs₁, fs₀.write (temporary p) content = .ok fs₁ ∧
          fs.replaceText faults p text = (some e, fs₁)) ∨
        ∃ fs₁ fs₂, fs₀.write (temporary p) text.toUTF8 = .ok fs₁ ∧
          fs₁.rename (temporary p) p = .ok fs₂ ∧
          fs.replaceText faults p text = (none, fs₂)) := by
  unfold replaceText
  cases hdirectory : faults.directory with
  | some fault => exact ⟨_, .part fault.1 fault.2, .inl ⟨_, rfl⟩⟩
  | none =>
      have hway : fs.MakesParents p (fs.makeParents p).2 := .whole
      rcases hmade : fs.makeParents p with ⟨failed, fs₀⟩
      rw [hmade] at hway
      refine ⟨fs₀, hway, ?_⟩
      cases failed with
      | some e => exact .inl ⟨e, rfl⟩
      | none =>
          dsimp only
          cases hfault : faults.write with
          | some fault =>
              cases hpart : fs₀.write (temporary p) (text.toUTF8.extract 0 fault.1) with
              | error e => exact .inl ⟨fault.2, by simp only [hpart]⟩
              | ok fs₁ => exact .inr (.inl ⟨fault.2, _, fs₁, hpart, by simp only [hpart]⟩)
          | none =>
              cases hwrite : fs₀.write (temporary p) text.toUTF8 with
              | error e => exact .inl ⟨e, rfl⟩
              | ok fs₁ =>
                  cases hmove : faults.rename with
                  | some e => exact .inr (.inl ⟨e, _, fs₁, hwrite, rfl⟩)
                  | none =>
                      cases hrename : fs₁.rename (temporary p) p with
                      | error e => exact .inr (.inl ⟨e, _, fs₁, hwrite, by simp only [hrename]⟩)
                      | ok fs₂ =>
                          exact .inr (.inr ⟨fs₁, fs₂, rfl, hrename, by simp only [hrename]⟩)

/-- Replacing a text successfully is writing it beside its file and moving it there. -/
theorem exists_of_replaceText {faults : Faults} {text : String}
    (h : fs.replaceText faults p text = (none, fs')) :
    ∃ fs₀ fs₁ : FileSystem, fs₀.write (temporary p) text.toUTF8 = .ok fs₁ ∧
      fs₁.rename (temporary p) p = .ok fs' := by
  obtain ⟨fs₀, -, hend⟩ := replaceText_cases faults fs p text
  rcases hend with ⟨e, hfailed⟩ | ⟨e, content, fs₁, -, hfailed⟩ | ⟨fs₁, fs₂, hwrite, hrename, hdone⟩
  · simp [hfailed] at h
  · simp [hfailed] at h
  · obtain rfl : fs₂ = fs' := congrArg Prod.snd (hdone.symm.trans h)
    exact ⟨fs₀, fs₁, hwrite, hrename⟩

/-- Where replacing the text of a file succeeds, the file has that text. -/
theorem readText_of_replaceText {faults : Faults} {text : String}
    (h : fs.replaceText faults p text = (none, fs')) : fs'.readText p = .ok text := by
  obtain ⟨fs₀, fs₁, hwrite, hrename⟩ := exists_of_replaceText h
  rw [readText, read_of_write_rename hwrite hrename]
  simp only [fromUTF8?_toUTF8]

end InferenceFleet.FileSystem
