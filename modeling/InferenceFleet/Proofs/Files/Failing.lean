import InferenceFleet.Proofs.Files.Replacement
import Mathlib.Data.List.TakeWhile

/-!
# A text that cannot be kept leaves the file as it is

Where replacing the text of a file fails, at whatever step, what could be read of the file before
can be read of it still, and what can be read of it was there before, if not at its path then where
the path leads now (`read_of_replaceText_eq_some`). Up to the last step only directories are made
where nothing was, and the temporary file is written. That one is beside the file: its name is four
characters longer, so it is stored under another key wherever the two paths lead.
-/

namespace InferenceFleet

namespace Path

/-- The place that the pieces of a path lead to, if they lead anywhere. -/
def walk (place : List String) (pieces : List String) : List String :=
  (pieces.filter (· ≠ "")).foldl FileSystem.next place

theorem walk_append (place first rest : List String) :
    walk place (first ++ rest) = walk (walk place first) rest := by
  rw [walk, List.filter_append, List.foldl_append]
  rfl

/-- A piece that names nothing leads nowhere else. -/
theorem walk_idle {place rest : List String} (hidle : ∀ piece ∈ rest, isIdle piece = true) :
    walk place rest = place := by
  induction rest generalizing place with
  | nil => rfl
  | cons piece rest ih =>
      obtain ⟨hpiece, hrest⟩ := List.forall_mem_cons.1 hidle
      rw [← List.singleton_append, walk_append, ih hrest]
      simp only [isIdle, Bool.or_eq_true, beq_iff_eq] at hpiece
      rcases hpiece with rfl | rfl <;> rfl

/-- What is cut off the end of a path names nothing. -/
theorem walk_trimmed (place pieces : List String) :
    walk place (trimmed pieces) = walk place pieces := by
  have hsplit : trimmed pieces ++ (pieces.reverse.takeWhile isIdle).reverse = pieces := by
    rw [trimmed, ← List.reverse_append, List.takeWhile_append_dropWhile, List.reverse_reverse]
  have hidle : ∀ piece ∈ (pieces.reverse.takeWhile isIdle).reverse, isIdle piece = true := by
    intro piece hpiece
    exact List.mem_takeWhile_imp (List.mem_reverse.1 hpiece)
  calc walk place (trimmed pieces)
      = walk place (trimmed pieces ++ (pieces.reverse.takeWhile isIdle).reverse) := by
        rw [walk_append, walk_idle hidle]
    _ = walk place pieces := by rw [hsplit]

theorem walk_singleton {place : List String} {name : String} (hidle : isIdle name = false)
    (hup : name ≠ "..") : walk place [name] = place ++ [name] := by
  simp only [isIdle, Bool.or_eq_false_iff, beq_eq_false_iff_ne] at hidle
  simp [walk, FileSystem.next, hidle, hup]

theorem walk_extend {place : List String} {name : String} (hidle : isIdle name = false)
    (hup : name ≠ "..") (p : Path) :
    walk place (p.extend name).pieces = walk place p.pieces ++ [name] := by
  unfold extend
  split
  · next hlast =>
      obtain ⟨front, hfront⟩ := List.getLast?_eq_some_iff.1 hlast
      have hidle' : ∀ piece ∈ [""], isIdle piece = true := by simp [isIdle]
      rw [hfront, List.dropLast_concat, walk_append, walk_append, walk_singleton hidle hup,
        walk_idle hidle']
  · rw [walk_append, walk_singleton hidle hup]

/-- The last piece that is not cut off names something. -/
theorem isIdle_of_getLast?_trimmed {pieces : List String} {name : String}
    (hname : (trimmed pieces).getLast? = some name) : isIdle name = false := by
  rw [trimmed, List.getLast?_reverse] at hname
  have hhead := List.head?_dropWhile_not isIdle pieces.reverse
  rw [hname] at hhead
  simpa using hhead

theorem lead_append (p : Path) : p.lead.1 ++ p.lead.2 = p.pieces := by
  unfold lead
  split
  · next hpieces => exact hpieces.symm
  · rfl

/-- A path with a last name leads there from where its parent leads. -/
theorem exists_parent_of_fileName? {p : Path} {name : String} (hname : p.fileName? = some name) :
    ∃ q, p.parent? = some q ∧ isIdle name = false ∧
      ∀ place, walk place p.pieces = walk place q.pieces ++ [name] := by
  obtain ⟨hlast, hup⟩ : (trimmed p.lead.2).getLast? = some name ∧ name ≠ ".." := by
    unfold fileName? at hname
    split at hname
    · cases hname
    · next hother => exact ⟨hname, fun heq => hother (heq ▸ hname)⟩
  have hidle := isIdle_of_getLast?_trimmed hlast
  obtain ⟨front, hfront⟩ := List.getLast?_eq_some_iff.1 hlast
  refine ⟨{ p with pieces := p.lead.1 ++ trimmed front }, ?_, hidle, fun place => ?_⟩
  · unfold parent?
    rw [hfront]
    split
    · next hnil _ => simp at hnil
    · next hnil _ => simp at hnil
    · rw [List.dropLast_concat]
  · calc walk place p.pieces
        = walk (walk place p.lead.1) (trimmed p.lead.2) := by
          rw [walk_trimmed, ← walk_append, lead_append]
      _ = walk (walk place p.lead.1) front ++ [name] := by
          rw [hfront, walk_append, walk_singleton hidle hup]
      _ = walk place (p.lead.1 ++ trimmed front) ++ [name] := by
          rw [walk_append, walk_trimmed]

theorem absolute_parent? {p q : Path} (hq : p.parent? = some q) : q.absolute = p.absolute := by
  unfold parent? at hq
  split at hq
  · cases hq
  · rw [← Option.some.inj hq]
  · rw [← Option.some.inj hq]

/-- The name of a temporary file names something, and does not lead up. -/
theorem isIdle_append_tmp (name : String) :
    isIdle (name ++ ".tmp") = false ∧ name ++ ".tmp" ≠ ".." := by
  have hlength : (name ++ ".tmp").length = name.length + 4 := String.length_append _ _
  have hne : ∀ other : String, other.length < 4 → name ++ ".tmp" ≠ other := by
    rintro other hother rfl
    omega
  simp [isIdle, hne "" (by decide), hne "." (by decide), hne ".." (by decide)]

end Path

namespace FileSystem

variable {fs fs' : FileSystem} {place : List String} {p : Path}

/-- A temporary file is where its path has a longer name, or below where its path leads. -/
theorem walk_temporary (place : List String) (p : Path) :
    ∃ base name, Path.walk place (temporary p).pieces = base ++ [name ++ ".tmp"] ∧
      (Path.walk place p.pieces = base ∨ Path.walk place p.pieces = base ++ [name]) := by
  cases hname : p.fileName? with
  | none =>
      obtain ⟨hidle, hup⟩ := Path.isIdle_append_tmp ""
      refine ⟨Path.walk place p.pieces, "", ?_, .inl rfl⟩
      simp only [temporary, Path.sibling, hname, Option.getD_none]
      exact Path.walk_extend hidle hup p
  | some name =>
      obtain ⟨hidle, hup⟩ := Path.isIdle_append_tmp name
      obtain ⟨q, hparent, -, hwalk⟩ := Path.exists_parent_of_fileName? hname
      refine ⟨Path.walk place q.pieces, name, ?_, .inr (hwalk place)⟩
      simp only [temporary, Path.sibling, hname, hparent, Option.getD_some]
      exact Path.walk_extend hidle hup q

theorem keyOf_concat (first : String) (rest : List String) (name : String) :
    keyOf (first :: rest ++ [name]) = keyOf (first :: rest) ++ "/" ++ name := by
  have hjoined : "/".intercalate (first :: rest ++ [name]) =
      "/".intercalate (first :: rest) ++ "/" ++ "/".intercalate [name] :=
    String.intercalate_append_of_ne_nil (by simp) (by simp)
  rw [keyOf, keyOf, Path.text, Path.text, hjoined, String.intercalate_singleton]
  simp only [String.append_assoc]

/-- The keys of the places under one place begin alike. -/
theorem exists_keyOf_concat (base : List String) :
    ∃ start : String, (∀ name, keyOf (base ++ [name]) = start ++ name) ∧
      (keyOf base).length ≤ start.length := by
  cases base with
  | nil =>
      refine ⟨"/", fun name => ?_, le_rfl⟩
      rw [keyOf, Path.text, List.nil_append, String.intercalate_singleton]
      rfl
  | cons first rest =>
      refine ⟨keyOf (first :: rest) ++ "/", keyOf_concat first rest, ?_⟩
      rw [String.length_append]
      omega

/-- A file and its temporary file are stored under different keys. -/
theorem keyOf_walk_temporary_ne (place : List String) (p : Path) :
    keyOf (Path.walk place (temporary p).pieces) ≠ keyOf (Path.walk place p.pieces) := by
  intro heq
  obtain ⟨base, name, htemporary, hp⟩ := walk_temporary place p
  obtain ⟨start, hstart, hlength⟩ := exists_keyOf_concat base
  rw [htemporary, hstart] at heq
  have hlonger := congrArg String.length heq
  have hsuffix : ".tmp".length = 4 := rfl
  rw [String.length_append, String.length_append, hsuffix] at hlonger
  rcases hp with hbase | hnamed
  · rw [hbase] at hlonger
    omega
  · rw [hnamed, hstart, String.length_append] at hlonger
    omega

theorem absolute_temporary (p : Path) : (temporary p).absolute = p.absolute := by
  have hextend : ∀ (q : Path) (name : String), (q.extend name).absolute = q.absolute := by
    intro q name
    unfold Path.extend
    split <;> rfl
  unfold temporary Path.sibling
  split
  · next hq => rw [hextend, Path.absolute_parent? hq]
  · rw [hextend]

theorem eq_foldl_of_follow {steps reached : List String}
    (hreach : fs.follow place steps = .ok reached) : reached = steps.foldl next place := by
  induction steps generalizing place with
  | nil => exact (Except.ok.inj hreach).symm
  | cons step rest ih =>
      rw [follow] at hreach
      split at hreach
      · split at hreach
        · cases hreach
        · exact ih hreach
      · cases hreach
      · cases hreach

theorem eq_walk_of_locate (hlocate : fs.locate p = .ok place) :
    place = Path.walk (fs.start p) p.pieces := by
  unfold locate at hlocate
  split at hlocate
  · cases hlocate
  · exact eq_foldl_of_follow hlocate

/-- A file and its temporary file are at places with different keys, if they are anywhere. -/
theorem keyOf_temporary_ne {temporaryPlace : List String}
    (htemporary : fs.locate (temporary p) = .ok temporaryPlace) (hp : fs.locate p = .ok place) :
    keyOf temporaryPlace ≠ keyOf place := by
  have hstart : fs.start (temporary p) = fs.start p := by
    rw [start, start, absolute_temporary]
  rw [eq_walk_of_locate htemporary, eq_walk_of_locate hp, hstart]
  exact keyOf_walk_temporary_ne _ p

theorem read_eq_ok_iff {content : ByteArray} :
    fs.read p = .ok content ↔
      ∃ place, fs.locate p = .ok place ∧ fs.at? place = some (.file content) ∧
        p.endsInSlash = false := by
  unfold read find
  cases hlocate : fs.locate p with
  | error e => simp
  | ok place =>
      cases hat : fs.at? place with
      | none => simp [hat]
      | some entry =>
          cases entry with
          | directory isSealed => simp [hat]
          | file there => cases hends : p.endsInSlash <;> simp [hat]

/-! ## Directories that are made -/

/-- All that is in a file system is in another one too, and that one has no other files. -/
structure AddsDirectories (fs fs' : FileSystem) : Prop where
  working : fs'.working = fs.working
  kept : ∀ place entry, fs.at? place = some entry → fs'.at? place = some entry
  file : ∀ place content, fs'.at? place = some (.file content) →
    fs.at? place = some (.file content)

theorem AddsDirectories.refl (fs : FileSystem) : fs.AddsDirectories fs where
  working := rfl
  kept _ _ hat := hat
  file _ _ hat := hat

theorem AddsDirectories.trans {fs'' : FileSystem} (h : fs.AddsDirectories fs')
    (h' : fs'.AddsDirectories fs'') : fs.AddsDirectories fs'' where
  working := h'.working.trans h.working
  kept place entry hat := h'.kept place entry (h.kept place entry hat)
  file place content hat := h.file place content (h'.file place content hat)

theorem AddsDirectories.keepsDirectories (h : fs.AddsDirectories fs') :
    fs.KeepsDirectories fs' where
  working := h.working
  directory place isSealed hat := h.kept place (.directory isSealed) hat

theorem addsDirectories_put (hfree : fs.at? place = none) (isSealed : Bool) :
    fs.AddsDirectories (fs.put place (.directory isSealed)) := by
  have hkey : fs.entries.get? (keyOf place) = none := by
    cases place with
    | nil => cases hfree
    | cons name rest => exact hfree
  constructor
  case working => rfl
  case kept =>
    intro other entry hat
    cases other with
    | nil => exact hat
    | cons name rest =>
        have hne : keyOf place ≠ keyOf (name :: rest) := by
          intro heq
          rw [heq] at hkey
          exact Option.some_ne_none _ (hat.symm.trans hkey)
        exact (TextMap.get?_insert fs.entries _ _ _).trans ((if_neg hne).trans hat)
  case file =>
    intro other content hat
    cases other with
    | nil => cases hat
    | cons name rest =>
        have hinsert := (TextMap.get?_insert fs.entries _ _ _).symm.trans hat
        split at hinsert
        · cases hinsert
        · exact hinsert

/-- A directory that was found made, or is new where nothing was. -/
theorem ensureDirectory_cases (h : fs.ensureDirectory p = .ok fs') :
    fs' = fs ∨ ∃ place, fs.locate p = .ok place ∧ fs.at? place = none ∧
      fs' = fs.put place (.directory false) := by
  unfold ensureDirectory at h
  split at h
  · split at h
    · exact .inl (Except.ok.inj h).symm
    · cases h
  · unfold makeDirectory at h
    split at h
    · cases h
    · next place hplace =>
        split at h
        · cases h
        · next hthere =>
            split at h
            · refine .inr ⟨place, hplace, ?_, (Except.ok.inj h).symm⟩
              cases hat : fs.at? place with
              | none => rfl
              | some entry => simp [hat] at hthere
            · cases h

theorem addsDirectories_ensureDirectory (h : fs.ensureDirectory p = .ok fs') :
    fs.AddsDirectories fs' := by
  rcases ensureDirectory_cases h with rfl | ⟨place, -, hfree, rfl⟩
  · exact .refl fs'
  · exact addsDirectories_put hfree false

theorem addsDirectories_makeDirectoriesFrom (fuel : Nat) (fs : FileSystem) (p : Path) :
    fs.AddsDirectories (makeDirectoriesFrom fuel fs p).2 := by
  induction fuel generalizing p with
  | zero => exact .refl fs
  | succ fuel ih =>
      unfold makeDirectoriesFrom
      split
      · exact .refl fs
      · next parent _ =>
          split
          · next hmade => exact addsDirectories_ensureDirectory hmade
          · -- The parent is made first, as far as it can be.
            have hparent := ih parent
            split
            · next hfailed =>
                rw [hfailed] at hparent
                exact hparent
            · next hdone =>
                rw [hdone] at hparent
                split
                · next hmade => exact hparent.trans (addsDirectories_ensureDirectory hmade)
                · exact hparent
          · exact .refl fs

theorem addsDirectories_makeDirectoriesUpTo (e : FileError) (above fuel : Nat) (fs : FileSystem)
    (p : Path) : fs.AddsDirectories (makeDirectoriesUpTo e above fuel fs p).2 := by
  induction fuel generalizing above p with
  | zero => cases above <;> exact .refl fs
  | succ fuel ih =>
      unfold makeDirectoriesUpTo
      split
      · exact .refl fs
      · next parent _ =>
          split
          · cases above with
            | zero => exact addsDirectories_makeDirectoriesFrom fuel fs parent
            | succ above => exact ih above parent
          · exact .refl fs

/-- The directories that lead to a path are all that is made. -/
theorem MakesParents.addsDirectories (h : fs.MakesParents p fs') : fs.AddsDirectories fs' := by
  cases h with
  | whole =>
      unfold makeParents
      split
      · exact addsDirectories_makeDirectoriesFrom _ fs _
      · exact .refl fs
  | part above e =>
      unfold makeParentsUpTo
      split
      · exact addsDirectories_makeDirectoriesUpTo e above _ fs _
      · exact .refl fs

/-- A path leads to the same place in two file systems, and what is there is the same. -/
structure LooksAlike (fs fs' : FileSystem) (p : Path) : Prop where
  locate : ∀ place, fs'.locate p = .ok place ↔ fs.locate p = .ok place
  at? : ∀ place, fs.locate p = .ok place → fs'.at? place = fs.at? place

theorem LooksAlike.refl (fs : FileSystem) (p : Path) : fs.LooksAlike fs p where
  locate _ := .rfl
  at? _ _ := rfl

/-- Writing the temporary file of a path changes nothing of what is at the path. -/
theorem looksAlike_of_write_temporary {content : ByteArray}
    (hwrite : fs.write (temporary p) content = .ok fs') : fs.LooksAlike fs' p := by
  obtain ⟨temporaryPlace, htemporary, hfree, rfl⟩ := exists_of_write_eq_ok hwrite
  have hkeeps := keepsDirectories_put hfree (.file content)
  -- A file is no directory, so no path leads further than before.
  have hkept : (fs.put temporaryPlace (.file content)).KeepsDirectories fs :=
    { working := rfl
      directory := by
        intro other isSealed hat
        cases other with
        | nil => exact hat
        | cons name rest =>
            have hinsert := (TextMap.get?_insert fs.entries _ _ _).symm.trans hat
            split at hinsert
            · cases hinsert
            · exact hinsert }
  refine ⟨fun place => ⟨hkept.locate, hkeeps.locate⟩, fun place hplace => ?_⟩
  have hne := keyOf_temporary_ne htemporary hplace
  cases place with
  | nil => rfl
  | cons name rest => exact (TextMap.get?_insert fs.entries _ _ _).trans (if_neg hne)

/-- What there is after a text could not be kept: directories that were made, and beside them a
temporary file at most, of which nothing is seen at the path itself. -/
theorem exists_of_replaceText_eq_some {faults : Faults} {text : String} {e : FileError}
    (h : fs.replaceText faults p text = (some e, fs')) :
    ∃ fs₀, fs.MakesParents p fs₀ ∧ fs₀.LooksAlike fs' p := by
  obtain ⟨fs₀, hmade, hend⟩ := replaceText_cases faults fs p text
  refine ⟨fs₀, hmade, ?_⟩
  rcases hend with ⟨e', hfailed⟩ | ⟨e', content, fs₁, hwrite, hfailed⟩ | ⟨_, _, -, -, hdone⟩
  · obtain rfl : fs' = fs₀ := congrArg Prod.snd (h.symm.trans hfailed)
    exact .refl fs' p
  · obtain rfl : fs' = fs₁ := congrArg Prod.snd (h.symm.trans hfailed)
    exact looksAlike_of_write_temporary hwrite
  · simp [hdone] at h

/-- Where a text could not be kept, what the file held it still holds, and it holds nothing that
was not there before. -/
theorem read_of_replaceText_eq_some {faults : Faults} {text : String} {e : FileError}
    (h : fs.replaceText faults p text = (some e, fs')) (content : ByteArray) :
    (fs.read p = .ok content → fs'.read p = .ok content) ∧
      (fs'.read p = .ok content →
        ∃ place, fs'.locate p = .ok place ∧ fs.at? place = some (.file content)) := by
  obtain ⟨fs₀, hmade, halike⟩ := exists_of_replaceText_eq_some h
  have hadds := hmade.addsDirectories
  constructor
  · intro hbefore
    obtain ⟨place, hplace, hat, hends⟩ := read_eq_ok_iff.1 hbefore
    have hplace₀ := hadds.keepsDirectories.locate hplace
    exact read_eq_ok_iff.2 ⟨place, (halike.locate place).2 hplace₀,
      (halike.at? place hplace₀).trans (hadds.kept _ _ hat), hends⟩
  · intro hafter
    obtain ⟨place, hplace, hat, -⟩ := read_eq_ok_iff.1 hafter
    rw [halike.at? place ((halike.locate place).1 hplace)] at hat
    exact ⟨place, hplace, hadds.file place content hat⟩

end FileSystem

end InferenceFleet
