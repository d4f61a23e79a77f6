import InferenceFleet.Files.FileSystem

/-!
# Keeping a text in a file

A text reaches its file by way of a temporary file beside it, which is moved over the old one when
it is complete. So the file never holds part of a text, whatever goes wrong on the way.
-/

namespace InferenceFleet.FileSystem

/-- What goes wrong on the way to a file. -/
structure Faults where
  /-- Its directory cannot be made, or the one that is so many steps above it. -/
  directory : Option (Nat × FileError)
  /-- The temporary file cannot be written, after some bytes. -/
  write : Option (Nat × FileError)
  /-- It cannot be moved to its place. -/
  rename : Option FileError

/-- Nothing goes wrong but what the file system itself refuses. -/
def Faults.none : Faults := ⟨.none, .none, .none⟩

/-- The temporary file of a path. -/
def temporary (p : Path) : Path := p.sibling (p.fileName?.getD "" ++ ".tmp")

/-- Puts a text into a file by way of a temporary file beside it, so that the file never holds
part of it. Returns the error, if there was one, and the file system as it then is. -/
def replaceText (faults : Faults) (fs : FileSystem) (p : Path) (text : String) :
    Option FileError × FileSystem :=
  let made := match faults.directory with
    | some (above, e) =>
        let (e, fs) := fs.makeParentsUpTo above e p
        (some e, fs)
    | none => fs.makeParents p
  match made with
  | (some e, fs) => (some e, fs)
  | (none, fs) =>
      let content := text.toUTF8
      match faults.write with
      | some (stop, e) =>
          match fs.write (temporary p) (content.extract 0 stop) with
          | .error _ => (some e, fs)
          | .ok fs => (some e, fs)
      | none =>
          match fs.write (temporary p) content with
          | .error e => (some e, fs)
          | .ok fs =>
              match faults.rename with
              | some e => (some e, fs)
              | none =>
                  match fs.rename (temporary p) p with
                  | .error e => (some e, fs)
                  | .ok fs => (none, fs)

end InferenceFleet.FileSystem
