import InferenceFleet.Files.FileSystem

/-!
# The disk

How the files that the program cares about get from the disk into a file system value, and back
after the program has changed it.
-/

namespace InferenceFleet.Outside

/-- What the disk holds at a place. -/
def entryAt? (key : String) : IO (Option FileEntry) := do
  try
    return some (.file (← IO.FS.readBinFile key))
  catch
    | .inappropriateType _ 21 _ => return some (.directory false)
    | _ => return none

/-- The places that steps lead through from a place, the last one included. -/
def placesFrom (place : List String) : List String → List (List String)
  | [] => []
  | step :: rest => FileSystem.next place step :: placesFrom (FileSystem.next place step) rest

/-- The file system with what the disk holds at a path and on the way to it. -/
def observe (fs : FileSystem) (path : String) : IO FileSystem := do
  let path := Path.ofText path
  if (FileSystem.flaw? path).isSome then return fs
  let first := fs.start path
  (placesFrom [] first ++ placesFrom first path.steps).foldlM (fun fs place => do
    match ← entryAt? (FileSystem.keyOf place) with
    | some entry => return fs.put place entry
    | none => return fs.drop place) fs

/-- Whether two files have the same content. -/
def sameContent (content : ByteArray) : Option FileEntry → Bool
  | some (.file old) => content.toList == old.toList
  | _ => false

/-- Brings to the disk what is new in a file system. A file is written beside its place first and
then moved there. -/
def writeBack (old new : FileSystem) : IO Unit := do
  for (key, entry) in new.entries.entries do
    match entry with
    | .directory _ =>
        if (old.entries.get? key).isNone then IO.FS.createDir key
    | .file content =>
        unless sameContent content (old.entries.get? key) do
          IO.FS.writeBinFile (key ++ ".tmp") content
          IO.FS.rename (key ++ ".tmp") key

end InferenceFleet.Outside
