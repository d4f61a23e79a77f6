import InferenceFleet.Files.Error
import InferenceFleet.Files.Path
import InferenceFleet.Text.Map

/-!
# File systems

A tree of directories and files without links, and the operations on it that a program needs to
keep a text in a file. An operation on one entry either succeeds or leaves the tree as it is and
says why; making several directories keeps those that were made before one could not be.
A directory may be *sealed*: it shows what it holds, and takes nothing new.

Names and paths have limits, and every step of a path, a single dot as well, has to be taken from
a directory.
-/

namespace InferenceFleet

/-- What a name stands for. -/
inductive FileEntry
  | directory (isSealed : Bool)
  | file (content : ByteArray)

/-- Directories and files by their absolute paths, and the working directory. -/
structure FileSystem where
  entries : TextMap FileEntry
  working : List String

namespace FileSystem

/-- The key of a place: its names, each after a slash. -/
def keyOf (place : List String) : String := (Path.mk true place).text

/-- What is at a place; the root is always there. -/
def at? (fs : FileSystem) (place : List String) : Option FileEntry :=
  match place with
  | [] => some (.directory false)
  | place => fs.entries.get? (keyOf place)

/-- The file system with an entry at a place. -/
def put (fs : FileSystem) (place : List String) (entry : FileEntry) : FileSystem :=
  { fs with entries := fs.entries.insert (keyOf place) entry }

/-- The file system with nothing at a place. -/
def drop (fs : FileSystem) (place : List String) : FileSystem :=
  { fs with entries := fs.entries.erase (keyOf place) }

/-- The bytes that a name may have. -/
def nameLimit : Nat := 255

/-- The bytes that a path has less than. -/
def pathLimit : Nat := 4096

/-- What is wrong with a path wherever it leads. -/
def flaw? (p : Path) : Option FileError :=
  if p.text.toList.contains '\x00' then some .nulInName
  else if p.text.utf8ByteSize ≥ pathLimit then some .nameTooLong
  else if p = .empty then some .notFound
  else none

/-- The place that one step leads to. -/
def next (place : List String) (step : String) : List String :=
  if step = "." then place else if step = ".." then place.dropLast else place ++ [step]

/-- Follows steps from a place; every place that is left has to be a directory. -/
def follow (fs : FileSystem) : List String → List String → Except FileError (List String)
  | place, [] => .ok place
  | place, step :: rest =>
      match fs.at? place with
      | some (.directory _) =>
          if step.utf8ByteSize > nameLimit then .error .nameTooLong
          else fs.follow (next place step) rest
      | some (.file _) => .error .notADirectory
      | none => .error .notFound

/-- The place from which a path is followed. -/
def start (fs : FileSystem) (p : Path) : List String := if p.absolute then [] else fs.working

/-- The place that a path leads to; nothing needs to be there. -/
def locate (fs : FileSystem) (p : Path) : Except FileError (List String) :=
  match flaw? p with
  | some e => .error e
  | none => fs.follow (fs.start p) p.steps

/-- What is at a path. -/
def find (fs : FileSystem) (p : Path) : Except FileError FileEntry :=
  match fs.locate p with
  | .error e => .error e
  | .ok place =>
      match fs.at? place with
      | none => .error .notFound
      | some (.file content) =>
          if p.endsInSlash then .error .notADirectory else .ok (.file content)
      | some entry => .ok entry

/-- Whether something is at a path. -/
def holds (fs : FileSystem) (p : Path) : Bool := (fs.find p).isOk

/-- Whether a directory is at a path. -/
def isDirectory (fs : FileSystem) (p : Path) : Bool :=
  match fs.find p with
  | .ok (.directory _) => true
  | _ => false

/-- The content of a file. -/
def read (fs : FileSystem) (p : Path) : Except FileError ByteArray :=
  match fs.find p with
  | .error e => .error e
  | .ok (.directory _) => .error .isADirectory
  | .ok (.file content) => .ok content

/-- The content of a file as text. -/
def readText (fs : FileSystem) (p : Path) : Except FileError String :=
  match fs.read p with
  | .error e => .error e
  | .ok content =>
      match String.fromUTF8? content with
      | some text => .ok text
      | none => .error .notText

/-- Whether a new entry can be made at a place. -/
def accepts (fs : FileSystem) (place : List String) : Bool :=
  match fs.at? place.dropLast with
  | some (.directory isSealed) => !isSealed
  | _ => false

/-- Makes one directory. -/
def makeDirectory (fs : FileSystem) (p : Path) : Except FileError FileSystem :=
  match fs.locate p with
  | .error e => .error e
  | .ok place =>
      if !p.goesToEntry || (fs.at? place).isSome then .error .alreadyExists
      else if fs.accepts place then .ok (fs.put place (.directory false))
      else .error .notFound

/-- Makes one directory, or finds it made. -/
def ensureDirectory (fs : FileSystem) (p : Path) : Except FileError FileSystem :=
  match fs.makeDirectory p with
  | .error .alreadyExists => if fs.isDirectory p then .ok fs else .error .alreadyExists
  | result => result

/-- Makes a directory and all that lead to it; `fuel` bounds how many those are. The root and the
working directory are there. Returns the error, if there was one, and the file system with the
directories that were made. -/
def makeDirectoriesFrom : Nat → FileSystem → Path → Option FileError × FileSystem
  | 0, fs, _ => (none, fs)
  | fuel + 1, fs, p =>
      match p.parent? with
      | none => (none, fs)
      | some parent =>
          match fs.ensureDirectory p with
          | .ok fs => (none, fs)
          | .error .notFound =>
              match makeDirectoriesFrom fuel fs parent with
              | (some e, fs) => (some e, fs)
              | (none, fs) =>
                  match fs.ensureDirectory p with
                  | .ok fs => (none, fs)
                  | .error e => (some e, fs)
          | .error e => (some e, fs)

/-- Makes a directory and all that lead to it. -/
def makeDirectories (fs : FileSystem) (p : Path) : Option FileError × FileSystem :=
  makeDirectoriesFrom (p.pieces.length + 1) fs p

/-- Makes the directories that lead to one that cannot be made: the directory itself, or the one that
is so many steps above it. Nothing is made above a directory that is there. Returns the error and
the file system with the directories that were made. -/
def makeDirectoriesUpTo (e : FileError) : Nat → Nat → FileSystem → Path → FileError × FileSystem
  | _, 0, fs, _ => (e, fs)
  | above, fuel + 1, fs, p =>
      match p.parent? with
      | none => (e, fs)
      | some parent =>
          match fs.ensureDirectory p with
          | .error .notFound =>
              match above with
              | 0 =>
                  let (failed, fs) := makeDirectoriesFrom fuel fs parent
                  (failed.getD e, fs)
              | above + 1 => makeDirectoriesUpTo e above fuel fs parent
          | _ => (e, fs)

/-- Makes the directories that lead to a path. -/
def makeParents (fs : FileSystem) (p : Path) : Option FileError × FileSystem :=
  match p.parent? with
  | some parent => fs.makeDirectories parent
  | none => (none, fs)

/-- Makes the directories that lead to a path, up to one that cannot be made: the directory of the
path, or the one that is so many steps above it. -/
def makeParentsUpTo (above : Nat) (e : FileError) (fs : FileSystem) (p : Path) :
    FileError × FileSystem :=
  match p.parent? with
  | some parent => makeDirectoriesUpTo e above (parent.pieces.length + 1) fs parent
  | none => (e, fs)

/-- Writes a file, new or over an old one. -/
def write (fs : FileSystem) (p : Path) (content : ByteArray) : Except FileError FileSystem :=
  match fs.locate p with
  | .error e => .error e
  | .ok place =>
      if !p.goesToEntry || p.endsInSlash then .error .isADirectory
      else
        match fs.at? place with
        | some (.directory _) => .error .isADirectory
        | some (.file _) => .ok (fs.put place (.file content))
        | none =>
            if fs.accepts place then .ok (fs.put place (.file content)) else .error .notFound

/-- Moves a file over another place. Both paths have to go to entries of directories, and a slash
at their ends asks for what a file is not. -/
def rename (fs : FileSystem) (source target : Path) : Except FileError FileSystem :=
  match fs.locate source, fs.locate target with
  | .error e, _ => .error e
  | _, .error e => .error e
  | .ok old, .ok new =>
      if !source.goesToEntry || !target.goesToEntry then .error .busy
      else
        match fs.at? old, fs.at? new with
        | none, _ => .error .notFound
        | some (.directory _), _ => .error .isADirectory
        | some (.file content), there =>
            if source.endsInSlash || target.endsInSlash then .error .notADirectory
            else
              match there with
              | some (.directory _) => .error .isADirectory
              | some (.file _) => .ok ((fs.drop old).put new (.file content))
              | none =>
                  if fs.accepts new then .ok ((fs.drop old).put new (.file content))
                  else .error .notFound

end FileSystem

end InferenceFleet
