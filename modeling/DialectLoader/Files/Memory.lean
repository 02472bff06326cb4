import Std.Data.ExtTreeMap
import Std.Data.ExtTreeSet
import DialectLoader.Files.Store

/-!
# Files in memory

A file store without a disk. Its clock advances by one second whenever a file is added, touched or
written, so later changes are always newer. Paths are compared by their spelling. A store can be
made read-only: then writing files and making directories is refused, while removal and changes
from outside go on.
-/

namespace DialectLoader

/-- A file: its bytes and its modification time. -/
structure StoredFile where
  contents : Bytes
  modified : Signal
deriving DecidableEq

/-- Files and directories by their paths, with a clock that every change moves. A directory is there
by itself and not because of its files. -/
structure MemoryFiles where
  files : Std.ExtTreeMap String StoredFile := ∅
  directories : Std.ExtTreeSet String := ∅
  clock : Nat := 0
  readOnly : Bool := false

namespace MemoryFiles

/-- The directory names on the way to a path, the nearest first; none of them is empty. -/
def ancestors (path : String) : List String :=
  climb path.length path
where
  /-- Climbs at most the given number of steps. Every step shortens the path, so its length is
  enough of them. -/
  climb : Nat → String → List String
    | 0, _ => []
    | steps + 1, path =>
      let directory := Path.parent path
      if directory.isEmpty then [] else directory :: climb steps directory

/-- The directories with all those on the way to a path, which appear with a file that is added
there. -/
def withAncestors (store : MemoryFiles) (path : String) : Std.ExtTreeSet String :=
  store.directories.insertMany (ancestors path)

/-- The time of the next change, one second after the last one. -/
def nextTime (store : MemoryFiles) : Signal :=
  ⟨store.clock + 1, 0⟩

/-- Adds or replaces a file from outside; the directories on the way appear with it. -/
def addFile (store : MemoryFiles) (path : String) (contents : Bytes) : MemoryFiles :=
  { store with
    files := store.files.insert path ⟨contents, store.nextTime⟩
    directories := store.withAncestors path
    clock := store.clock + 1 }

/-- Renews the modification time of a file. The clock advances even without the file. -/
def touch (store : MemoryFiles) (path : String) : MemoryFiles :=
  { store with
    files := store.files.modify path fun file => { file with modified := store.nextTime }
    clock := store.clock + 1 }

def setReadOnly (store : MemoryFiles) (value : Bool) : MemoryFiles :=
  { store with readOnly := value }

def fileCount (store : MemoryFiles) : Nat :=
  store.files.size

def read (store : MemoryFiles) (path : String) : Except FileError Bytes :=
  match store.files[path]? with
  | some file => .ok file.contents
  | none => .error (.missing path)

/-- Writes a file into a directory that exists; the empty directory always does. The file gets the
time of the next change. -/
def write (store : MemoryFiles) (path : String) (contents : Bytes) :
    Except FileError Unit × MemoryFiles :=
  if store.readOnly then (.error (.refused path), store)
  else if !(Path.parent path).isEmpty && !store.directories.contains (Path.parent path) then
    (.error (.missing (Path.parent path)), store)
  else
    (.ok (), { store with
      files := store.files.insert path ⟨contents, store.nextTime⟩
      clock := store.clock + 1 })

def isDirectory (store : MemoryFiles) (path : String) : Bool :=
  store.directories.contains (Path.trimEnd path)

def modified (store : MemoryFiles) (path : String) : Except FileError Signal :=
  match store.files[path]? with
  | some file => .ok file.modified
  | none => .error (.missing path)

/-- Makes a directory and those on the way to it, unless the store is read-only. The clock does not
move. -/
def createDirectories (store : MemoryFiles) (path : String) : Except FileError Unit × MemoryFiles :=
  if store.readOnly then (.error (.refused path), store)
  else
    let directory := Path.trimEnd path
    let known := store.withAncestors directory
    (.ok (), { store with
      directories := if directory.isEmpty then known else known.insert directory })

/-- Whether a path lies below a directory given without a slash at its end. Spelling decides, with a
slash between the two. -/
def isBelow (directory path : String) : Bool :=
  (directory.toList ++ ['/']).isPrefixOf path.toList

/-- The paths of the files below a directory. The empty directory holds all files. -/
def walk (store : MemoryFiles) (path : String) : Except FileError (List String) :=
  let directory := Path.trimEnd path
  if directory.isEmpty then .ok store.files.keys
  else if store.directories.contains directory then
    .ok (store.files.keys.filter (isBelow directory))
  else .error (.missing directory)

/-- Removes the files and directories below a directory, and the directory itself, also on a
read-only store. -/
def removeTree (store : MemoryFiles) (path : String) : Except FileError Nat × MemoryFiles :=
  let directory := Path.trimEnd path
  let kept := store.files.filter fun file _ => !isBelow directory file
  (.ok (store.files.size - kept.size),
    { store with
      files := kept
      directories := store.directories.filter fun known => !isBelow directory known &&
      known != directory })

/-- The absolute path of the root, under which the host would see the files. -/
def root : String := "/mock"

def absolute (_ : MemoryFiles) (path : String) : String :=
  HostPath.append root path

/-- The path from the root of an absolute path, by spelling. There are no links that could say
otherwise. -/
def relative? (_ : MemoryFiles) (path : String) : Option String :=
  (HostPath.below? root path).map HostPath.forwardSlashes

end MemoryFiles

instance : FileStore MemoryFiles where
  read := MemoryFiles.read
  write := MemoryFiles.write
  isFile store path := store.files.contains path
  isDirectory := MemoryFiles.isDirectory
  modified := MemoryFiles.modified
  createDirectories := MemoryFiles.createDirectories
  walk := MemoryFiles.walk
  removeTree := MemoryFiles.removeTree
  absolute := MemoryFiles.absolute
  relative? := MemoryFiles.relative?
  canonical _ path := path

end DialectLoader
