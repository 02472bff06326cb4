import Std.Data.ExtTreeSet
import DialectLoader.Files.Store
import DialectLoader.SearchPaths

/-!
# Logical paths

Scripts are addressed by a logical path and the name of a search path. The first directory of the
search path that holds a file at the logical path decides. Nothing is remembered between two
lookups, so files that come or go later change what a logical path stands for.
-/

namespace DialectLoader.Logical

variable {σ : Type} [FileStore σ]

/-- The path of the file that a logical path stands for, which is in the first directory that has
one. -/
def resolve? (store : σ) (searchPaths : SearchPaths) (logical id : String) : Option String :=
  ((searchPaths.directories id).map (Path.join · logical)).find? (FileStore.isFile store)

def unresolved (logical id : String) : FileError :=
  .stated .notFound (logical ++ " not found in search path " ++ id)

def locate (store : σ) (searchPaths : SearchPaths) (logical id : String) :
    Except FileError String :=
  match resolve? store searchPaths logical id with
  | some path => .ok path
  | none => .error (unresolved logical id)

/-- The bytes of a script, from the file that its logical path stands for at this moment. -/
def read (store : σ) (searchPaths : SearchPaths) (logical id : String) :
    Except FileError Bytes := do
  FileStore.read store (← locate store searchPaths logical id)

/-- The modification time of a script, from the file that its logical path stands for at this
moment. -/
def modified (store : σ) (searchPaths : SearchPaths) (logical id : String) :
    Except FileError Signal := do
  FileStore.modified store (← locate store searchPaths logical id)

/-- What follows a directory and a slash, by spelling. Everything is below the empty directory. -/
def below? (directory path : String) : Option String :=
  if directory.isEmpty then some path
  else if (directory.toList ++ ['/']).isPrefixOf path.toList then
    some (String.ofList (path.toList.drop (directory.toList.length + 1)))
  else none

/-- The logical paths of the files that one directory of a search path holds below a logical
directory. -/
def walkOne (store : σ) (logical directory : String) : List String :=
  let base := Path.trimEnd (Path.join directory logical)
  match FileStore.walk store base with
  | .ok paths => paths.filterMap fun path => (below? base path).map (Path.join logical)
  | .error _ => []

/-- The logical paths of all files below a logical directory, sorted and each listed once. A
directory that is missing or cannot be walked adds nothing. -/
def walk (store : σ) (searchPaths : SearchPaths) (logical id : String) : List String :=
  let directory := Path.trimEnd logical
  (Std.ExtTreeSet.ofList ((searchPaths.directories id).flatMap (walkOne store directory))).toList

/-- Removes a directory tree if it is there, and counts its files. One that is not there is no
error. -/
def purge (store : σ) (directory : String) : Except FileError Nat × σ :=
  if FileStore.isDirectory store directory then FileStore.removeTree store directory
  else (.ok 0, store)

end DialectLoader.Logical
