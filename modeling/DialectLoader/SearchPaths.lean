import Std.Data.ExtTreeMap

/-!
# Search paths

A search path is an ordered list of directories under a name. An unknown name stands for the empty
list, so asking for one is never an error.

The directories are texts. Whether they exist, and whether two of them lead to the same place, is
not looked at here.
-/

namespace DialectLoader

/-- The named search paths. They are kept in the order of their names, so that two tables with the
same entries are equal. -/
structure SearchPaths where
  paths : Std.ExtTreeMap String (List String) := ∅
deriving DecidableEq

namespace SearchPaths

/-- The directories of a search path, in the order in which they are searched. The first one that
holds a file wins. -/
def directories (searchPaths : SearchPaths) (id : String) : List String :=
  searchPaths.paths.getD id []

/-- Adds a directory at the end of a search path, unless it is there already. Directories are
compared by their spelling, so `lua` and `lua/` are two. -/
def add (searchPaths : SearchPaths) (id directory : String) : SearchPaths :=
  let known := searchPaths.directories id
  ⟨searchPaths.paths.insert id (if known.contains directory then known else known ++ [directory])⟩

/-- Adds several directories in order. Without any the search path is not even named, which a
listing of the names can tell from an empty one. -/
def addAll (searchPaths : SearchPaths) (id : String) (directories : List String) : SearchPaths :=
  directories.foldl (·.add id ·) searchPaths

/-- The search paths given by a table. A later entry replaces an earlier one of the same name, and
repeated directories within an entry are kept. -/
def ofList (table : List (String × List String)) : SearchPaths :=
  ⟨.ofList table⟩

def toList (searchPaths : SearchPaths) : List (String × List String) :=
  searchPaths.paths.toList

end SearchPaths

end DialectLoader
