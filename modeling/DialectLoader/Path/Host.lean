import DialectLoader.Text.Lines

/-!
# Host paths

A host path is a path as the operating system reads it: only `/` separates names, and letter case
counts. Two spellings of an absolute path name one place when their names agree: empty names and `.`
do not count, `..` does. Of a relative path a leading `.` counts too. Appending an absolute path
replaces what was there.

Spellings are compared without looking at a disk, so links play no part here. Paths of other
systems, with drives or with backslashes between names, are not considered.
-/

namespace DialectLoader.HostPath

def isAbsolute (path : String) : Bool :=
  path.toList.head? == some '/'

/-- Whether a name between two slashes counts: empty ones and single dots do not. -/
def isName (name : List Char) : Bool :=
  name != [] && name != ['.']

/-- All that stands between the slashes of a path, in its own spelling and with the names that do
not count. -/
def rawNames (path : String) : List (List Char) :=
  Text.pieces (· == '/') path.toList

def names (path : String) : List String :=
  ((rawNames path).filter isName).map String.ofList

/-- Appends a path to another. An absolute path takes the place of the other, and the empty path
adds nothing in front. -/
def append (base path : String) : String :=
  if isAbsolute path || base.isEmpty then path
  else if base.toList.getLast? = some '/' then base ++ path
  else base ++ "/" ++ path

/-- What follows the first `count` names that count; names between them that do not count go with
them. -/
def dropNames : Nat → List (List Char) → List (List Char)
  | 0, raw => raw
  | _ + 1, [] => []
  | count + 1, name :: rest => dropNames (if isName name then count else count + 1) rest

def trimNames (raw : List (List Char)) : List (List Char) :=
  ((raw.dropWhile (!isName ·)).reverse.dropWhile (!isName ·)).reverse

/-- The steps that a path describes: the root directory or a leading `.` if it starts with one, then
its names. -/
def steps (path : String) : List String :=
  if isAbsolute path then "/" :: names path
  else if (rawNames path).head? = some ['.'] then "." :: names path
  else names path

/-- The part of a path below a directory whose steps it starts with. Its inner spelling is kept. -/
def below? (directory path : String) : Option String :=
  if (steps directory).isEmpty then some path
  else if (steps directory).isPrefixOf (steps path) then
    some (String.ofList
      (['/'].intercalate (trimNames (dropNames (names directory).length (rawNames path)))))
  else none

/-- The spelling of a path below a root with `/` in place of every `\`, which is a letter like
others to the system. -/
def forwardSlashes (path : String) : String :=
  String.ofList (path.toList.map fun c => if c = '\\' then '/' else c)

end DialectLoader.HostPath
