import DialectLoader.Text.Lines

/-!
# Script paths

A script path is a text in which `/` and `\` separate segments. The host treats paths without
regard to case, so two spellings name one script when they agree on being rooted and on their
lists of meaningful segments in lower case: empty segments and `.` segments do not count.
`normalize` gives the common spelling. A `..` segment has no meaning here and is kept.

Joining, cutting and renaming work on the spelling itself and keep what they do not touch.
Only `/` is trimmed at the ends of a path; a trailing `\` stays.
-/

namespace DialectLoader.Path

def isSeparator (c : Char) : Bool :=
  c == '/' || c == '\\'

/-- Whether a segment counts when two spellings are compared: empty ones and single dots do not. -/
def isMeaningful (segment : List Char) : Bool :=
  segment != [] && segment != ['.']

def segments (path : List Char) : List (List Char) :=
  (Text.pieces isSeparator path).filter isMeaningful

def isRooted (path : List Char) : Bool :=
  path.head?.any isSeparator

/-- Writes segments with `/` between them, after a leading `/` for a rooted path. -/
def assemble (rooted : Bool) (names : List (List Char)) : List Char :=
  (if rooted then ['/'] else []) ++ ['/'].intercalate names

/-- The spelling that all spellings of one script share: `/` between segments, none of them
empty or `.`, and ASCII letters in lower case. -/
def normalize (path : String) : String :=
  String.ofList ((assemble (isRooted path.toList) (segments path.toList)).map Char.toLower)

def dropLeadingSlashes (path : List Char) : List Char :=
  path.dropWhile (· == '/')

def dropTrailingSlashes (path : List Char) : List Char :=
  (path.reverse.dropWhile (· == '/')).reverse

def trimEnd (path : String) : String :=
  String.ofList (dropTrailingSlashes path.toList)

/-- Puts a path below a directory. Slashes at the start of the lower path do not make it
rooted, and the empty directory adds nothing. -/
def join (directory lower : String) : String :=
  let rest := dropLeadingSlashes lower.toList
  if directory.isEmpty then String.ofList rest
  else if directory.toList.getLast? = some '/' then String.ofList (directory.toList ++ rest)
  else String.ofList (directory.toList ++ '/' :: rest)

/-- Cuts a path behind its last separator: the directory part with that separator, and the name. -/
def cutName (path : List Char) : List Char × List Char :=
  ((path.reverse.dropWhile (!isSeparator ·)).reverse,
    (path.reverse.takeWhile (!isSeparator ·)).reverse)

def fileName (path : String) : String :=
  String.ofList (cutName path.toList).2

/-- The directory of a file: all that precedes the last separator. A path without one is in the
empty directory. -/
def parent (path : String) : String :=
  String.ofList (cutName path.toList).1.dropLast

/-- Cuts a name before its last dot. Without a dot the whole name is the stem. -/
def cutStem (name : List Char) : List Char × Option (List Char) :=
  if name.contains '.' then
    ((name.reverse.dropWhile (· != '.')).reverse.dropLast,
      some (name.reverse.takeWhile (· != '.')).reverse)
  else (name, none)

/-- What follows the last dot of the file name. A name that ends in a dot has no extension. -/
def extension? (path : String) : Option String :=
  ((cutStem (cutName path.toList).2).2.filter (· != [])).map String.ofList

/-- Replaces the extension, or adds one; dots at the start of the new extension do not count. -/
def setExtension (path ext : String) : String :=
  let (directory, name) := cutName path.toList
  String.ofList (directory ++ (cutStem name).1 ++ '.' :: ext.toList.dropWhile (· == '.'))

def sameLetters (left right : List Char) : Bool :=
  left.map Char.toLower == right.map Char.toLower

/-- Whether a path ends in the given text, in any letter case. -/
def endsWith (path ending : String) : Bool :=
  sameLetters (path.toList.drop (path.toList.length - ending.toList.length)) ending.toList

end DialectLoader.Path
