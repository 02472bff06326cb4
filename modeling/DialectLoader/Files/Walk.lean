import DialectLoader.Artifact
import DialectLoader.Files.Error
import DialectLoader.Files.Tree
import DialectLoader.Path.Host

/-!
# Finding places on a disk

A path is followed name by name. Its last name is special: what it may be, and whether a link there
is replaced by its target, depends on what the place is wanted for. All names before it have to lead
to directories; links among them are replaced by their targets, and `..` leads to the directory
above. After forty links the search is given up.
-/

namespace DialectLoader

/-- What is at a place: a directory, a file with its bytes and time, or a link with the text of its
target. -/
inductive DiskEntry where
  | directory
  | file (contents : Bytes) (modified : Signal) (executable : Bool)
  | link (target : String)
deriving DecidableEq

def DiskEntry.isDirectory : DiskEntry → Bool
  | .directory => true
  | _ => false

/-- A directory that a search has reached, and the directories above it with the names that lead on
from them, innermost first. -/
structure Trail where
  here : FileTree DiskEntry
  above : List (String × FileTree DiskEntry) := []

namespace Trail

def place (trail : Trail) : Place :=
  (trail.above.map (·.1)).reverse

def up (trail : Trail) : Trail :=
  match trail.above with
  | [] => trail
  | (_, parent) :: rest => ⟨parent, rest⟩

def down (trail : Trail) (name : String) (tree : FileTree DiskEntry) : Trail :=
  ⟨tree, (name, trail.here) :: trail.above⟩

def entry? (trail : Trail) (name : String) : Option DiskEntry :=
  (trail.here.child? name).map FileTree.entry

def root (trail : Trail) : Trail :=
  ⟨(trail.above.getLast?.map (·.2)).getD trail.here, []⟩

/-- The directory from which a path is followed: the root for an absolute path, else the given
one. -/
def start (trail : Trail) (path : String) : Trail :=
  if HostPath.isAbsolute path then trail.root else trail

end Trail

/-- The trail that leads to a place, if there are directories all the way. -/
def FileTree.trail? (tree : FileTree DiskEntry) (place : Place) : Option Trail :=
  place.foldlM (fun trail name => (trail.here.child? name).map (trail.down name)) ⟨tree, []⟩

/-- How a path ends, which decides what can be done at its end. -/
inductive Ending where
  /-- There is no name at all. -/
  | root
  /-- The last name is `.`. -/
  | same
  /-- The last name is `..`. -/
  | above
  /-- The last name, and whether a slash follows it. -/
  | name (name : String) (slash : Bool)
deriving DecidableEq, Repr

/-- The names before the last one, and the ending. Single dots in between do not count. -/
def Ending.split (path : String) : List String × Ending :=
  let raw := (HostPath.rawNames path).reverse
  match raw.dropWhile (·.isEmpty) with
  | [] => ([], .root)
  | last :: before =>
    ((before.reverse.filter HostPath.isName).map String.ofList,
      if last == ['.'] then .same
      else if last == ['.', '.'] then .above
      else .name (String.ofList last) (raw.head?.any (·.isEmpty)))

namespace Walk

def longestName : Nat := 255

def longestPath : Nat := 4095

/-- The number of links that a search follows before it is given up, so that links in a circle do no
harm. -/
def linkLimit : Nat := 40

/-- Where a search has come to, and how many links it may still follow. -/
abbrev Progress := Except FileError (Trail × Nat)

/-- Follows names to a directory, up to the first link; from there `jump` goes on. -/
def advance (links : Nat) (jump : Trail → List String → Progress) : Trail → List String → Progress
  | trail, [] => .ok (trail, links)
  | trail, name :: rest =>
    if name = ".." then advance links jump trail.up rest
    else if longestName < name.utf8ByteSize then .error .nameTooLong
    else
      match trail.here.child? name with
      | none => .error .noEntry
      | some tree =>
        match tree.entry with
        | .directory => advance links jump (trail.down name tree) rest
        | .file .. => .error .notDirectory
        | .link target => jump (trail.start target) (HostPath.names target ++ rest)

/-- Follows names to a directory over at most the given number of links. -/
def toDirectory : Nat → Trail → List String → Progress
  | 0 => advance 0 fun _ _ => .error .tooManyLinks
  | links + 1 => advance (links + 1) (toDirectory links)

/-- What a place is wanted for, which decides about links and about slashes at the end. -/
inductive Purpose where
  /-- To look at what the path leads to. -/
  | target
  /-- To look at what is there, which may be a link. -/
  | entry
  /-- To write a file, which need not be there. -/
  | file
  /-- To make or remove what has the last name. -/
  | name
deriving DecidableEq, Repr

/-- Whether a link at the end of a path is followed. A slash behind it matters where a link would be
an answer too. -/
def Purpose.follows (purpose : Purpose) (slash : Bool) : Bool :=
  match purpose with
  | .target | .file => true
  | .entry => slash
  | .name => false

/-- The end of a search: a directory and the last name in it, under which there may be nothing. -/
structure Goal where
  directory : Trail
  ending : Ending
  /-- Whether a slash, here or behind a link on the way, asks for a directory. -/
  slash : Bool

/-- Finds the directory of what a path leads to. The first number bounds how often the search starts
again behind a link, the second the links to be followed altogether. -/
def approach (purpose : Purpose) : Nat → Nat → Trail → String → Bool → Except FileError Goal
  | 0, _, _, _, _ => .error .tooManyLinks
  | rounds + 1, links, trail, path, slash =>
    let (names, ending) := Ending.split path
    match toDirectory links (trail.start path) names with
    | .error cause => .error cause
    | .ok (directory, links) =>
      match ending with
      | .name name slashed =>
        if slashed && purpose == .file then .error .isDirectory
        else if longestName < name.utf8ByteSize then .error .nameTooLong
        else
          match directory.entry? name with
          | some (.link target) =>
            if !purpose.follows (slash || slashed) then .ok ⟨directory, ending, slash || slashed⟩
            else if links = 0 then .error .tooManyLinks
            else approach purpose rounds (links - 1) directory target (slash || slashed)
          | _ => .ok ⟨directory, ending, slash || slashed⟩
      | _ => .ok ⟨directory, ending, slash⟩

def Goal.found? (goal : Goal) : Option (Place × FileTree DiskEntry) :=
  match goal.ending with
  | .root | .same => some (goal.directory.place, goal.directory.here)
  | .above => some (goal.directory.up.place, goal.directory.up.here)
  | .name name _ => (goal.directory.here.child? name).map fun tree =>
    ((goal.directory.down name tree).place, tree)

end Walk

end DialectLoader
