import DialectLoader.Files.Store
import DialectLoader.Files.Walk

/-!
# Files on a disk

A disk is a tree of directories, files and links. Paths that are not absolute start at its root,
which may be any directory. The operations find their places as `Walk` tells, each for its purpose,
and fail for the causes that the operating system would report.

This is a model of a disk and not a binding to one. There are no owners and no permissions, no hard
links and no devices; nothing fails for want of space, and nobody else changes the tree while an
operation runs.
-/

namespace DialectLoader

/-- A disk, and the directory from which relative paths start, with the clocks of those who change
it. -/
structure Disk where
  tree : FileTree DiskEntry := .node .directory []
  root : String
  /-- The directory in which a root that is itself relative is looked up. -/
  workingDirectory : Place := []
  /-- The modification time of what the program itself writes. -/
  now : Signal
  /-- How many changes came from outside; each is a second newer than the one before. -/
  clock : Nat := 0

namespace Disk

/-- All entries below the root directory of the tree, with their places, in the order of a
listing. -/
def entries (disk : Disk) : List (Place × DiskEntry) :=
  disk.tree.entries

def entry? (disk : Disk) (place : Place) : Option DiskEntry :=
  (disk.tree.at? place).map (·.entry)

def put (disk : Disk) (place : Place) (entry : DiskEntry) : Disk :=
  { disk with tree := disk.tree.insert .directory entry place }

/-- Finds the directory of what a path leads to, from the working directory if the path is
relative. -/
def approach (disk : Disk) (purpose : Walk.Purpose) (path : String) : Except FileError Walk.Goal :=
  if path.toList.contains '\x00' then .error .unusablePath
  else if path.isEmpty then .error .noEntry
  else if Walk.longestPath < path.utf8ByteSize then .error .nameTooLong
  else
    match disk.tree.trail? disk.workingDirectory with
    | none => .error .noEntry
    | some trail => Walk.approach purpose (Walk.linkLimit + 1) Walk.linkLimit trail path false

/-- What a path leads to, with its place. A slash behind it asks for a directory. -/
def look (disk : Disk) (purpose : Walk.Purpose) (path : String) :
    Except FileError (Place × DiskEntry) :=
  match disk.approach purpose path with
  | .error cause => .error cause
  | .ok goal =>
    match goal.found? with
    | none => .error .noEntry
    | some (place, tree) =>
      if goal.slash && !tree.entry.isDirectory then .error .notDirectory
      else .ok (place, tree.entry)

def stat (disk : Disk) (path : String) : Except FileError (Place × DiskEntry) :=
  disk.look .target path

def absolute (disk : Disk) (path : String) : String :=
  HostPath.append disk.root path

def readAt (disk : Disk) (path : String) : Except FileError Bytes :=
  match disk.stat path with
  | .ok (_, .file contents _ _) => .ok contents
  | .ok _ => .error .isDirectory
  | .error cause => .error cause

/-- The place of a file to be written, and whether the file is executable. A new file is not. -/
def writable (disk : Disk) (path : String) : Except FileError (Place × Bool) :=
  match disk.approach .file path with
  | .error cause => .error cause
  | .ok goal =>
    match goal.ending, goal.found? with
    | _, some (place, .node (.file _ _ executable) _) => .ok (place, executable)
    | .name name _, none => .ok (goal.directory.place ++ [name], false)
    | _, _ => .error .isDirectory

/-- Writes the file at an absolute path, into a directory that has to be there. The file that is
there keeps being executable. -/
def writeAt (disk : Disk) (path : String) (contents : Bytes) : Except FileError Unit × Disk :=
  match disk.writable path with
  | .ok (place, executable) => (.ok (), disk.put place (.file contents disk.now executable))
  | .error cause => (.error cause, disk)

/-- Whether there is a file at an absolute path, or a link that leads to one. -/
def isFileAt (disk : Disk) (path : String) : Bool :=
  match disk.stat path with
  | .ok (_, .file ..) => true
  | _ => false

/-- Whether there is a directory at an absolute path, or a link that leads to one. -/
def isDirectoryAt (disk : Disk) (path : String) : Bool :=
  match disk.stat path with
  | .ok (_, .directory) => true
  | _ => false

/-- Makes one directory. Slashes at the end of its path do not matter, and what is there already is
in the way whatever it is. -/
def makeDirectory (disk : Disk) (path : String) : Except FileError Unit × Disk :=
  match disk.approach .name path with
  | .error cause => (.error cause, disk)
  | .ok goal =>
    match goal.ending, goal.found? with
    | .name name _, none => (.ok (), disk.put (goal.directory.place ++ [name]) .directory)
    | _, _ => (.error .occupied, disk)

/-- Removes one directory, which has to be empty and to be called by its name. -/
def removeDirectory (disk : Disk) (path : String) : Except FileError Unit × Disk :=
  match disk.approach .name path with
  | .error cause => (.error cause, disk)
  | .ok goal =>
    match goal.ending, goal.found? with
    | .root, _ => (.error .busy, disk)
    | .same, _ => (.error .invalidArgument, disk)
    | .above, _ => (.error .notEmpty, disk)
    | .name .., none => (.error .noEntry, disk)
    | .name .., some (place, .node .directory []) =>
      (.ok (), { disk with tree := disk.tree.erase place })
    | .name .., some (_, .node .directory _) => (.error .notEmpty, disk)
    | .name .., some _ => (.error .notDirectory, disk)

/-- The path of the directory above, by spelling alone; two dots are not resolved. -/
def above? (path : String) : Option String :=
  let raw := HostPath.trimNames (HostPath.rawNames path)
  if raw.isEmpty then none
  else
    let shorter := String.ofList (['/'].intercalate (HostPath.trimNames raw.dropLast))
    some (if HostPath.isAbsolute path then "/" ++ shorter else shorter)

/-- Makes a directory; when the one above is missing, makes that one first. `steps` bounds the
number of directories, of which the path names at most as many as it has characters. -/
def makeDirectories : Nat → Disk → String → Except FileError Unit × Disk
  | 0, disk, _ => (.error .noEntry, disk)
  | steps + 1, disk, path =>
    if path.isEmpty then (.ok (), disk)
    else
      match disk.makeDirectory path with
      | (.ok (), made) => (.ok (), made)
      | (.error .noEntry, _) =>
        match above? path with
        | none => (.error .noEntry, disk)
        | some directory =>
          match makeDirectories steps disk directory with
          | (.error cause, changed) => (.error cause, changed)
          | (.ok (), changed) => settle changed path
      | (.error cause, _) =>
        if disk.isDirectoryAt path then (.ok (), disk) else (.error cause, disk)
where
  /-- Makes the last directory; one that is there already is as good. -/
  settle (disk : Disk) (path : String) : Except FileError Unit × Disk :=
    match disk.makeDirectory path with
    | (.ok (), made) => (.ok (), made)
    | (.error cause, _) => if disk.isDirectoryAt path then (.ok (), disk) else (.error cause, disk)

/-- The modification time at an absolute path. A directory is as new as the program's last write. -/
def modifiedAt (disk : Disk) (path : String) : Except FileError Signal :=
  match disk.stat path with
  | .ok (_, .file _ time _) => .ok time
  | .ok _ => .ok disk.now
  | .error cause => .error cause

/-- Whether the entry at a place is a file, or a link that leads to one. -/
def leadsToFile (disk : Disk) (place : Place) : DiskEntry → Bool
  | .file .. => true
  | .directory => false
  | .link _ => disk.isFileAt ("/" ++ "/".intercalate place)

/-- The places below a directory at which files are, relative to it and in the order of a walk. -/
def filesBelow (disk : Disk) (place : Place) : List Place :=
  match disk.tree.at? place with
  | none => []
  | some tree =>
    tree.entries.filterMap fun (below, entry) =>
      if disk.leadsToFile (place ++ below) entry then some below else none

/-- The paths of all files below a directory. Links to directories are not entered, except one that
the path itself ends in. -/
def walk (disk : Disk) (path : String) : Except FileError (List String) :=
  match disk.stat (disk.absolute path) with
  | .ok (place, .directory) =>
    .ok ((disk.filesBelow place).map fun below =>
      Path.join path (HostPath.forwardSlashes ("/".intercalate below)))
  | _ => .error (.stated .notFound (disk.absolute path ++ " is not a directory"))

/-- Removes a directory and all below it; of a link only the link itself. The contents go first, so
a directory that cannot be removed itself is left empty, and one that is not found any more, because
its own contents led to it, counts as removed. -/
def removeTree (disk : Disk) (path : String) : Except FileError Nat × Disk :=
  match disk.walk path with
  | .error cause => (.error cause, disk)
  | .ok files =>
    match disk.look .entry (disk.absolute path) with
    | .error cause => (.error cause, disk)
    | .ok (place, .link _) => (.ok files.length, { disk with tree := disk.tree.erase place })
    | .ok (place, _) =>
      match removeDirectory { disk with tree := disk.tree.clear place } (disk.absolute path) with
      | (.error .noEntry, cleared) => (.ok files.length, cleared)
      | (.error cause, cleared) => (.error cause, cleared)
      | (.ok (), removed) => (.ok files.length, removed)

def canonical? (disk : Disk) (path : String) : Option String :=
  match disk.stat path with
  | .ok (place, _) => some ("/" ++ "/".intercalate place)
  | .error _ => none

/-- The path from the root, by spelling if that shows it, else by place. Only the second way follows
links. -/
def relative? (disk : Disk) (path : String) : Option String :=
  let direct := HostPath.below? disk.root path
  let resolved := do HostPath.below? (← disk.canonical? disk.root) (← disk.canonical? path)
  (direct <|> resolved).map HostPath.forwardSlashes

def fileCount (disk : Disk) : Nat :=
  match disk.walk "" with
  | .ok files => files.length
  | .error _ => 0

/-- The disk on which there is nothing but the directory at an absolute path, its root. -/
def rootedAt (root : String) (now : Signal) : Disk :=
  (makeDirectories (root.length + 1) { root, now } root).2

/-- Adds or replaces a file from outside; the directories on the way appear with it. A file that is
executable stays so. -/
def addFile (disk : Disk) (path : String) (contents : Bytes) (executable : Bool) : Disk :=
  let target := disk.absolute path
  let directory := (above? target).getD "/"
  let made := (makeDirectories (directory.length + 1) disk directory).2
  let ticked := { made with clock := disk.clock + 1 }
  match ticked.writable target with
  | .ok (place, already) =>
    ticked.put place (.file contents ⟨ticked.clock, 0⟩ (executable || already))
  | .error _ => ticked

/-- Renews the modification time of a file, from outside. Without a file only the clock moves. -/
def touch (disk : Disk) (path : String) : Disk :=
  let ticked := { disk with clock := disk.clock + 1 }
  match ticked.stat (ticked.absolute path) with
  | .ok (place, .file contents _ executable) =>
    ticked.put place (.file contents ⟨ticked.clock, 0⟩ executable)
  | _ => ticked

/-- Places a link from outside; the directories on the way appear with it. Whether its target exists
does not matter. -/
def placeLink (disk : Disk) (path target : String) : Disk :=
  let link := disk.absolute path
  let directory := (above? link).getD "/"
  let made := (makeDirectories (directory.length + 1) disk directory).2
  match (made.approach .name link).map fun goal => (goal, goal.found?) with
  | .ok (⟨directory, .name name false, _⟩, none) =>
    made.put (directory.place ++ [name]) (.link target)
  | _ => made

end Disk

instance : FileStore Disk where
  read disk path := disk.readAt (disk.absolute path)
  write disk path contents := disk.writeAt (disk.absolute path) contents
  isFile disk path := disk.isFileAt (disk.absolute path)
  isDirectory disk path := disk.isDirectoryAt (disk.absolute path)
  modified disk path := disk.modifiedAt (disk.absolute path)
  createDirectories disk path :=
    Disk.makeDirectories ((disk.absolute path).length + 1) disk (disk.absolute path)
  walk := Disk.walk
  removeTree := Disk.removeTree
  absolute := Disk.absolute
  relative? := Disk.relative?
  canonical disk path := (disk.canonical? path).getD path

end DialectLoader
