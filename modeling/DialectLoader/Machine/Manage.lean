import DialectLoader.Files.Disk

/-!
# Managing files

What programs do to the files of a disk besides reading and writing them: removing, moving and
copying whole trees, appending, listing directories, and setting times and permissions.

The loader needs none of this. It serves the programs that a session may start, and no result rests
on it. Owners, groups and the permission to read are not part of a disk, and neither are further
names for one file.
-/

namespace DialectLoader

def FileTree.graft {α : Type} (blank : α) (branch : FileTree α) : Place → FileTree α → FileTree α
  | [], _ => branch
  | name :: rest, tree =>
    .node tree.entry
      (FileTree.alter name (fun known => graft blank branch rest (known.getD (.node blank [])))
        tree.children)

namespace Disk

def tick (disk : Disk) : Disk :=
  { disk with now := (Signal.of? disk.now.seconds (disk.now.nanoseconds + 1)).getD disk.now }

def named (disk : Disk) (path : String) : Except FileError (Place × FileTree DiskEntry) := do
  let goal ← disk.approach .entry path
  match goal.found? with
  | none => .error .noEntry
  | some (place, tree) =>
    if goal.slash && !tree.entry.isDirectory then .error .notDirectory else .ok (place, tree)

def children (disk : Disk) (path : String) : Except FileError (List String) := do
  match ← disk.stat path with
  | (place, .directory) =>
    return ((disk.tree.at? place).map fun tree => tree.children.map (·.1)).getD []
  | _ => .error .notDirectory

def removeFile (disk : Disk) (path : String) : Except FileError Unit × Disk :=
  match disk.named path with
  | .error cause => (.error cause, disk)
  | .ok (place, tree) =>
    if tree.entry.isDirectory then (.error .isDirectory, disk)
    else (.ok (), { disk with tree := disk.tree.erase place })

def removeAll (disk : Disk) (path : String) : Except FileError Unit × Disk :=
  match disk.named path with
  | .error cause => (.error cause, disk)
  | .ok (place, _) => (.ok (), { disk with tree := disk.tree.erase place })

def placeOf (disk : Disk) (path : String) : Except FileError Place := do
  let goal ← disk.approach .name path
  match goal.ending, goal.found? with
  | _, some (place, _) => .ok place
  | .name name _, none => .ok (goal.directory.place ++ [name])
  | _, none => .error .noEntry

def rename (disk : Disk) (old new : String) : Except FileError Unit × Disk :=
  let moved : Except FileError Disk := do
    let (source, tree) ← disk.named old
    let target ← disk.placeOf new
    if source == target then return disk
    if source.isPrefixOf target then .error .invalidArgument
    match disk.tree.at? target with
    | some (.node .directory below) =>
      if !tree.entry.isDirectory then .error .isDirectory
      if !below.isEmpty then .error .notEmpty
    | some _ => if tree.entry.isDirectory then .error .notDirectory
    | none => pure ()
    return { disk with tree := FileTree.graft .directory tree target (disk.tree.erase source) }
  match moved with
  | .ok after => (.ok (), after)
  | .error cause => (.error cause, disk)

def copyTree (disk : Disk) (tree : FileTree DiskEntry) (path : String) :
    Except FileError Unit × Disk :=
  match disk.placeOf path with
  | .error cause => (.error cause, disk)
  | .ok place =>
    let copied := tree.listFrom place.reverse |>.foldl
      (fun disk (place, entry) =>
        match entry with
        | .file contents _ executable => disk.put place (.file contents disk.now executable)
        | other => disk.put place other)
      disk
    (.ok (), copied)

def openFile (disk : Disk) (path : String) (append : Bool) : Except FileError Place × Disk :=
  match disk.writable path with
  | .error cause => (.error cause, disk)
  | .ok (place, executable) =>
    let kept := match disk.entry? place with
      | some (.file contents _ _) => if append then contents else []
      | _ => []
    let time := match append, disk.entry? place with
      | true, some (.file _ time _) => time
      | _, _ => disk.now
    (.ok place, disk.put place (.file kept time executable))

def appendTo (disk : Disk) (place : Place) (contents : Bytes) : Disk :=
  match disk.entry? place with
  | some (.file before _ executable) =>
    disk.put place (.file (before ++ contents) disk.now executable)
  | _ => disk

def setTime (disk : Disk) (path : String) (time : Signal) : Disk :=
  match disk.stat path with
  | .ok (place, .file contents _ executable) => disk.put place (.file contents time executable)
  | _ => disk

def setExecutable (disk : Disk) (path : String) (executable : Bool) :
    Except FileError Unit × Disk :=
  match disk.stat path with
  | .ok (place, .file contents time _) => (.ok (), disk.put place (.file contents time executable))
  | .ok _ => (.ok (), disk)
  | .error cause => (.error cause, disk)

def makeLink (disk : Disk) (path target : String) : Except FileError Unit × Disk :=
  match disk.approach .name path with
  | .error cause => (.error cause, disk)
  | .ok goal =>
    match goal.ending, goal.found? with
    | .name name false, none => (.ok (), disk.put (goal.directory.place ++ [name]) (.link target))
    | .name _ true, none => (.error .noEntry, disk)
    | _, _ => (.error .occupied, disk)

def enter (disk : Disk) (path : String) : Except FileError Disk := do
  match ← disk.stat path with
  | (place, .directory) => return { disk with workingDirectory := place }
  | _ => .error .notDirectory

end Disk

end DialectLoader
