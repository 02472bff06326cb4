import DialectLoader.CommandLine.Session
import DialectLoader.Machine.Shell.Program

/-!
# The program

Takes a picture of the directories that the command line concerns, runs a session on it, and brings
the changes back to the file system. In watch mode it takes a new picture ten times a second and
tells the realm which files differ.

This is the outer layer, and the only module that performs input and output. Nothing is proved about
it. Files that change between the picture and the end of the session are overwritten or missed,
links are followed when the picture is taken, and the programs that a session starts are the
stand-ins under `Machine`, run on the picture and not by the operating system.
-/

namespace DialectLoader.CommandLine

/-- The paths whose contents a session may need. A program that the interpreter would read elsewhere
is not in the picture. -/
def concerned (arguments : List String) : List String :=
  match Request.parse arguments with
  | .perform wanted =>
    [".", wanted.rootDirectory] ++ wanted.project.toList ++ wanted.toLua.toList ++ wanted.lua.toList
  | _ => []

/-- Adds what is at a path, and all below it, to a disk; the directories above appear with it. What
cannot be read is left out. -/
def capture (disk : Disk) (path : String) : IO Disk := do
  try
    let found ← IO.FS.realPath path
    let below ← if ← found.isDir then found.walkDir else pure #[]
    let mut captured := disk
    for item in below.push found do
      let place := HostPath.names item.toString
      try
        let data ← item.metadata
        if data.type == .dir then captured := captured.put place .directory
        else
          let contents ← IO.FS.readBinFile item
          captured := captured.put place
            (.file contents.toList ⟨data.modified.sec.toNat, data.modified.nsec.toNat⟩ true)
      catch _ => pure ()
    return captured
  catch _ => return disk

/-- A picture of the file system at the given paths. The clock has whole seconds only, counted from
an unknown start. -/
def picture (paths : List String) : IO Disk := do
  let here ← IO.FS.realPath "."
  let blank : Disk := {
    root := "."
    workingDirectory := HostPath.names here.toString
    now := ⟨(← IO.monoMsNow) / 1000, 0⟩ }
  paths.foldlM capture blank

def pathOf (place : Place) : String :=
  "/" ++ "/".intercalate place

/-- Brings the difference between two pictures to the file system. Removals come first and from the
inside out, so a directory is empty when its turn comes. -/
def restore (before after : Disk) : IO Unit := do
  for (place, entry) in before.entries.reverse do
    if (after.entry? place).isNone then
      match entry with
      | .directory => IO.FS.removeDir (pathOf place)
      | _ => IO.FS.removeFile (pathOf place)
  for (place, entry) in after.entries do
    if before.entry? place != some entry then
      match entry with
      | .directory => IO.FS.createDirAll (pathOf place)
      | .file contents _ _ => IO.FS.writeBinFile (pathOf place) ⟨contents.toArray⟩
      | .link _ => pure ()

/-- Reloads changed scripts until the program is stopped. Two changes between two pictures are seen
as one. -/
partial def watch (paths : List String) (realm : Realm Disk) : IO Unit := do
  IO.sleep 100
  let seen := realm.workspace.store
  let current := { ← picture paths with root := seen.root }
  let changed := current.entries.filter fun (place, entry) => seen.entry? place != some entry
  let told := changed.foldl (fun realm (place, _) => realm.fileModified (pathOf place))
    { realm with workspace := { realm.workspace with store := current } }
  let (reloaded, realm) := told.think (← IO.monoMsNow)
  for source in reloaded do
    IO.println ("Reloaded " ++ source)
  restore current realm.workspace.store
  let settled ← picture paths
  watch paths
    { realm with workspace := { realm.workspace with store := { settled with root := seen.root } } }

partial def readRest (stream : IO.FS.Stream) (found : ByteArray) : IO ByteArray := do
  let chunk ← stream.read 65536
  if chunk.isEmpty then return found else readRest stream (found ++ chunk)

/-- Whether a session reads its input. Only then is it waited for. -/
def readsInput (arguments : List String) : Bool :=
  match Request.parse arguments with
  | .perform wanted => wanted.remap
  | _ => false

end DialectLoader.CommandLine

open DialectLoader.CommandLine in
/-- Runs one session and, if it asked for that, goes on watching. -/
def main (arguments : List String) : IO UInt32 := do
  let paths := concerned arguments
  let before ← picture paths
  let input ← if readsInput arguments then readRest (← IO.getStdin) ByteArray.empty
      else pure ByteArray.empty
  let session := run DialectLoader.Shell.start before arguments input.toList
  restore before session.disk
  IO.print session.output
  IO.eprint session.errors
  match session.watching with
  | some realm => watch paths realm
  | none => pure ()
  return session.code.toUInt32
