import DialectLoader.Backend.Process
import DialectLoader.Machine.Shell.Run

/-!
# Programs on a disk

A program is started by its path or, if it is one of the system, by its name. The path of an
executable file on the disk starts the interpreter that the first line of the file names. A program
works on the disk, and what it writes is newer than what was there before.

This module is where the stand-ins under `Machine` meet the loader: `start` is one value of the
parameter that a session takes for starting programs. The shell, the usual tools, `awk` and a part
of Python are written out there, since the model cannot start the programs of a system. They are no
part of the loader, and no theorem is about them or assumes anything that they do.
-/

namespace DialectLoader.Shell

def badFormat : String := "Exec format error (os error 8)"

def badText : String := "nul byte found in provided data"

def nestingLimit : Nat := 200000

/-- Runs a tool of the system for an invocation. The working directory is that of the caller again
afterwards. -/
def serve (invocation : Backend.Invocation) (disk : Disk) (tool : String)
    (arguments : List (List Char)) : Backend.Run × Disk :=
  let final := runTool nestingLimit tool arguments {
    bindings := invocation.environment.map fun (name, value) => (name, Text.octetsOf value)
    exported := invocation.environment.map (·.1)
    parameters := [Text.octetsOf invocation.program]
    disk
    input := Text.octets invocation.input }
  let collected (index : Nat) : Bytes := Text.octetBytes (final.collected.getD index []).reverse
  (.ended (final.status == 0) (collected 0) (collected 1),
    { final.disk with workingDirectory := disk.workingDirectory })

/-- Starts a program on a disk. What cannot be started is told with the reason that a system gives,
and the disk stays as it was. -/
def start : Backend.Starter Disk := fun invocation disk =>
  let texts := invocation.program :: invocation.arguments ++ invocation.environment.map (·.2)
  let path := Text.octetsOf invocation.program
  let arguments := invocation.arguments.map Text.octetsOf
  if texts.any fun text => text.toList.contains '\x00' then (.notStarted badText, disk)
  else if !path.contains '/' then
    if isProgram invocation.program then serve invocation disk.tick invocation.program arguments
    else (.notStarted FileError.noEntry.message, disk)
  else
    match systemProgram? path, disk.stat invocation.program with
    | some tool, _ => serve invocation disk.tick tool arguments
    | none, .error cause => (.notStarted cause.message, disk)
    | none, .ok (_, .file contents _ true) =>
      match interpreter? (Text.octets contents) with
      | none | some ([], _) => (.notStarted badFormat, disk)
      | some (interpreter, option) =>
        match systemProgram? interpreter with
        | none => (.notStarted FileError.noEntry.message, disk)
        | some tool =>
          serve invocation disk.tick tool
            ((if option.isEmpty then [] else [option]) ++ path :: arguments)
    | none, .ok _ => (.notStarted FileError.denied.message, disk)

end DialectLoader.Shell
