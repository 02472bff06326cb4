import DialectLoader.Backend.Interpreter
import DialectLoader.CommandLine.Help
import DialectLoader.Config.File
import DialectLoader.Realm

/-!
# Sessions at the command line

A session is one run of the program: it reads the command line and the input, works on a disk, and
leaves text on two channels and an exit code. Help, writing a configuration file, and printing the
code of one file come before all else and exclude it. Otherwise a realm starts, which may empty the
cache, and then either remaps its input line by line or compiles a directory and the given files.

The exit code is 2 when the arguments make no sense, and 1 when something failed.

What starting a program comes to is a parameter, and nothing is assumed about it: the interpreter
that compiles the scripts may do anything to the disk. Log messages, the causes that stand behind a
message on the second channel, and the progress of a session while it runs are left out. So is
watching, which a session only prepares.
-/

namespace DialectLoader.CommandLine

/-- What a session has left so far. Output and messages are kept apart, so how they would be mixed
on a terminal is not described. -/
structure Session where
  disk : Disk
  output : String := ""
  errors : String := ""
  code : Nat := 0
  /-- The realm that goes on watching its scripts, if the session asked for that. -/
  watching : Option (Realm Disk) := none

namespace Session

def print (session : Session) (text : String) : Session :=
  { session with output := session.output ++ text }

/-- Adds a line of messages. Nothing is said here about the exit code; the line map of printed code
is a message too. -/
def complain (session : Session) (text : String) : Session :=
  { session with errors := session.errors ++ text ++ "\n" }

/-- Marks the session as failed. There is one code for all failures. -/
def fail (session : Session) : Session :=
  { session with code := 1 }

/-- Ends the session with an error, in the form in which all errors outside a script are shown. -/
def abort (session : Session) (text : String) : Session :=
  (session.complain ("Error: " ++ text)).fail

end Session

/-- The directory to which the paths of the realm are relative; the working directory unless another
one is named. -/
def Arguments.rootDirectory (arguments : Arguments) : String :=
  arguments.root.getD "."

/-- Where a configuration file is expected: at the root of the realm. -/
def Arguments.defaultProject (arguments : Arguments) : String :=
  HostPath.append arguments.rootDirectory Config.fileName

/-- Whether something is at the end of a path, be it a file or a directory. A path that cannot be
followed counts as leading nowhere. -/
def isPresent (disk : Disk) (path : String) : Bool :=
  match disk.stat path with
  | .ok _ => true
  | .error _ => false

/-- The configuration in the named file, or in the one at the expected place if there is one, with
the settings of the command line. An error is its message. -/
def loadConfig (disk : Disk) (arguments : Arguments) : Except String Config :=
  let loaded := match arguments.project with
    | some path => (Config.load disk path).mapError fun _ => "Failed to load config file " ++ path
    | none =>
      if isPresent disk arguments.defaultProject then
        (Config.load disk arguments.defaultProject).mapError fun _ =>
          "Failed to load " ++ arguments.defaultProject
      else .ok {}
  loaded.map (·.override arguments.overrides)

/-- Starts the realm of a session. There is no host: the scripts run nowhere, which counts as
success. -/
def startRealm (start : Backend.Starter Disk) (disk : Disk) (arguments : Arguments)
    (config : Config) : Realm Disk :=
  Realm.start ⟨config, .ofInterpreter config.luaInterpreter start⟩ ⟨fun _ => true⟩
    { disk with root := arguments.rootDirectory }

/-- Writes a configuration file with the defaults. One that exists already is never overwritten. -/
def writeProject (arguments : Arguments) (session : Session) : Session :=
  let path := arguments.defaultProject
  if isPresent session.disk path then session.abort (path ++ " already exists")
  else
    match Config.writeInitial session.disk path with
    | (.ok (), disk) => { session with disk }.print ("Created " ++ path ++ "\n")
    | (.error _, disk) => { session with disk }.abort ("Failed to write " ++ path)

/-- The compact JSON form of a line map, in the order of the generated lines. -/
def lineMapText (map : LineMap) : String :=
  let number (value : Nat) : String := String.ofList (Text.decimal value)
  let members := map.toList.map fun (generated, line) =>
    "\"" ++ number generated ++ "\":" ++ number line
  "\x7b" ++ ",".intercalate members ++ "\x7d"

/-- Prints the code of a file, and its line map as a message. The cache is left alone by this, but
the realm starts as for any other session and may empty it. -/
def printCode (start : Backend.Starter Disk) (arguments : Arguments) (path : String)
    (session : Session) : Session :=
  match Dialect.ofPath? path with
  | none => session.abort (path ++ " is not a MoonScript or YueScript file")
  | some dialect =>
    match session.disk.textAt path with
    | .error _ => session.abort ("Failed to read " ++ path)
    | .ok source =>
      match loadConfig session.disk arguments with
      | .error message => session.abort message
      | .ok config =>
        let (outcome, realm) :=
          (startRealm start session.disk arguments config).compileText dialect source
        let compiled := { session with disk := realm.workspace.store }
        match outcome with
        | .success code lineMap => (compiled.print code).complain (lineMapText lineMap)
        | .failure _ display _ => (compiled.complain (path ++ ": " ++ display)).fail

/-- The lines of an input as bytes. The newline at the end of a line, with a carriage return before
it, does not belong to the line. -/
def inputLines (input : Bytes) : List Bytes :=
  let pieces := Text.pieces (· == 10) input
  let ended := pieces.dropLast.map fun line =>
    if line.getLast? = some 13 then line.dropLast else line
  match pieces.getLast? with
  | none | some [] => ended
  | some last => ended ++ [last]

/-- Remaps messages line by line, each followed by an excerpt if its source is known. A line that is
no text ends the session; what was printed before stays. -/
def remapLines (realm : Realm Disk) : List Bytes → Session → Session
  | [], session => session
  | line :: rest, session =>
    match Text.ofUtf8? line with
    | none => session.abort FileError.notText.message
    | some text =>
      let (remapped, location) := realm.view.message text
      let excerpt := ((realm.locationExcerpt? location).map (· ++ "\n")).getD ""
      remapLines realm rest (session.print (remapped ++ "\n" ++ excerpt))

/-- Compiles all scripts below a directory. Every error is shown in full, and one is enough to fail
the session. -/
def precache (directory : String) (state : Realm Disk × Session) : Realm Disk × Session :=
  let (realm, session) := state
  let (report, realm) := realm.precacheDirectory directory
  let told := realm.diagnostics.foldl
    (fun session diagnostic => session.complain (diagnostic.render true)) session
  (realm, if report.failed.isEmpty then told else told.fail)

/-- Compiles one script and tells where its code went. A failure does not keep the next file from
its turn. -/
def compileFile (force : Bool) (state : Realm Disk × Session) (file : String) :
    Realm Disk × Session :=
  let (realm, session) := state
  match realm.pipeline.compile realm.workspace file force with
  | (.ok artifact, workspace) =>
    ({ realm with workspace }, session.print (file ++ " -> " ++ artifact.fullOutputPath ++ "\n"))
  | (.error error, workspace) => ({ realm with workspace }, (session.complain error.message).fail)

/-- Prepares the realm to reload the given scripts when they change. Only included scripts are
reloaded, so each one is requested as an inclusion. -/
def watchFiles (files : List String) (realm : Realm Disk) : Realm Disk :=
  files.foldl (fun realm file => (realm.prepare file .inclusion).2) realm

/-- What the realm of a session does. Having nothing to do is an error unless scripts are watched,
and one that is found only after the realm has started. -/
def serve (arguments : Arguments) (input : Bytes) (realm : Realm Disk) (session : Session) :
    Session :=
  if arguments.remap then
    remapLines realm (inputLines input) { session with disk := realm.workspace.store }
  else
    let precached := (arguments.precache.map precache).getD id (realm, session)
    let (realm, compiled) := arguments.files.foldl (compileFile arguments.force) precached
    if arguments.watch then
      let realm := watchFiles arguments.files realm
      { compiled.print "Watching for changes... (Press Ctrl+C to stop)\n" with
        disk := realm.workspace.store
        watching := some realm }
    else
      let finished := { compiled with disk := realm.workspace.store }
      if arguments.files.isEmpty && arguments.precache.isNone then
        finished.abort "No input files specified. Use --help for usage information."
      else finished

/-- Does what the arguments ask for. The three kinds of work exclude each other, and the first in
this order is done. -/
def perform (start : Backend.Starter Disk) (arguments : Arguments) (input : Bytes)
    (session : Session) : Session :=
  if arguments.init then writeProject arguments session
  else
    match arguments.toLua with
    | some path => printCode start arguments path session
    | none =>
      match loadConfig session.disk arguments with
      | .error message => session.abort message
      | .ok config => serve arguments input (startRealm start session.disk arguments config) session

/-- Runs a session on a disk. A refused command line leaves the disk as it is and explains
nothing. -/
def run (start : Backend.Starter Disk) (disk : Disk) (arguments : List String) (input : Bytes) :
    Session :=
  let session : Session := { disk }
  match Request.parse arguments with
  | .refused => { session with code := 2 }
  | .showHelp => session.print helpText
  | .showVersion => session.print versionText
  | .perform wanted => perform start wanted input session

end DialectLoader.CommandLine
