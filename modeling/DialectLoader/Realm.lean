import Std.Data.ExtTreeSet
import DialectLoader.Diagnostic
import DialectLoader.Pipeline
import DialectLoader.Remap

/-!
# Realms

A realm serves the script requests of one host. A requested file is looked up as a script; a request
for a Lua file is redirected to a script beside it. The script is compiled and the host is told to
run the generated code instead. Reloads by the host itself are suppressed, since the realm reloads
scripts on its own when they change, and only those that were included before.

A new realm takes over the artifacts of an earlier one through the manifest. A manifest that cannot
be trusted means that the cache is removed, as does a configuration that asks for it.

The model stops at the host and at the operating system. What the host does with a response is one
answer, whether it managed to run the code. A watcher of the operating system is whoever calls
`fileModified`, so events that it loses or joins are outside, and so are log messages and requests
that arrive while another one is being served.
-/

namespace DialectLoader

/-- Why the host asks for a script. The same file is treated differently for different reasons,
since only the realm knows which reloads it has asked for itself. -/
inductive Reason where
  /-- Another script includes it. From then on the realm may reload it by itself. -/
  | inclusion
  /-- It runs when the host starts. The realm serves it but does not count it as included. -/
  | startup
  /-- The host noticed a change by itself. Answering this would run a script twice. -/
  | hostReload
  /-- The realm reloads it, which it does only for scripts that were included before. -/
  | ownReload
deriving DecidableEq, Repr

/-- What the host is to do with a request. A script that fails to compile is suppressed and never
passed through, as the host could make nothing of its text. -/
inductive Response where
  /-- Load the file as usual; the realm knows no script behind it. -/
  | passThrough
  /-- Run the generated code at this path, which is given from the cache root. -/
  | run (path : String)
  | suppress
deriving DecidableEq, Repr

/-- The host as far as a realm depends on it. What the code does once it runs is not described. -/
structure Host where
  /-- Whether the host manages to run the code at a path. The same path always gets the same
  answer. -/
  runs : String → Bool

/-- A realm: how it loads, and what it has come to know. The pipeline and the host never change; all
the rest grows with the requests it has served. -/
structure Realm (σ : Type) where
  pipeline : Pipeline σ
  host : Host
  workspace : Workspace σ
  /-- The scripts that were included, in normal spelling, whether or not they could be compiled. -/
  included : Std.ExtTreeSet String := ∅
  diagnostics : List Diagnostic := []
  /-- The paths that the host was asked to run on reloads, in order and whether or not it managed
  to. Paths handed out as responses are not among them. -/
  ran : List String := []

namespace Realm

variable {σ : Type} [FileStore σ]

def config (realm : Realm σ) : Config :=
  realm.pipeline.config

/-- Starts a realm on a file store. A missing manifest is the usual case and changes nothing; any
other trouble with it empties the cache, since artifacts that cannot be trusted are worse than
none. -/
def start (pipeline : Pipeline σ) (host : Host) (store : σ) : Realm σ :=
  let fresh : Workspace σ := { store, watch := { debounceMs := pipeline.config.debounceMs } }
  let workspace :=
    if pipeline.config.purgeOnStart then (pipeline.purge fresh).2
    else
      match pipeline.loadManifest fresh with
      | (.ok _, loaded) => loaded
      | (.error .absent, unchanged) => unchanged
      | (.error _, unchanged) => (pipeline.purge unchanged).2
  { pipeline, host, workspace }

/-- Whether a script can be found by its logical path. It is only looked for, not read: a file that
cannot be read counts as found, and fails when it is compiled. -/
def hasScript (realm : Realm σ) (logical : String) : Bool :=
  (Logical.resolve? realm.workspace.store realm.config.searchPaths logical
    realm.config.searchPath).isSome

/-- The script behind a requested file: the file itself, or the script beside a Lua file. Of two
scripts beside it the first dialect in the list of dialects wins. -/
def findSource (realm : Realm σ) (file : String) : Option String :=
  if (Dialect.ofPath? file).isSome then
    if realm.hasScript file then some file else none
  else if Path.endsWith file ("." ++ Path.luaExtension) then
    (Dialect.all.map fun dialect => Path.setExtension file dialect.extension).find? realm.hasScript
  else none

/-- Reports compile errors, in their order and behind the earlier ones. Nothing is ever taken off
the list again. -/
def report (realm : Realm σ) (errors : List CompileError) : Realm σ :=
  { realm with diagnostics := realm.diagnostics ++ errors.map .ofError }

/-- Compiles a script and reports an error. A fresh artifact is served as it is, so a script is
compiled again only after its source has changed. -/
def compile (realm : Realm σ) (logical : String) : Except CompileError Artifact × Realm σ :=
  match realm.pipeline.compile realm.workspace logical false with
  | (.ok artifact, workspace) => (.ok artifact, { realm with workspace })
  | (.error error, workspace) => (.error error, { realm with workspace }.report [error])

/-- Compiles a script for the host. If that fails, the host is told to run nothing and the error
stands among the diagnostics. -/
def serve (realm : Realm σ) (source : String) : Response × Realm σ :=
  match realm.compile source with
  | (.ok artifact, realm) => (.run artifact.outputPath, realm)
  | (.error _, realm) => (.suppress, realm)

/-- Decides what the host is to do with a request. An inclusion is remembered before the script is
compiled, so a script that fails can be reloaded once it is repaired. -/
def prepare (realm : Realm σ) (file : String) (reason : Reason) : Response × Realm σ :=
  match realm.findSource file with
  | none => (.passThrough, realm)
  | some source =>
    let key := Path.normalize source
    match reason with
    | .inclusion => { realm with included := realm.included.insert key }.serve source
    | .startup => realm.serve source
    | .hostReload => (.suppress, realm)
    | .ownReload => if realm.included.contains key then realm.serve source else (.suppress, realm)

/-- Queues a modification of the file at an absolute path. Nothing is compiled yet; the next tick
does that. -/
def fileModified (realm : Realm σ) (absolute : String) : Realm σ :=
  { realm with
    workspace := { realm.workspace with
      watch := realm.workspace.watch.modified realm.workspace.store absolute } }

/-- Reloads one changed script. The list of reloaded scripts grows only if the host manages to run
the code, but the path counts as run either way. -/
def reload (state : List String × Realm σ) (source : String) : List String × Realm σ :=
  let (reloaded, realm) := state
  if (Dialect.ofPath? source).isSome then
    match realm.prepare source .ownReload with
    | (.run path, realm) =>
      (if realm.host.runs path then reloaded ++ [source] else reloaded,
        { realm with ran := realm.ran ++ [path] })
    | (_, realm) => (reloaded, realm)
  else (reloaded, realm)

/-- Handles the modifications that were queued until now, and names the scripts that were reloaded.
Scripts never included are compiled on their next request and not here. -/
def think (realm : Realm σ) (now : Nat) : List String × Realm σ :=
  let (changed, watch) := realm.workspace.watch.think now
  changed.foldl reload ([], { realm with workspace := { realm.workspace with watch } })

/-- The path to send to a client that asks for a file: the generated code of a script, or the file
itself. It does not count as an inclusion. -/
def clientFile (realm : Realm σ) (file : String) : Except CompileError String × Realm σ :=
  match realm.findSource file with
  | none => (.ok file, realm)
  | some source =>
    match realm.compile source with
    | (.ok artifact, realm) => (.ok artifact.outputPath, realm)
    | (.error error, realm) => (.error error, realm)

/-- Compiles all scripts below a logical directory and reports the errors. The scripts do not count
as included by this. -/
def precacheDirectory (realm : Realm σ) (directory : String) : Pipeline.Report × Realm σ :=
  let (report, workspace) := realm.pipeline.precacheDirectory realm.workspace directory
  (report, { realm with workspace }.report report.failed)

/-- Compiles a text for which no artifact is kept. An error belongs to the outcome and is not
reported among the diagnostics. -/
def compileText (realm : Realm σ) (dialect : Dialect) (source : String) : Outcome × Realm σ :=
  let (outcome, workspace) := realm.pipeline.compileText realm.workspace dialect source
  (outcome, { realm with workspace })

/-- What remapping in this realm depends on: the configured cache root and the artifacts that the
cache knows now. -/
def view (realm : Realm σ) : Remap.View :=
  ⟨realm.config.cacheRoot, realm.workspace.cache⟩

/-- Remaps a debug record, unless the configuration forbids it. Error messages are remapped under
any configuration. -/
def debugInfo (realm : Realm σ) (info : Remap.DebugInfo) : Remap.DebugInfo :=
  if realm.config.remapDebugInfo then realm.view.debugInfo info else info

/-- The excerpt around a line of a script, from the text that the script has now and not from the
text that was compiled. -/
def excerpt? (realm : Realm σ) (sourcePath : String) (line : Nat) : Option String :=
  Remap.excerpt? realm.workspace.store realm.config sourcePath line

/-- The excerpt of a location. An error whose location is unknown has none. -/
def locationExcerpt? (realm : Realm σ) (location : Option Remap.Location) : Option String :=
  location.bind fun found => realm.excerpt? found.sourcePath found.line

/-- What the host is told about an error: the remapped error, and an excerpt of the source if the
leading location of the message is known. The realm itself does not change. -/
def reportError (realm : Realm σ) (error : Remap.ScriptError) : Remap.ScriptError × Option String :=
  let (remapped, location) := realm.view.error error
  (remapped, realm.locationExcerpt? location)

end Realm

end DialectLoader
