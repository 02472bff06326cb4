import DialectLoader.CompileError
import DialectLoader.Compiler
import DialectLoader.Config
import DialectLoader.Files.Memory
import DialectLoader.Manifest.Codec
import DialectLoader.Manifest.Error
import DialectLoader.Watch

/-!
# The compile pipeline

A script is compiled in steps: find out its dialect and its modification time, reuse a fresh
artifact, read the source, watch it, run the backend, write the generated code and record the
artifact. The first step that fails decides the error. The manifest is written after a compilation;
that it cannot be written is no error.

The modification time is taken before the source is read, so a change in between makes the artifact
stale and not wrong.

The model is sequential. A directory is compiled script by script in sorted order, so how workers of
one parallel pass could interleave is outside it, and so are the locks they share, a lock that a
failed worker has poisoned, and all logging.
-/

namespace DialectLoader

/-- How often each backend was asked, by scripts and by bare texts alike. A fresh artifact is served
without a call, so the counts show whether the cache did its work. -/
structure CallCounts where
  moonScript : Nat := 0
  yueScript : Nat := 0
deriving DecidableEq, Repr

/-- The counts after one more call. A call counts whether it succeeds or fails. -/
def CallCounts.bump (counts : CallCounts) : Dialect → CallCounts
  | .moonScript => { counts with moonScript := counts.moonScript + 1 }
  | .yueScript => { counts with yueScript := counts.yueScript + 1 }

/-- What compiling works on and changes: the files, the cache, the watched scripts and the counts.
Nothing else carries over from one compilation to the next. -/
structure Workspace (σ : Type) where
  store : σ
  cache : Cache := .empty
  watch : Watch
  calls : CallCounts := {}

/-- What compiling depends on and does not change. The compiler is a parameter, and nothing is
assumed about the code it returns or about the files it touches on the way. -/
structure Pipeline (σ : Type) where
  config : Config
  compiler : Compiler σ

namespace Pipeline

/-- The pipeline that compiles with backends on files in memory. No program is started and no disk
is involved, so a compilation changes no file but the generated code and the manifest. -/
def ofBackends (config : Config) (backends : Backends) : Pipeline MemoryFiles :=
  ⟨config, .ofBackends backends⟩

variable {σ : Type} [FileStore σ]

/-- The canonical spelling of a path from the root. A path that does not lead below the root has no
such spelling and keeps its own, with forward slashes. -/
def rootRelative (store : σ) (path : String) : String :=
  (FileStore.relative? store (FileStore.absolute store path)).getD (HostPath.forwardSlashes path)

/-- Where the generated code of a script is written: below the cache root, under the path of the
script with the extension of generated code. -/
def target (pipeline : Pipeline σ) (logical : String) : String :=
  Path.join pipeline.config.outputRoot (Path.output logical)

/-- The text of a script, read strictly: one wrong byte refuses the whole source. An empty script
counts as unreadable too, and then there is no cause to name. -/
def readSource (pipeline : Pipeline σ) (store : σ) (logical : String) :
    Except CompileError String :=
  match Logical.read store pipeline.config.searchPaths logical pipeline.config.searchPath with
  | .error cause => .error (.sourceUnreadable logical (some cause))
  | .ok [] => .error (.sourceUnreadable logical none)
  | .ok bytes =>
    match Text.ofUtf8? bytes with
    | some source => .ok source
    | none => .error (.sourceUnreadable logical (some .notText))

/-- Writes generated code below the cache root, making the directories on the way. A failure names
the file that was to be written, also when it was a directory that could not be made. -/
def writeCode (pipeline : Pipeline σ) (store : σ) (logical code : String) :
    Except CompileError Unit × σ :=
  let failed (cause : FileError) := CompileError.writeFailed (pipeline.target logical) cause
  let directory := Path.join pipeline.config.outputRoot (Path.parent (Path.output logical))
  match FileStore.createDirectories store directory with
  | (.error cause, store) => (.error (failed cause), store)
  | (.ok (), store) =>
    match FileStore.write store (pipeline.target logical) (Text.utf8 code) with
    | (.error cause, store) => (.error (failed cause), store)
    | (.ok (), store) => (.ok (), store)

/-- The artifact of a script whose code has just been written. It keeps the modification time from
before the source was read, not one taken now. -/
def artifact (pipeline : Pipeline σ) (store : σ) (logical : String) (dialect : Dialect)
    (signal : Signal) (lineMap : LineMap) : Artifact :=
  let resolved := (Logical.resolve? store pipeline.config.searchPaths logical
    pipeline.config.searchPath).getD logical
  { sourcePath := logical
    fullSourcePath := rootRelative store resolved
    outputPath := Path.output logical
    fullOutputPath := rootRelative store (pipeline.target logical)
    signal
    dialect
    lineMap }

/-- Compiles a script whose modification time is known, whether or not there is an artifact. The
script is watched before the backend runs, so one that fails to compile is watched all the same. -/
def recompile (pipeline : Pipeline σ) (workspace : Workspace σ) (logical : String)
    (dialect : Dialect) (signal : Signal) : Except CompileError Artifact × Workspace σ :=
  match pipeline.readSource workspace.store logical with
  | .error error => (.error error, workspace)
  | .ok source =>
    let watched := { workspace with
      watch := workspace.watch.register workspace.store pipeline.config.searchPaths logical
        pipeline.config.searchPath
      calls := workspace.calls.bump dialect }
    match pipeline.compiler.compile dialect source pipeline.config.compileOptions watched.store with
    | (.failure message display position, store) =>
      (.error (.transpileFailed logical message display position), { watched with store })
    | (.success code lineMap, store) =>
      match pipeline.writeCode store logical code with
      | (.error error, store) => (.error error, { watched with store })
      | (.ok (), store) =>
        let artifact := pipeline.artifact store logical dialect signal lineMap
        (.ok artifact, { watched with store, cache := watched.cache.insert artifact })

/-- Compiles a script unless its artifact is fresh, without writing the manifest. The flag tells
whether the backend ran, which is what the manifest is written for. -/
def compileUnsaved (pipeline : Pipeline σ) (workspace : Workspace σ) (logical : String)
    (force : Bool) : Except CompileError (Artifact × Bool) × Workspace σ :=
  match Dialect.ofPath? logical with
  | none => (.error (.unsupportedDialect logical), workspace)
  | some dialect =>
    match Logical.modified workspace.store pipeline.config.searchPaths logical
      pipeline.config.searchPath with
    | .error cause => (.error (.sourceUnreadable logical (some cause)), workspace)
    | .ok signal =>
      let fresh := if force || workspace.cache.isStale logical signal then none
        else workspace.cache.lookup logical
      match fresh with
      | some artifact => (.ok (artifact, false), workspace)
      | none =>
        match pipeline.recompile workspace logical dialect signal with
        | (.ok artifact, workspace) => (.ok (artifact, true), workspace)
        | (.error error, workspace) => (.error error, workspace)

/-- Writes the manifest of the cache, making the cache root first. The whole manifest is written
each time; there is no appending to an earlier one. -/
def saveManifest (pipeline : Pipeline σ) (workspace : Workspace σ) :
    Except ManifestError Unit × Workspace σ :=
  let root := pipeline.config.outputRoot
  let manifest := Manifest.ofCache workspace.cache pipeline.config.compileOptions.fingerprint
  match FileStore.createDirectories workspace.store root with
  | (.error cause, store) => (.error (.file cause), { workspace with store })
  | (.ok (), store) =>
    match FileStore.write store (Manifest.path root) manifest.encode with
    | (.error cause, store) => (.error (.file cause), { workspace with store })
    | (.ok (), store) => (.ok (), { workspace with store })

/-- Writes the manifest if the configuration asks for it. A failure is dropped: the code is already
in its place, and only a later start loses by it. -/
def persist (pipeline : Pipeline σ) (workspace : Workspace σ) : Workspace σ :=
  if pipeline.config.persistManifest then (pipeline.saveManifest workspace).2 else workspace

/-- Compiles a script unless its artifact is fresh; `force` compiles it in any case. The manifest is
written only when the backend ran and succeeded. -/
def compile (pipeline : Pipeline σ) (workspace : Workspace σ) (logical : String) (force : Bool) :
    Except CompileError Artifact × Workspace σ :=
  match pipeline.compileUnsaved workspace logical force with
  | (.ok (artifact, compiled), workspace) =>
    (.ok artifact, if compiled then pipeline.persist workspace else workspace)
  | (.error error, workspace) => (.error error, workspace)

/-- Compiles scripts one after another, without writing the manifest in between. A failure stays in
its place in the list and does not keep the later scripts from their turn. -/
def compileEach (pipeline : Pipeline σ) (workspace : Workspace σ) :
    List String → List (Except CompileError (Artifact × Bool)) × Workspace σ
  | [] => ([], workspace)
  | logical :: rest =>
    let (result, workspace) := pipeline.compileUnsaved workspace logical false
    let (results, workspace) := compileEach pipeline workspace rest
    (result :: results, workspace)

/-- What became of the scripts of a directory. An artifact that was fresh already counts as
compiled. -/
structure Report where
  compiled : List Artifact
  failed : List CompileError

/-- The report on some results. Artifacts and errors are told apart and both keep the order of the
scripts they belong to. -/
def Report.of (results : List (Except CompileError (Artifact × Bool))) : Report where
  compiled := results.filterMap fun
    | .ok (artifact, _) => some artifact
    | .error _ => none
  failed := results.filterMap fun
    | .ok _ => none
    | .error error => some error

/-- The scripts of both dialects below a logical directory, sorted. Files of other kinds are passed
over without an error. -/
def scriptsBelow (pipeline : Pipeline σ) (store : σ) (directory : String) : List String :=
  (Logical.walk store pipeline.config.searchPaths directory pipeline.config.searchPath).filter
    fun path => (Dialect.ofPath? path).isSome

/-- Compiles all scripts below a logical directory. Failures do not stop the others, and the
manifest is written once at the end if any backend ran and succeeded. -/
def precacheDirectory (pipeline : Pipeline σ) (workspace : Workspace σ) (directory : String) :
    Report × Workspace σ :=
  let (results, workspace) :=
    pipeline.compileEach workspace (pipeline.scriptsBelow workspace.store directory)
  let anyCompiled := results.any fun
    | .ok (_, compiled) => compiled
    | .error _ => false
  (.of results, if anyCompiled then pipeline.persist workspace else workspace)

/-- Compiles a text that belongs to no file. Neither the text nor the code is kept and nothing is
watched; only the compiler itself may change files. -/
def compileText (pipeline : Pipeline σ) (workspace : Workspace σ) (dialect : Dialect)
    (source : String) : Outcome × Workspace σ :=
  let (outcome, store) :=
    pipeline.compiler.compile dialect source pipeline.config.compileOptions workspace.store
  (outcome, { workspace with store, calls := workspace.calls.bump dialect })

/-- Reads the manifest and checks that it can be trusted: its bytes, then its version, then the
options it was made with. The first check that fails names the error. -/
def readManifest (pipeline : Pipeline σ) (store : σ) : Except ManifestError Manifest :=
  let path := Manifest.path pipeline.config.outputRoot
  if FileStore.isFile store path then
    match FileStore.read store path with
    | .error cause => .error (.file cause)
    | .ok bytes =>
      match Manifest.decode? bytes with
      | none => .error .malformed
      | some manifest =>
        if !manifest.isCompatible then .error (.otherVersion manifest.version)
        else if manifest.fingerprint != pipeline.config.compileOptions.fingerprint then
          .error .otherOptions
        else .ok manifest
  else .error .absent

/-- Adds the artifacts of the manifest whose generated code is still there, and counts them. Their
sources are not looked at; freshness is a matter for the next request. -/
def loadManifest (pipeline : Pipeline σ) (workspace : Workspace σ) :
    Except ManifestError Nat × Workspace σ :=
  match pipeline.readManifest workspace.store with
  | .error error => (.error error, workspace)
  | .ok manifest =>
    let (count, cache) := workspace.cache.restore manifest.artifacts
      fun artifact => FileStore.isFile workspace.store artifact.fullOutputPath
    (.ok count, { workspace with cache })

/-- Forgets all artifacts and removes the cache root; counts the removed files. The artifacts are
forgotten even when the files cannot be removed. -/
def purge (pipeline : Pipeline σ) (workspace : Workspace σ) : Except FileError Nat × Workspace σ :=
  let (result, store) := Logical.purge workspace.store pipeline.config.outputRoot
  (result, { workspace with store, cache := .empty })

end Pipeline

end DialectLoader
