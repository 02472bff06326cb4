import DialectLoader.Backend.Echo
import DialectLoader.Proofs.Files.Ancestors
import DialectLoader.Proofs.Pipeline.Effect

/-!
# What a failed compilation leaves behind

A compilation fails at one of its steps, and what was done before that step remains. Up to the
reading of the source nothing was done. The backend is asked after the source was watched, and code
is written after the directories for it were made. `Failure` lists the four kinds of error, each
with the workspace that it leaves; files, cache and clock are the same in all of them.

This is about errors that a compilation answers with. A backend that does not come back, or a
program that is stopped half way, is not among them.
-/

namespace DialectLoader

namespace MemoryFiles

variable {store changed : MemoryFiles}

theorem createDirectories_eq (store : MemoryFiles) (directory : String) :
    (store.createDirectories directory).2 =
      { store with directories := (store.createDirectories directory).2.directories } := by
  unfold createDirectories
  split <;> rfl

/-- A file that could not be put leaves what making its directory left, since a write that fails
changes nothing. -/
theorem put_eq_error {directory path : String} {contents : Bytes} {cause : FileError}
    (failed : store.put directory path contents = (.error cause, changed)) :
    changed = (store.createDirectories directory).2 := by
  unfold put at failed
  split at failed
  · rename_i made
    cases failed
    rw [made]
  · rename_i made
    rw [made]
    unfold write at failed
    split at failed
    · cases failed
      rfl
    · split at failed
      · cases failed
        rfl
      · cases failed

end MemoryFiles

namespace Pipeline

variable {config : Config} {backends : Backends}

/-- What a failed compilation leaves behind, by its error: the later the step that failed, the more
of it. -/
inductive Failure (config : Config) (backends : Backends) (workspace : Workspace MemoryFiles)
    (logical : String) : CompileError → Workspace MemoryFiles → Prop where
  | unsupported : Failure config backends workspace logical (.unsupportedDialect logical) workspace
  | unreadable (cause : Option FileError) :
      Failure config backends workspace logical (.sourceUnreadable logical cause) workspace
  | untranspiled {path : String} {file : StoredFile} {dialect : Dialect}
      (behind : behind? config workspace.store logical = some (path, file))
      (script : Dialect.ofPath? logical = some dialect) (message display : String)
        (position : Option Position) :
      Failure config backends workspace logical (.transpileFailed logical message display position)
        { workspace with
          watch := watching config workspace logical, calls := workspace.calls.bump dialect }
  | unwritten {path : String} {file : StoredFile} {dialect : Dialect}
    {directories : Std.ExtTreeSet String}
      (behind : behind? config workspace.store logical = some (path, file))
      (script : Dialect.ofPath? logical = some dialect) (cause : FileError)
      (kept : ∀ known ∈ workspace.store.directories, known ∈ directories)
      (made : ∀ known ∈ directories, known ∈ workspace.store.directories ∨
        Path.IsAncestor known ((ofBackends config backends).target logical)) :
      Failure config backends workspace logical
        (.writeFailed ((ofBackends config backends).target logical) cause)
        { workspace with
          store := { workspace.store with directories }
          watch := watching config workspace logical, calls := workspace.calls.bump dialect }

/-- A source that cannot be read is unreadable, whatever the reason: it is missing, empty or no
text. -/
theorem readSource_eq_error {σ : Type} [FileStore σ] {pipeline : Pipeline σ} {store : σ}
    {logical : String} {error : CompileError}
    (failed : pipeline.readSource store logical = .error error) :
    ∃ cause, error = .sourceUnreadable logical cause := by
  unfold readSource at failed
  split at failed
  · cases failed
    exact ⟨_, rfl⟩
  · cases failed
    exact ⟨_, rfl⟩
  · split at failed
    · cases failed
    · cases failed
      exact ⟨_, rfl⟩

/-- The directories that are made for the code of a script are on the way to it, also if the path of
the script is not normal. -/
theorem isAncestor_target {logical directory : String} (pipeline : Pipeline MemoryFiles)
    {store : MemoryFiles}
    (there : directory ∈ (store.createDirectories
      (Path.join pipeline.config.outputRoot (Path.parent (Path.output logical)))).2.directories) :
    directory ∈ store.directories ∨ Path.IsAncestor directory (pipeline.target logical) := by
  have closed : pipeline.config.outputRoot.toList.getLast? ≠ some '/' := Path.getLast?_trimEnd _
  cases writable : store.readOnly with
  | true =>
    rw [MemoryFiles.createDirectories, if_pos writable] at there
    exact .inl there
  | false =>
    rcases (MemoryFiles.mem_createDirectories_iff writable).mp there
      with old | above | ⟨rfl, visible⟩
    · exact .inl old
    · refine .inr (above.trans (Path.isAncestor_join_parent closed ?_))
      obtain ⟨_, separator, rest, _, spelled⟩ := above
      intro empty
      simp [empty] at spelled
    · exact .inr (Path.isAncestor_join_parent closed visible)

/-- Code that could not be written leaves at most directories on the way to it, and the error names
the code. -/
theorem writeCode_eq_error {pipeline : Pipeline MemoryFiles} {store changed : MemoryFiles}
    {logical code : String} {error : CompileError}
    (failed : pipeline.writeCode store logical code = (.error error, changed)) :
    ∃ cause directories, error = .writeFailed (pipeline.target logical) cause ∧
      changed = { store with directories } ∧ (∀ known ∈ store.directories, known ∈ directories) ∧
      ∀ known ∈ directories, known ∈ store.directories ∨
      Path.IsAncestor known (pipeline.target logical) := by
  rw [writeCode_eq] at failed
  split at failed
  · rename_i cause left put
    cases failed
    obtain rfl := MemoryFiles.put_eq_error put
    refine ⟨cause, _, rfl, store.createDirectories_eq _, ?_,
      fun known there => isAncestor_target pipeline there⟩
    exact (store.createDirectories_unwritten _).directories
  · cases failed

/-- Compiling a script that is due fails in one of the ways of `Failure`, at its source, at the
backend or at its code. -/
theorem recompile_failure {workspace changed : Workspace MemoryFiles} {logical path : String}
    {file : StoredFile} {dialect : Dialect} {signal : Signal} {error : CompileError}
    (behind : behind? config workspace.store logical = some (path, file))
    (script : Dialect.ofPath? logical = some dialect)
    (failed : (ofBackends config backends).recompile workspace logical dialect signal =
      (.error error, changed)) :
    Failure config backends workspace logical error changed := by
  unfold recompile at failed
  split at failed
  · rename_i read
    cases failed
    obtain ⟨cause, rfl⟩ := readSource_eq_error read
    exact .unreadable cause
  · rename_i source _
    have compiled : (ofBackends config backends).compiler.compile dialect source
        (ofBackends config backends).config.compileOptions workspace.store =
          (backends.compile dialect source config.compileOptions, workspace.store) := rfl
    cases outcome : backends.compile dialect source config.compileOptions with
    | failure message display position =>
      simp only [compiled, outcome] at failed
      cases failed
      exact .untranspiled behind script message display position
    | success code lineMap =>
      simp only [compiled, outcome] at failed
      split at failed
      · rename_i error left written
        cases failed
        obtain ⟨cause, directories, rfl, rfl, kept, made⟩ := writeCode_eq_error written
        exact .unwritten behind script cause kept made
      · cases failed

/-- Compiling a script fails in one of the ways of `Failure`, whether or not there was an artifact
to be reused. -/
theorem compileUnsaved_failure {workspace changed : Workspace MemoryFiles} {logical : String}
    {force : Bool} {error : CompileError}
    (failed : (ofBackends config backends).compileUnsaved workspace logical force =
      (.error error, changed)) :
    Failure config backends workspace logical error changed := by
  unfold compileUnsaved at failed
  cases script : Dialect.ofPath? logical with
  | none =>
    simp only [script] at failed
    cases failed
    exact .unsupported
  | some dialect =>
    have time : Logical.modified workspace.store config.searchPaths logical config.searchPath = _ :=
      modified_behind workspace.store logical
    cases behind : behind? config workspace.store logical with
    | none =>
      rw [behind] at time
      simp only [script, ofBackends_config, time] at failed
      cases failed
      exact .unreadable _
    | some entry =>
      obtain ⟨path, file⟩ := entry
      rw [behind] at time
      simp only [script, ofBackends_config, time] at failed
      split at failed
      · cases failed
      · split at failed
        · cases failed
        · rename_i again
          cases failed
          exact recompile_failure behind script again

/-- Watching the file behind a script adds that file to the watched ones, unless it is among them
already. -/
theorem watching_eq {workspace : Workspace MemoryFiles} {logical path : String} {file : StoredFile}
    (behind : behind? config workspace.store logical = some (path, file)) :
    watching config workspace logical = { workspace.watch with
      registered :=
      workspace.watch.registered.insertIfNew (MemoryFiles.fileKey path) logical } := by
  simp only [watching, Watch.register, resolve?_behind, behind, Option.map_some, MemoryFiles.key_eq]

/-- A compilation that failed, for whatever reason, has changed no file and nothing in the cache.
There are new directories only if the code could not be written, and they are on the way to it. At
most the file behind the script is newly watched, which it is if and only if the backend was
asked. -/
theorem compile_failed_unchanged {workspace changed : Workspace MemoryFiles} {logical : String}
    {force : Bool} {error : CompileError}
    (failed : (ofBackends config backends).compile workspace logical force =
      (.error error, changed)) :
    ∃ directories registered calls,
      changed = { workspace with
        store := { workspace.store with directories }
        watch := { workspace.watch with registered }
        calls } ∧
      (directories = workspace.store.directories ∨
        (∃ cause, error = .writeFailed ((ofBackends config backends).target logical) cause) ∧
        (∀ known ∈ workspace.store.directories, known ∈ directories) ∧
        ∀ known ∈ directories, known ∈ workspace.store.directories ∨
          Path.IsAncestor known ((ofBackends config backends).target logical)) ∧
      (registered = workspace.watch.registered ∧ calls = workspace.calls ∧
          (error = .unsupportedDialect logical ∨ ∃ cause, error = .sourceUnreadable logical cause) ∨
        ((∃ message display position, error = .transpileFailed logical message display position) ∨
          ∃ cause, error = .writeFailed ((ofBackends config backends).target logical) cause) ∧
        ∃ path file dialect, behind? config workspace.store logical = some (path, file) ∧
          Dialect.ofPath? logical = some dialect ∧
          registered = workspace.watch.registered.insertIfNew (MemoryFiles.fileKey path) logical ∧
          calls = workspace.calls.bump dialect) := by
  have failure : Failure config backends workspace logical error changed := by
    unfold Pipeline.compile at failed
    split at failed
    · cases failed
    · rename_i unsaved
      cases failed
      exact compileUnsaved_failure unsaved
  cases failure with
  | unsupported => exact ⟨_, _, _, rfl, .inl rfl, .inl ⟨rfl, rfl, .inl rfl⟩⟩
  | unreadable cause => exact ⟨_, _, _, rfl, .inl rfl, .inl ⟨rfl, rfl, .inr ⟨cause, rfl⟩⟩⟩
  | @untranspiled path file dialect behind script message display position =>
    refine ⟨_, _, _, by rw [watching_eq behind], .inl rfl,
      .inr ⟨.inl ⟨message, display, position, rfl⟩, ?_⟩⟩
    exact ⟨path, file, dialect, behind, script, rfl, rfl⟩
  | @unwritten path file dialect directories behind script cause kept made =>
    refine ⟨directories, _, _, by rw [watching_eq behind], .inr ⟨⟨cause, rfl⟩, kept, made⟩,
      .inr ⟨.inr ⟨cause, rfl⟩, ?_⟩⟩
    exact ⟨path, file, dialect, behind, script, rfl, rfl⟩

/-- Code is written below one directory, manifests too, and scripts are found in another. -/
def twoTrees : Config :=
  { cacheRoot := "c", searchPath := "p", searchPaths := .ofList [("p", ["l"])] }

/-- A workspace in which a script was compiled; another one has an empty name in its path. -/
def halfCompiled : Workspace MemoryFiles :=
  let files :=
    (({} : MemoryFiles).addFile "l/b.moon" (Text.utf8 "x")).addFile "l/a//b.moon" (Text.utf8 "y")
  ((ofBackends twoTrees ⟨Backend.moonEcho, Backend.yueEcho⟩).compile
    { store := files, watch := { debounceMs := 0 } } "b.moon" false).2

/-- Code cannot be written into a directory whose name is empty. The directory above it was made by
then and the file of the script is watched, but the other script with its code and the manifest are
as they were. -/
theorem compile_failed_unchanged_empty_name :
    let pipeline := ofBackends twoTrees ⟨Backend.moonEcho, Backend.yueEcho⟩
    let after := pipeline.compile halfCompiled "a//b.moon" false
    after.1 = .error (.writeFailed "c/a//b.lua" (.missing "c/a/")) ∧
      "c/a" ∉ halfCompiled.store.directories ∧ "c/a" ∈ after.2.store.directories ∧
      (halfCompiled.watch.size, after.2.watch.size) = (1, 2) ∧
      halfCompiled.store.files.keys = ["c/.manifest.bin", "c/b.lua", "l/a//b.moon", "l/b.moon"] ∧
      after.2.store.files = halfCompiled.store.files ∧
      (halfCompiled.cache.lookup "b.moon").isSome = true ∧
      after.2.cache.lookup "b.moon" = halfCompiled.cache.lookup "b.moon" := by
  intro pipeline after
  have failed : after.1 = .error (.writeFailed "c/a//b.lua" (.missing "c/a/")) := by decide +kernel
  obtain ⟨directories, registered, calls, changed, _, _⟩ :=
    compile_failed_unchanged
      (show pipeline.compile halfCompiled "a//b.moon" false = (_, after.2) by rw [← failed])
  refine ⟨failed, by decide +kernel, by decide +kernel, by decide +kernel, by decide +kernel,
    ?_, by decide +kernel, ?_⟩
  · rw [changed]
  · rw [changed]

end Pipeline

end DialectLoader
