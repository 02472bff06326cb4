import DialectLoader.Proofs.Cache.Index
import DialectLoader.Proofs.Files.Writing

/-!
# What compiling does

Compiling a script with backends on files in memory comes to one of four things. It is refused with
nothing changed; the artifact in the cache is reused with nothing changed; it fails after the source
was watched, with all files as they were; or code is written and an artifact recorded. `Effect` says
all that is known in each case, and everything proved about runs of a realm rests on it.

The backends are arbitrary functions of a source and the options. Nothing is assumed about what they
make of a source, and a backend that is a program of its own is not covered: it may leave files
behind. Reports to the log are left out throughout.
-/

namespace DialectLoader

/-- The text of a file that is neither empty nor of wrong bytes: what a backend can be given. -/
def StoredFile.source? (file : StoredFile) : Option String :=
  if file.contents = [] then none else Text.ofUtf8? file.contents

namespace Pipeline

@[simp]
theorem ofBackends_config (config : Config) (backends : Backends) :
    (ofBackends config backends).config = config :=
  rfl

variable {config : Config} {backends : Backends}

/-- The file behind a script under a configuration, on the search path that the configuration
names. -/
def behind? (config : Config) (store : MemoryFiles) (logical : String) :
    Option (String × StoredFile) :=
  store.behind? config.searchPaths logical config.searchPath

theorem resolve?_behind (store : MemoryFiles) (logical : String) :
    Logical.resolve? store config.searchPaths logical config.searchPath =
      (behind? config store logical).map (·.1) :=
  MemoryFiles.resolve?_eq

theorem modified_behind (store : MemoryFiles) (logical : String) :
    Logical.modified store config.searchPaths logical config.searchPath =
      match behind? config store logical with
      | some (_, file) => .ok file.modified
      | none => .error (Logical.unresolved logical config.searchPath) :=
  MemoryFiles.modified_eq

theorem read_behind (store : MemoryFiles) (logical : String) :
    Logical.read store config.searchPaths logical config.searchPath =
      match behind? config store logical with
      | some (_, file) => .ok file.contents
      | none => .error (Logical.unresolved logical config.searchPath) :=
  MemoryFiles.read_eq

/-- The watch after the source of a script was read: the file behind the script is in the
registry. -/
def watching (config : Config) (workspace : Workspace MemoryFiles) (logical : String) : Watch :=
  workspace.watch.register workspace.store config.searchPaths logical config.searchPath

/-- What compiling a script can come to: the result, and the workspace afterwards. One case for each
of the four, with all that is known in it. -/
inductive Effect (config : Config) (backends : Backends) (workspace : Workspace MemoryFiles)
    (logical : String)
    (force : Bool) : Except CompileError (Artifact × Bool) → Workspace MemoryFiles → Prop where
  | refused {error : CompileError} (about : error.path = logical)
      (reason : Dialect.ofPath? logical = none ∨ behind? config workspace.store logical = none ∨
        ∃ path file, behind? config workspace.store logical = some (path, file) ∧
          (force = true ∨ workspace.cache.isStale logical file.modified = true) ∧
          file.source? = none) :
      Effect config backends workspace logical force (.error error) workspace
  | reused {path : String} {file : StoredFile} {artifact : Artifact}
      (script : (Dialect.ofPath? logical).isSome = true)
      (behind : behind? config workspace.store logical = some (path, file))
      (unforced : force = false)
      (found : workspace.cache.lookup logical = some artifact)
      (fresh : file.modified.later artifact.signal = false) :
      Effect config backends workspace logical force (.ok (artifact, false)) workspace
  | failed {path : String} {file : StoredFile} {dialect : Dialect} {source : String}
      {error : CompileError} {changed : MemoryFiles} {calls : CallCounts}
      (script : Dialect.ofPath? logical = some dialect)
      (behind : behind? config workspace.store logical = some (path, file))
      (due : force = true ∨ workspace.cache.isStale logical file.modified = true)
      (readable : file.source? = some source)
      (reason : (∃ message display position,
          backends.compile dialect source config.compileOptions =
            .failure message display position) ∨
        ∃ code lineMap,
          backends.compile dialect source config.compileOptions = .success code lineMap ∧
          (ofBackends config backends).writeCode workspace.store logical code =
            (.error error, changed))
      (about : error.path = logical ∨ error.path = (ofBackends config backends).target logical)
      (unwritten : MemoryFiles.Unwritten workspace.store changed) :
      Effect config backends workspace logical force (.error error)
        { workspace with store := changed, watch := watching config workspace logical, calls }
  | compiled {path : String} {file : StoredFile} {dialect : Dialect} {source code : String}
      {lineMap : LineMap} {changed : MemoryFiles} {calls : CallCounts}
      (script : Dialect.ofPath? logical = some dialect)
      (behind : behind? config workspace.store logical = some (path, file))
      (due : force = true ∨ workspace.cache.isStale logical file.modified = true)
      (readable : file.source? = some source)
      (success : backends.compile dialect source config.compileOptions = .success code lineMap)
      (written : MemoryFiles.Written workspace.store changed
        ((ofBackends config backends).target logical) (Text.utf8 code))
      (still : behind? config changed logical = some (path, file)) :
      Effect config backends workspace logical force
        (.ok ((ofBackends config backends).artifact changed logical dialect file.modified lineMap,
          true))
        { workspace with
          store := changed, watch := watching config workspace logical, calls
          cache := workspace.cache.insert
            ((ofBackends config backends).artifact changed logical dialect file.modified lineMap) }

/-- Reading a script gives the text of the file behind it, or an error about the script if that is
empty or no text. -/
theorem readSource_cases (backends : Backends) (workspace : Workspace MemoryFiles)
    {logical path : String} {file : StoredFile}
    (behind : behind? config workspace.store logical = some (path, file)) :
    (∃ source, (ofBackends config backends).readSource workspace.store logical = .ok source ∧
      file.source? = some source) ∨
    ∃ error, (ofBackends config backends).readSource workspace.store logical = .error error ∧
      error.path = logical ∧ file.source? = none := by
  have read : Logical.read workspace.store config.searchPaths logical config.searchPath =
      .ok file.contents := by
    rw [read_behind, behind]
  simp only [readSource, ofBackends, read, StoredFile.source?]
  cases contents : file.contents with
  | nil => exact .inr ⟨_, rfl, rfl, rfl⟩
  | cons byte rest =>
    cases text : Text.ofUtf8? (byte :: rest) with
    | none =>
      exact .inr ⟨.sourceUnreadable logical (some .notText), by simp only [text], rfl, by simp⟩
    | some source => exact .inl ⟨source, by simp only [text], by simp⟩

theorem ofPath?_target (pipeline : Pipeline MemoryFiles) (logical : String) :
    Dialect.ofPath? (pipeline.target logical) = none := by
  rw [target, Path.ofPath?_join, Path.ofPath?_output]

/-- Writing code is putting a file into the directory of the code; an error is told with the path of
the code. -/
theorem writeCode_eq (pipeline : Pipeline MemoryFiles) (store : MemoryFiles)
    (logical code : String) :
    pipeline.writeCode store logical code =
      match store.put (Path.join pipeline.config.outputRoot (Path.parent (Path.output logical)))
        (pipeline.target logical) (Text.utf8 code) with
      | (.error cause, changed) => (.error (.writeFailed (pipeline.target logical) cause), changed)
      | (.ok (), changed) => (.ok (), changed) := by
  simp only [writeCode, MemoryFiles.put, FileStore.createDirectories, FileStore.write]
  split
  · rename_i made
    simp only [made]
  · rename_i changed made
    simp only [made]
    rcases changed.write (pipeline.target logical) (Text.utf8 code) with ⟨_ | _, _⟩ <;> rfl

/-- Writing code either does so or leaves all files as they were, and then the error names the
code. -/
theorem writeCode_cases (pipeline : Pipeline MemoryFiles) (store : MemoryFiles)
    (logical code : String) :
    (∃ changed, pipeline.writeCode store logical code = (.ok (), changed) ∧
      MemoryFiles.Written store changed (pipeline.target logical) (Text.utf8 code)) ∨
    ∃ error changed, pipeline.writeCode store logical code = (.error error, changed) ∧
      error.path = pipeline.target logical ∧ MemoryFiles.Unwritten store changed := by
  rw [writeCode_eq]
  rcases store.put_cases (Path.join pipeline.config.outputRoot (Path.parent (Path.output logical)))
      (pipeline.target logical) (Text.utf8 code) with
    ⟨changed, done, written, _⟩ | ⟨cause, changed, done, unwritten⟩
  · rw [done]
    exact .inl ⟨changed, rfl, written⟩
  · rw [done]
    exact .inr ⟨_, changed, rfl, by rw [CompileError.path], unwritten⟩

/-- Writing the code of a script with a normal path succeeds on a store that can be written to,
since its directory is the one that is made. -/
theorem writeCode_of_writable (pipeline : Pipeline MemoryFiles) {store : MemoryFiles}
    (writable : store.readOnly = false) {logical : String} (normal : Path.Normal logical)
    (code : String) : ∃ changed, pipeline.writeCode store logical code = (.ok (), changed) := by
  have closed : pipeline.config.outputRoot.toList.getLast? ≠ some '/' := Path.getLast?_trimEnd _
  obtain ⟨changed, done⟩ :=
    MemoryFiles.put_of_writable writable (Path.parent_join closed normal.output)
    (Text.utf8 code)
  refine ⟨changed, ?_⟩
  rw [writeCode_eq, target, done]

/-- Compiling a script that is due either fails without a file being written or records an artifact.
Being due is an assumption, as it decides whether this is done at all. -/
theorem recompile_effect (workspace : Workspace MemoryFiles) {logical path : String}
    {file : StoredFile} {dialect : Dialect} {force : Bool}
    (script : Dialect.ofPath? logical = some dialect)
    (behind : behind? config workspace.store logical = some (path, file))
    (due : force = true ∨ workspace.cache.isStale logical file.modified = true) :
    Effect config backends workspace logical force
      (((ofBackends config backends).recompile workspace logical dialect file.modified).1.map
        (·, true))
      ((ofBackends config backends).recompile workspace logical dialect file.modified).2 := by
  unfold recompile
  rcases readSource_cases backends workspace behind
    with ⟨source, read, readable⟩ | ⟨error, read, about, unreadable⟩
  · rw [read]
    have compiled : (ofBackends config backends).compiler.compile dialect source
        (ofBackends config backends).config.compileOptions workspace.store =
          (backends.compile dialect source config.compileOptions, workspace.store) := rfl
    cases outcome : backends.compile dialect source config.compileOptions with
    | failure message display position =>
      simp only [compiled, outcome]
      exact .failed script behind due readable (.inl ⟨message, display, position, outcome⟩)
        (.inl rfl)
        (.refl _)
    | success code lineMap =>
      simp only [compiled, outcome]
      rcases writeCode_cases (ofBackends config backends) workspace.store logical code with
        ⟨changed, done, written⟩ | ⟨error, changed, done, about, unwritten⟩
      · have still : behind? config changed logical = some (path, file) := by
          rw [← behind]
          exact written.ticked.behind?_script (ofPath?_target _ logical) _ (by simp [script]) _
        simp only [done]
        exact .compiled script behind due readable outcome written still
      · simp only [done]
        exact .failed script behind due readable (.inr ⟨code, lineMap, outcome, done⟩)
          (.inr about) unwritten
  · rw [read]
    exact .refused about (.inr (.inr ⟨path, file, behind, due, unreadable⟩))

/-- Whatever compiling a script comes to is one of its effects. Nothing is assumed of the workspace,
the path or the backends. -/
theorem compileUnsaved_effect (workspace : Workspace MemoryFiles) (logical : String)
    (force : Bool) :
    Effect config backends workspace logical force
      ((ofBackends config backends).compileUnsaved workspace logical force).1
      ((ofBackends config backends).compileUnsaved workspace logical force).2 := by
  unfold compileUnsaved
  cases script : Dialect.ofPath? logical with
  | none => exact .refused rfl (.inl script)
  | some dialect =>
    have time : Logical.modified workspace.store config.searchPaths logical config.searchPath = _ :=
      modified_behind workspace.store logical
    cases behind : behind? config workspace.store logical with
    | none =>
      rw [behind] at time
      simp only [ofBackends_config, time]
      exact .refused rfl (.inr (.inl behind))
    | some entry =>
      obtain ⟨path, file⟩ := entry
      rw [behind] at time
      simp only [ofBackends_config, time]
      by_cases due : force = true ∨ workspace.cache.isStale logical file.modified = true
      · have again : Effect config backends workspace logical force _ _ :=
          recompile_effect workspace script behind due
        rw [if_pos (by simpa using due)]
        rcases done : (ofBackends config backends).recompile workspace logical dialect
          file.modified with
          ⟨result, changed⟩
        rw [done] at again
        cases result with
        | ok artifact => exact again
        | error error => exact again
      · obtain ⟨unforced, known⟩ := not_or.mp due
        rw [if_neg (by simpa using due)]
        cases found : workspace.cache.lookup logical with
        | none => simp [Cache.isStale, found] at known
        | some artifact =>
          have fresh : file.modified.later artifact.signal = false := by
            simpa [Cache.isStale, found] using known
          exact .reused (by simp [script]) behind (by simpa using unforced) found fresh

theorem ofPath?_manifest (root : String) : Dialect.ofPath? (Manifest.path root) = none := by
  rw [Manifest.path, Path.ofPath?_join]
  decide

/-- The cache root has no slash at its end, however the settings spell it. -/
theorem trimEnd_outputRoot (config : Config) : Path.trimEnd config.outputRoot = config.outputRoot :=
  Path.trimEnd_of_getLast? (Path.getLast?_trimEnd config.cacheRoot)

/-- The manifest lies in the cache root itself, so it can be written once the root is made. -/
theorem parent_manifest (config : Config) :
    Path.parent (Manifest.path config.outputRoot) = Path.trimEnd config.outputRoot := by
  have closed : config.outputRoot.toList.getLast? ≠ some '/' :=
    Path.getLast?_trimEnd config.cacheRoot
  rw [Path.trimEnd_of_getLast? closed]
  exact Path.parent_join_name closed (show Path.IsName Manifest.fileName.toList by decide).clear

def manifestBytes (pipeline : Pipeline MemoryFiles) (workspace : Workspace MemoryFiles) : Bytes :=
  (Manifest.ofCache workspace.cache pipeline.config.compileOptions.fingerprint).encode

/-- Writing the manifest is putting a file into the cache root; whether it succeeds does not matter
to the workspace otherwise. -/
theorem saveManifest_eq (pipeline : Pipeline MemoryFiles) (workspace : Workspace MemoryFiles) :
    (pipeline.saveManifest workspace).2 = { workspace with
      store := (workspace.store.put pipeline.config.outputRoot
        (Manifest.path pipeline.config.outputRoot) (pipeline.manifestBytes workspace)).2 } := by
  simp only [saveManifest, MemoryFiles.put, FileStore.createDirectories, FileStore.write,
    manifestBytes]
  split
  · rename_i made
    simp only [made]
  · rename_i changed made
    simp only [made]
    rcases changed.write _ _ with ⟨_ | _, _⟩ <;> rfl

/-- Persisting changes the store alone, and of its files the manifest at most. If it cannot be
written no file changes. -/
theorem persist_cases (pipeline : Pipeline MemoryFiles) (workspace : Workspace MemoryFiles) :
    ∃ changed, pipeline.persist workspace = { workspace with store := changed } ∧
      (MemoryFiles.Written workspace.store changed (Manifest.path pipeline.config.outputRoot)
          (pipeline.manifestBytes workspace) ∨
        MemoryFiles.Unwritten workspace.store changed) := by
  unfold persist
  split
  · rw [saveManifest_eq]
    rcases workspace.store.put_cases pipeline.config.outputRoot
      (Manifest.path pipeline.config.outputRoot)
        (pipeline.manifestBytes workspace) with
      ⟨changed, done, written, _⟩ | ⟨_, changed, done, unwritten⟩
    · exact ⟨changed, by rw [done], .inl written⟩
    · exact ⟨changed, by rw [done], .inr unwritten⟩
  · exact ⟨workspace.store, rfl, .inr (.refl _)⟩

/-- Compiling with the manifest has one of the effects, and persists the workspace if code was
written. These three cases are what requests go by. -/
theorem compile_cases (workspace : Workspace MemoryFiles) (logical : String) (force : Bool) :
    (∃ artifact changed,
      (ofBackends config backends).compile workspace logical force =
        (.ok artifact, (ofBackends config backends).persist changed) ∧
      Effect config backends workspace logical force (.ok (artifact, true)) changed) ∨
    (∃ artifact changed, (ofBackends config backends).compile workspace logical force =
      (.ok artifact, changed) ∧
      Effect config backends workspace logical force (.ok (artifact, false)) changed) ∨
    ∃ error changed, (ofBackends config backends).compile workspace logical force =
      (.error error, changed) ∧
      Effect config backends workspace logical force (.error error) changed := by
  have effect : Effect config backends workspace logical force _ _ :=
    compileUnsaved_effect workspace logical force
  unfold Pipeline.compile
  generalize (ofBackends config backends).compileUnsaved workspace logical force = done at effect
  obtain ⟨_ | ⟨artifact, compiled⟩, changed⟩ := done
  · exact .inr (.inr ⟨_, changed, rfl, effect⟩)
  · cases compiled with
    | true => exact .inl ⟨artifact, changed, rfl, effect⟩
    | false => exact .inr (.inl ⟨artifact, changed, rfl, effect⟩)

/-- Whether a result says that code was written, which decides if the manifest is. -/
def wroteCode : Except CompileError (Artifact × Bool) → Bool
  | .ok (_, compiled) => compiled
  | .error _ => false

/-- Precaching a directory compiles its scripts one after another and persists the workspace at the
end if code was written. -/
theorem precacheDirectory_eq {σ : Type} [FileStore σ] (pipeline : Pipeline σ)
    (workspace : Workspace σ) (directory : String) :
    pipeline.precacheDirectory workspace directory =
      let done := pipeline.compileEach workspace (pipeline.scriptsBelow workspace.store directory)
      (.of done.1, if done.1.any wroteCode then pipeline.persist done.2 else done.2) := by
  simp only [precacheDirectory]
  refine congrArg _
    (if_congr (iff_of_eq (congrArg (· = true) (List.any_congr rfl fun result => ?_))) rfl rfl)
  rcases result with _ | ⟨_, _⟩ <;> rfl

section Induction

variable {σ : Type} [FileStore σ] {pipeline : Pipeline σ} {P : Workspace σ → Prop}

/-- Compiling scripts one after another keeps what compiling each of them keeps. This is the
induction over a pass, done once. -/
theorem holds_compileEach {scripts : List String}
    (each : ∀ {workspace}, P workspace → ∀ logical ∈ scripts,
      P (pipeline.compileUnsaved workspace logical false).2)
    {workspace : Workspace σ} (holds : P workspace) :
    P (pipeline.compileEach workspace scripts).2 := by
  induction scripts generalizing workspace with
  | nil => exact holds
  | cons logical rest ih =>
    have first := each holds logical List.mem_cons_self
    exact ih
      (fun holds other member => each holds other (List.mem_cons_of_mem _ member)) first

/-- Precaching a directory keeps what compiling each of its scripts keeps, and persisting as
well. -/
theorem holds_precacheDirectory {workspace : Workspace σ} {directory : String}
    (each : ∀ {reached}, P reached → ∀ logical ∈ pipeline.scriptsBelow workspace.store directory,
      P (pipeline.compileUnsaved reached logical false).2)
    (persist : ∀ {reached}, P reached → P (pipeline.persist reached)) (holds : P workspace) :
    P (pipeline.precacheDirectory workspace directory).2 := by
  have compiled := holds_compileEach each holds
  rw [precacheDirectory_eq]
  dsimp only
  split
  · exact persist compiled
  · exact compiled

end Induction

section Frame

variable {workspace changed : Workspace MemoryFiles} {logical : String} {force : Bool}
  {result : Except CompileError (Artifact × Bool)}

/-- A fresh artifact is reused and nothing is changed, unless the compilation was forced. -/
theorem Effect.of_fresh (effect : Effect config backends workspace logical false result changed)
    (script : (Dialect.ofPath? logical).isSome = true) {path : String} {file : StoredFile}
    (behind : behind? config workspace.store logical = some (path, file)) {artifact : Artifact}
    (found : workspace.cache.lookup logical = some artifact)
    (fresh : file.modified.later artifact.signal = false) :
    result = .ok (artifact, false) ∧ changed = workspace := by
  have undue {other : String × StoredFile}
      (there : behind? config workspace.store logical = some other)
      (due : false = true ∨ workspace.cache.isStale logical other.2.modified = true) : False := by
    rw [behind] at there
    cases there
    simp [Cache.isStale, found, fresh] at due
  cases effect with
  | refused about reason =>
    rcases reason with noScript | missing | ⟨_, _, there, due, _⟩
    · simp [noScript] at script
    · simp [behind] at missing
    · exact (undue there due).elim
  | reused _ _ _ there _ =>
    rw [found] at there
    cases there
    exact ⟨rfl, rfl⟩
  | failed _ there due => exact (undue there due).elim
  | compiled _ there due => exact (undue there due).elim

theorem Effect.readOnly (effect : Effect config backends workspace logical force result changed) :
    changed.store.readOnly = workspace.store.readOnly := by
  cases effect with
  | refused => rfl
  | reused => rfl
  | failed _ _ _ _ _ _ unwritten => exact unwritten.readOnly
  | compiled _ _ _ _ _ written _ => exact written.readOnly

/-- Compiling writes no script, so what is behind every script stays as it was. -/
theorem Effect.sparesScripts
    (effect : Effect config backends workspace logical force result changed) :
    MemoryFiles.SparesScripts workspace.store changed.store := by
  cases effect with
  | refused => exact .inl (.refl _)
  | reused => exact .inl (.refl _)
  | failed _ _ _ _ _ _ unwritten => exact .inl unwritten
  | compiled _ _ _ _ _ written _ => exact .inr ⟨_, _, written, ofPath?_target _ logical⟩

theorem sparesScripts_persist (pipeline : Pipeline MemoryFiles)
    (workspace : Workspace MemoryFiles) :
    MemoryFiles.SparesScripts workspace.store (pipeline.persist workspace).store := by
  obtain ⟨changed, done, written | unwritten⟩ := pipeline.persist_cases workspace
  · rw [done]
    exact .inr ⟨_, _, written, ofPath?_manifest _⟩
  · rw [done]
    exact .inl unwritten

theorem persist_eq (pipeline : Pipeline MemoryFiles) (workspace : Workspace MemoryFiles) :
    pipeline.persist workspace =
      { workspace with store := (pipeline.persist workspace).store } := by
  obtain ⟨changed, done, _⟩ := pipeline.persist_cases workspace
  rw [done]

theorem behind?_of_spares (config : Config) {store later : MemoryFiles}
    (spares : MemoryFiles.SparesScripts store later) {other : String}
    (script : (Dialect.ofPath? other).isSome = true) :
    behind? config later other = behind? config store other :=
  spares.behind? _ script _

/-- Compiling leaves the watch as it was, or watches the file behind the script. No file is ever
given up. -/
theorem Effect.watch_cases
    (effect : Effect config backends workspace logical force result changed) :
    changed.watch = workspace.watch ∨ changed.watch = watching config workspace logical := by
  cases effect with
  | refused => exact .inl rfl
  | reused => exact .inl rfl
  | failed => exact .inr rfl
  | compiled => exact .inr rfl

theorem Effect.consistent (effect : Effect config backends workspace logical force result changed)
    (known : workspace.cache.Consistent) : changed.cache.Consistent := by
  cases effect with
  | refused => exact known
  | reused => exact known
  | failed => exact known
  | compiled => exact known.insert _

/-- What is watched stays watched under its name, also if another script with the same file is
read. -/
theorem watching_of_known {key : List String} {name : String}
    (known : workspace.watch.registered[key]? = some name) :
    (watching config workspace logical).registered[key]? = some name := by
  simp only [watching, Watch.register]
  split
  · exact known
  · rw [Std.ExtTreeMap.getElem?_insertIfNew, known]
    split
    · rename_i fresh
      have same := Std.LawfulEqCmp.eq_of_compare fresh.1
      have absent : workspace.watch.registered[key]? = none := by simpa [← same] using fresh.2
      rw [absent] at known
      cases known
    · rfl

theorem mem_watching {key : List String} (known : key ∈ workspace.watch.registered) :
    key ∈ (watching config workspace logical).registered := by
  rw [Std.ExtTreeMap.mem_iff_isSome_getElem?] at known ⊢
  obtain ⟨name, there⟩ := Option.isSome_iff_exists.mp known
  rw [watching_of_known there]
  rfl

theorem watching_debounceMs :
    (watching config workspace logical).debounceMs = workspace.watch.debounceMs := by
  simp only [watching, Watch.register]
  split <;> rfl

theorem watching_queue : (watching config workspace logical).queue = workspace.watch.queue := by
  simp only [watching, Watch.register]
  split <;> rfl

theorem Effect.registered (effect : Effect config backends workspace logical force result changed)
    {key : List String} {name : String} (known : workspace.watch.registered[key]? = some name) :
    changed.watch.registered[key]? = some name := by
  rcases effect.watch_cases with same | watching
  · rw [same]
    exact known
  · rw [watching]
    exact watching_of_known known

/-- The file behind a script is watched once its source was read, perhaps for another script. -/
theorem watching_here {path : String} {file : StoredFile}
    (behind : behind? config workspace.store logical = some (path, file)) :
    MemoryFiles.fileKey path ∈ (watching config workspace logical).registered := by
  simp [watching, Watch.register, resolve?_behind, behind, MemoryFiles.key_eq]

/-- What is watched was watched before, or is the file behind the script that was read and has its
name. -/
theorem watching_cases {key : List String} {name : String}
    (known : (watching config workspace logical).registered[key]? = some name) :
    workspace.watch.registered[key]? = some name ∨
      (name = logical ∧ ∃ path file, behind? config workspace.store logical = some (path, file) ∧
        key = MemoryFiles.fileKey path) := by
  simp only [watching, Watch.register, resolve?_behind] at known
  cases behind : behind? config workspace.store logical with
  | none =>
    simp only [behind, Option.map_none] at known
    exact .inl known
  | some entry =>
    obtain ⟨path, file⟩ := entry
    simp only [behind, Option.map_some, MemoryFiles.key_eq, Std.ExtTreeMap.getElem?_insertIfNew]
      at known
    split at known
    · rename_i fresh
      exact .inr
        ⟨(Option.some.inj known).symm, path, file, rfl,
        (Std.LawfulEqCmp.eq_of_compare fresh.1).symm⟩
    · exact .inl known

end Frame

end Pipeline

end DialectLoader
