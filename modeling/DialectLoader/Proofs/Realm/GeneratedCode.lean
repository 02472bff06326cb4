import DialectLoader.Proofs.Realm.Saved

/-!
# Generated code and its line map

An artifact tells where its generated code is and how the lines of that code belong to lines of its
source. The two were made together, and the code on disk is never that of another source: writing
code displaces the artifact that had its code at the same path, the manifest has a name of its own,
and after a restart the cache is as it was or empty.

Others may change files, but not below the cache root. Whether a line map is true of its code is up
to the backend that made both. The manifest is persisted in all runs here; without it a restart
starts with an empty cache.
-/

namespace DialectLoader

open DialectLoader.Path (Normal)

namespace Pipeline

variable {config : Config} {backends : Backends} {artifact : Artifact} {source code : String}

theorem normal_target (root : Normal config.outputRoot) {logical : String}
    (normal : Normal logical) : Normal ((ofBackends config backends).target logical) :=
  root.join normal.output

/-- An artifact that was made of a source and whose generated code is on disk, as the backend
returned it. -/
structure Generated (config : Config) (backends : Backends) (store : MemoryFiles)
    (artifact : Artifact) (source code : String) : Prop where
  normal : Normal artifact.sourcePath
  script : Dialect.ofPath? artifact.sourcePath = some artifact.dialect
  outputPath : artifact.outputPath = Path.output artifact.sourcePath
  fullOutputPath : artifact.fullOutputPath = (ofBackends config backends).target artifact.sourcePath
  success : backends.compile artifact.dialect source config.compileOptions =
    .success code artifact.lineMap
  onDisk : ∃ time, store.files[artifact.fullOutputPath]? = some ⟨Text.utf8 code, time⟩

/-- An artifact keeps its code as long as that file is left alone; nothing else in the store
matters. -/
theorem Generated.of_file {store changed : MemoryFiles}
    (generated : Generated config backends store artifact source code)
    (same : changed.files[artifact.fullOutputPath]? = store.files[artifact.fullOutputPath]?) :
    Generated config backends changed artifact source code :=
  { generated with onDisk := same ▸ generated.onDisk }

theorem Generated.read {store : MemoryFiles}
    (generated : Generated config backends store artifact source code) :
    FileStore.read store artifact.fullOutputPath = .ok (Text.utf8 code) := by
  obtain ⟨time, there⟩ := generated.onDisk
  change store.read artifact.fullOutputPath = _
  rw [MemoryFiles.read, there]

/-- An artifact that was made of what is behind its script now, with the time of that file. -/
def UpToDate (config : Config) (backends : Backends) (store : MemoryFiles) (artifact : Artifact) :
    Prop :=
  ∃ path file source code, behind? config store artifact.sourcePath = some (path, file) ∧
    artifact.fullSourcePath = path ∧ artifact.signal = file.modified ∧ file.source? = some source ∧
    Generated config backends store artifact source code

/-- A workspace in which the generated code of every artifact is on disk. The source may have
changed since. -/
structure Backed (config : Config) (backends : Backends) (workspace : Workspace MemoryFiles) :
    Prop where
  consistent : workspace.cache.Consistent
  generated : ∀ artifact ∈ workspace.cache.artifacts, ∃ source code,
    Generated config backends workspace.store artifact source code

/-- Generated code is not touched when the manifest is written, as the two have different names. -/
theorem Generated.file_persist {workspace : Workspace MemoryFiles}
    (generated : Generated config backends workspace.store artifact source code) :
    ((ofBackends config backends).persist workspace).store.files[artifact.fullOutputPath]? =
      workspace.store.files[artifact.fullOutputPath]? := by
  obtain ⟨changed, done, written | unwritten⟩ :=
    (ofBackends config backends).persist_cases workspace
  · rw [done]
    refine written.elsewhere ?_
    rw [generated.fullOutputPath]
    exact target_ne_manifest (ofBackends config backends) artifact.sourcePath
  · rw [done, unwritten.files]

theorem Backed.persist {workspace : Workspace MemoryFiles}
    (backed : Backed config backends workspace) :
    Backed config backends ((ofBackends config backends).persist workspace) := by
  refine ⟨by rw [persist_eq]; exact backed.consistent, fun artifact live => ?_⟩
  rw [persist_eq] at live
  obtain ⟨source, code, generated⟩ := backed.generated artifact live
  exact ⟨source, code, generated.of_file generated.file_persist⟩

section Directories

variable (root : Normal config.outputRoot) (directories : config.TidyDirectories)
  {logical path : String} {file : StoredFile} {store : MemoryFiles}

include directories

variable (backends) in
theorem artifact_fullSourcePath (normal : Normal logical)
    (behind : behind? config store logical = some (path, file)) (dialect : Dialect)
    (signal : Signal) (lineMap : LineMap) :
    ((ofBackends config backends).artifact store logical dialect signal lineMap).fullSourcePath =
      path := by
  obtain ⟨directory, member, rfl⟩ := (MemoryFiles.behind?_spec behind).2
  rw [artifact, ofBackends_config, resolve?_behind, behind, Option.map_some, Option.getD_some,
    MemoryFiles.rootRelative_of_normal store ((directories directory member).join normal)]

include root

variable (backends) in
/-- The fields of an artifact for a script and its code with normal paths, which are spelled from
the root as they are. -/
theorem artifact_eq (normal : Normal logical)
    (behind : behind? config store logical = some (path, file)) (dialect : Dialect)
    (signal : Signal) (lineMap : LineMap) :
    (ofBackends config backends).artifact store logical dialect signal lineMap =
      { sourcePath := logical, fullSourcePath := path, outputPath := Path.output logical
        fullOutputPath := (ofBackends config backends).target logical, signal, dialect,
        lineMap } := by
  have source := artifact_fullSourcePath backends directories normal behind dialect signal lineMap
  have code : rootRelative store ((ofBackends config backends).target logical) = _ :=
    MemoryFiles.rootRelative_of_normal store (normal_target root normal)
  rw [artifact] at source ⊢
  dsimp only at source
  rw [source, code]

/-- The artifact of code that has just been written is up to date, since writing code changes no
script. -/
theorem upToDate_artifact {changed : MemoryFiles} {dialect : Dialect} {lineMap : LineMap}
    (normal : Normal logical) (script : Dialect.ofPath? logical = some dialect)
    (readable : file.source? = some source)
    (success : backends.compile dialect source config.compileOptions = .success code lineMap)
    (written : MemoryFiles.Written store changed ((ofBackends config backends).target logical)
      (Text.utf8 code))
    (still : behind? config changed logical = some (path, file)) :
    UpToDate config backends changed
      ((ofBackends config backends).artifact changed logical dialect file.modified lineMap) := by
  rw [artifact_eq backends root directories normal still]
  refine ⟨path, file, source, code, still, rfl, rfl, readable,
    { normal, script, success, outputPath := rfl, fullOutputPath := by dsimp only, onDisk := ?_ }⟩
  dsimp only
  exact ⟨_, written.here⟩

/-- After a compilation an artifact was there before and its code is untouched, or it was just made.
An artifact whose code was overwritten is displaced. -/
theorem Effect.artifacts {workspace changed : Workspace MemoryFiles} {force : Bool}
    {result : Except CompileError (Artifact × Bool)}
    (effect : Effect config backends workspace logical force result changed)
    (normal : Normal logical) (consistent : workspace.cache.Consistent)
    (live : artifact ∈ changed.cache.artifacts) :
    (artifact ∈ workspace.cache.artifacts ∧
      changed.store.files[artifact.fullOutputPath]? =
        workspace.store.files[artifact.fullOutputPath]?) ∨
    UpToDate config backends changed.store artifact := by
  cases effect with
  | refused => exact .inl ⟨live, rfl⟩
  | reused => exact .inl ⟨live, rfl⟩
  | failed _ _ _ _ _ _ unwritten => exact .inl ⟨live, by rw [unwritten.files]⟩
  | compiled script behind due readable success written still =>
    obtain ⟨key, found⟩ := Cache.mem_artifacts.mp live
    rcases (Cache.bySource_insert_eq_some_iff consistent).mp found
      with ⟨_, rfl⟩ | ⟨_, kept, displaced⟩
    · exact .inr (upToDate_artifact root directories normal script readable success written still)
    -- An artifact with its code at the path that was written has been displaced.
    · refine .inl ⟨Cache.mem_artifacts.mpr ⟨key, kept⟩, written.elsewhere fun same => displaced ?_⟩
      rw [artifact_eq backends root directories normal still, Artifact.outputKey,
        Artifact.outputKey, same]

/-- Compiling keeps the generated code of every artifact on disk, also if it fails. -/
theorem Backed.effect {workspace changed : Workspace MemoryFiles} {force : Bool}
    {result : Except CompileError (Artifact × Bool)} (backed : Backed config backends workspace)
    (normal : Normal logical)
    (effect : Effect config backends workspace logical force result changed) :
    Backed config backends changed where
  consistent := effect.consistent backed.consistent
  generated := by
    intro artifact live
    rcases effect.artifacts root directories normal backed.consistent live
      with ⟨before, same⟩ | upToDate
    · obtain ⟨source, code, generated⟩ := backed.generated artifact before
      exact ⟨source, code, generated.of_file same⟩
    · obtain ⟨_, _, source, code, _, _, _, _, generated⟩ := upToDate
      exact ⟨source, code, generated⟩

/-- The operations of a pipeline keep the generated code of every artifact on disk. -/
theorem kept_backed :
    Kept config backends fun workspace => workspace.Tidy ∧ Backed config backends workspace :=
  (Stable.of_tidy (Q := Backed config backends)
    (fun backed normal effect => backed.effect root directories normal effect) Backed.persist).kept
    directories

end Directories

theorem ignoresEvents_backed :
    IgnoresEvents fun workspace => workspace.Tidy ∧ Backed config backends workspace :=
  IgnoresEvents.and_tidy fun backed _ => ⟨backed.consistent, backed.generated⟩

theorem Generated.isBelow {store : MemoryFiles}
    (generated : Generated config backends store artifact source code)
    (root : Normal config.outputRoot) :
    MemoryFiles.isBelow config.outputRoot artifact.fullOutputPath = true := by
  rw [generated.fullOutputPath]
  exact MemoryFiles.isBelow_join root generated.normal.output

theorem Backed.isFile {workspace : Workspace MemoryFiles}
    (backed : Backed config backends workspace) :
    ∀ artifact ∈ workspace.cache.artifacts,
      FileStore.isFile workspace.store artifact.fullOutputPath = true := by
  intro artifact live
  obtain ⟨_, _, generated⟩ := backed.generated artifact live
  obtain ⟨time, there⟩ := generated.onDisk
  change workspace.store.files.contains artifact.fullOutputPath = true
  rw [Std.ExtTreeMap.contains_eq_isSome_getElem?, there]
  rfl

theorem backed_empty {workspace : Workspace MemoryFiles} (empty : workspace.cache = .empty) :
    Backed config backends workspace := by
  refine ⟨empty ▸ Cache.consistent_empty, fun artifact live => ?_⟩
  simp [empty, Cache.artifacts_empty] at live

end Pipeline

namespace Realm

variable {config : Config} {backends : Backends}

/-- A change with normal paths outside the cache root, which may remove files as well. -/
def Change.IsForeign (config : Config) (change : Change) : Prop :=
  change.IsTidy ∧ change.Outside config.outputRoot

instance (config : Config) : DecidablePred (Change.IsForeign config) := fun _ =>
  inferInstanceAs (Decidable (_ ∧ _))

/-- A change outside the cache root does not touch generated code, whatever it does to scripts. -/
theorem Change.backed {change : Change} (outside : change.Outside config.outputRoot)
    (root : Normal config.outputRoot) {workspace : Workspace MemoryFiles}
    (backed : Pipeline.Backed config backends workspace) :
    Pipeline.Backed config backends { workspace with store := change.apply workspace.store } := by
  refine ⟨backed.consistent, fun artifact live => ?_⟩
  obtain ⟨source, code, generated⟩ := backed.generated artifact live
  exact ⟨source, code, generated.of_file (Change.files_below outside (generated.isBelow root) _)⟩

/-- After a restart the generated code of every artifact is on disk, for the cache is the one from
before or empty. -/
theorem Restarted.backed {workspace later : Workspace MemoryFiles}
    (restarted : Restarted config workspace later)
    (backed : Pipeline.Backed config backends workspace) :
    Pipeline.Backed config backends later := by
  rcases restarted with ⟨store, cache⟩ | ⟨_, cache⟩
  · refine ⟨cache ▸ backed.consistent, fun artifact live => ?_⟩
    rw [cache] at live
    rw [store]
    exact backed.generated artifact live
  · exact Pipeline.backed_empty cache

section Saved

variable (root : Normal config.outputRoot) (persists : config.persistManifest = true)
  {Q : Workspace MemoryFiles → Prop}
  (kept : Pipeline.Kept config backends fun workspace => workspace.Tidy ∧ Q workspace)
  (ignores : Pipeline.IgnoresEvents fun workspace => workspace.Tidy ∧ Q workspace)
  (backed : ∀ {workspace}, Q workspace → Pipeline.Backed config backends workspace)
  (restarts : ∀ {workspace later}, Q workspace → Restarted config workspace later → Q later)

include root backed restarts

/-- A restart keeps a property that says that generated code is on disk and that depends on files
and cache alone. It reads the manifest of the very cache that it follows. -/
theorem start_keeps {workspace : Workspace MemoryFiles} (host : Host)
    (holds : (workspace.Tidy ∧ Q workspace) ∧ Pipeline.Saved config workspace)
    (fits : workspace.cache.Fits) :
    ((start (Pipeline.ofBackends config backends) host workspace.store).workspace.Tidy ∧
      Q (start (Pipeline.ofBackends config backends) host workspace.store).workspace) ∧
    Pipeline.Saved config
      (start (Pipeline.ofBackends config backends) host workspace.store).workspace := by
  obtain ⟨⟨tidy, known⟩, saved⟩ := holds
  have restarted :=
    start_of_saved backends saved fits (backed known).consistent root (backed known).isFile host
  exact ⟨⟨start_tidy _ host tidy.scripts, restarts known restarted⟩, restarted.saved root saved⟩

include persists kept ignores

/-- From files without a cache on, every run with changes outside the cache root keeps such a
property and the cache saved. -/
theorem run_saved {admitted : Change → Prop}
    (foreign : ∀ change, admitted change → change.IsForeign config)
    (changes : ∀ {workspace : Workspace MemoryFiles} {change : Change}, Q workspace →
      admitted change → Q { workspace with store := change.apply workspace.store })
    (host : Host) {store : MemoryFiles} (scripts : store.TidyScripts)
    (clean : ∀ path, MemoryFiles.isBelow config.outputRoot path = true → store.files[path]? = none)
    (initial : Q { store, watch := { debounceMs := config.debounceMs } }) {events : List Event}
    (admits : ∀ event ∈ events, event.Admits admitted)
    (fits : (start (Pipeline.ofBackends config backends) host store).FitsAtRestarts events) :
    let reached := (start (Pipeline.ofBackends config backends) host store).run events
    reached.pipeline = Pipeline.ofBackends config backends ∧
      (reached.workspace.Tidy ∧ Q reached.workspace) ∧ Pipeline.Saved config reached.workspace := by
  have tidy := Workspace.tidy_of_scripts scripts config.debounceMs
  have saved : Pipeline.Saved config { store, watch := { debounceMs := config.debounceMs } } :=
    .inl ⟨clean _ (MemoryFiles.isBelow_join root Pipeline.normal_manifest), rfl⟩
  have started := start_keeps root backed restarts host ⟨⟨tidy, initial⟩, saved⟩ Cache.fits_empty
  exact holds_run (kept.and_saved persists root) ignores.and_saved
    (fun holds allowed => ⟨⟨Change.tidy (foreign _ allowed).1 holds.1.1, changes holds.1.2 allowed⟩,
      Change.saved (foreign _ allowed).2 root holds.2⟩)
    rfl started admits (start_keeps root backed restarts) fits

/-- From files without a cache on, every run with changes outside the cache root keeps a property
that each step keeps. Restarts may be among the events. -/
theorem saved_run {admitted : Change → Prop}
    (foreign : ∀ change, admitted change → change.IsForeign config)
    (changes : ∀ {workspace : Workspace MemoryFiles} {change : Change}, Q workspace →
      admitted change → Q { workspace with store := change.apply workspace.store })
    (host : Host) {store : MemoryFiles} (scripts : store.TidyScripts)
    (clean : ∀ path, MemoryFiles.isBelow config.outputRoot path = true → store.files[path]? = none)
    (initial : Q { store, watch := { debounceMs := config.debounceMs } }) {events : List Event}
    (admits : ∀ event ∈ events, event.Admits admitted)
    (fits : (start (Pipeline.ofBackends config backends) host store).FitsAtRestarts events) :
    let reached := (start (Pipeline.ofBackends config backends) host store).run events
    reached.pipeline = Pipeline.ofBackends config backends ∧ reached.workspace.Tidy ∧
      Q reached.workspace := by
  obtain ⟨same, holds, _⟩ :=
    run_saved root persists kept ignores backed restarts foreign changes host scripts clean
    initial admits fits
  exact ⟨same, holds⟩

end Saved

/-- A realm that has just taken over files and cache of another one with the same settings. -/
def resume (realm : Realm MemoryFiles) : Realm MemoryFiles where
  pipeline := realm.pipeline
  host := realm.host
  workspace :=
    { realm.workspace with watch := { debounceMs := realm.config.debounceMs }, calls := {} }

/-- In a run from files without a cache a restart does no more than to resume the realm, if the
configuration does not ask for an empty cache. So nothing has to be read to know how the run goes
on. -/
theorem run_append_restart (root : Normal config.outputRoot) (directories : config.TidyDirectories)
    (persists : config.persistManifest = true) (unpurged : config.purgeOnStart = false)
    (host : Host) {store : MemoryFiles} (scripts : store.TidyScripts)
    (clean : ∀ path, MemoryFiles.isBelow config.outputRoot path = true → store.files[path]? = none)
    (before rest : List Event) (admits : ∀ event ∈ before, event.Admits (Change.IsForeign config))
    (fits : (start (Pipeline.ofBackends config backends) host store).FitsAtRestarts
      (before ++ .restart :: rest)) :
    (start (Pipeline.ofBackends config backends) host store).run (before ++ .restart :: rest) =
      (resume ((start (Pipeline.ofBackends config backends) host store).run before)).run rest := by
  obtain ⟨same, ⟨_, backed⟩, saved⟩ :=
    run_saved root persists (Pipeline.kept_backed root directories)
      Pipeline.ignoresEvents_backed id (fun backed restarted => restarted.backed backed)
      (fun _ => id) (fun backed allowed => Change.backed allowed.2 root backed) host scripts clean
      (Pipeline.backed_empty rfl) admits fits.of_append
  rw [run, List.foldl_append, List.foldl_cons, ← run, ← run, Event.perform, resume, Realm.config,
    same, start_takes_over backends unpurged saved (fits.fits ⟨rest, by simp⟩) backed.consistent
      backed.isFile]
  rfl

/-- The sample realm has no files to begin with, so its restarts resume it. -/
theorem sample_append_restart (before rest : List Event)
    (admits : ∀ event ∈ before, event.Admits (Change.IsForeign sampleConfig))
    (fits : sample.FitsAtRestarts (before ++ .restart :: rest)) :
    sample.run (before ++ .restart :: rest) = (resume (sample.run before)).run rest :=
  run_append_restart (by decide +kernel) tidyDirectories_sampleConfig rfl rfl ⟨fun _ => true⟩
    MemoryFiles.tidyScripts_empty (fun _ _ => by simp) before rest admits fits

/-- The line map of every artifact belongs to the generated code on disk, after every run that
starts without a cache: the two are the outcome of compiling one source. -/
theorem lineMap_of_generated_code (root : Normal config.cacheRoot)
    (directories : config.TidyDirectories) (persists : config.persistManifest = true) (host : Host)
    {store : MemoryFiles} (scripts : store.TidyScripts)
    (clean : ∀ path, MemoryFiles.isBelow config.cacheRoot path = true → store.files[path]? = none)
    {events : List Event} (admits : ∀ event ∈ events, event.Admits (Change.IsForeign config))
    (fits : (start (Pipeline.ofBackends config backends) host store).FitsAtRestarts events) :
    let reached := ((start (Pipeline.ofBackends config backends) host store).run events).workspace
    ∀ artifact ∈ reached.cache.artifacts, ∃ source code,
      backends.compile artifact.dialect source config.compileOptions =
        .success code artifact.lineMap ∧
        FileStore.read reached.store artifact.fullOutputPath = .ok (Text.utf8 code) := by
  have trimmed : config.outputRoot = config.cacheRoot := root.trimEnd
  rw [← trimmed] at root clean
  obtain ⟨_, _, backed⟩ := saved_run root persists (Pipeline.kept_backed root directories)
    Pipeline.ignoresEvents_backed id (fun backed restarted => restarted.backed backed) (fun _ => id)
    (fun backed allowed => Change.backed allowed.2 root backed) host scripts clean
      (Pipeline.backed_empty rfl)
    admits fits
  intro reached artifact live
  obtain ⟨source, code, generated⟩ := backed.generated artifact live
  exact ⟨source, code, generated.success, generated.read⟩

/-- Two scripts with one output, compiled in turns around a restart. -/
def rivals : List Event :=
  [.change (.addFile "l/a.moon" (Text.utf8 "x")), .request (.prepare "a.moon" .inclusion),
    .change (.addFile "l/a.yue" (Text.utf8 "y")), .request (.compile "a.yue" false), .restart,
    .request (.compile "a.moon" true)]

/-- The scripts of `rivals` displace each other, and the line map belongs to the code of the last
one. -/
theorem lineMap_of_rivals :
    (sample.run (rivals.take 4)).workspace.cache.artifacts.map (·.sourcePath) = ["a.yue"] ∧
      ∀ artifact ∈ (sample.run rivals).workspace.cache.artifacts, ∃ source code,
        sampleBackends.compile artifact.dialect source sampleConfig.compileOptions =
            .success code artifact.lineMap ∧
          FileStore.read (sample.run rivals).workspace.store artifact.fullOutputPath =
            .ok (Text.utf8 code) := by
  have admits : ∀ event ∈ rivals, event.Admits (Change.IsForeign sampleConfig) := by decide +kernel
  have fits : sample.FitsAtRestarts rivals := by decide +kernel
  have root : Normal sampleConfig.cacheRoot := by decide +kernel
  have general :=
    lineMap_of_generated_code root tidyDirectories_sampleConfig rfl ⟨fun _ => true⟩
      MemoryFiles.tidyScripts_empty (fun _ _ => by simp) admits fits
  refine ⟨by decide +kernel, ?_⟩
  unfold sample
  exact general

end Realm

end DialectLoader
