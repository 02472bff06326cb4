import DialectLoader.Proofs.Realm.GeneratedCode

/-!
# Fresh artifacts

Whether an artifact is reused is decided by comparing two times. That is enough while no file is
removed: every change makes the file it concerns newer than all there was before, and so newer than
every artifact. An artifact that is not older than the file behind its script was therefore made of
that file, and compiling the script again gives the same artifact and the same code.

The clock of the files moves with every change. On a disk two changes may have one time, and a file
may be put back with its old time; then times tell less, and nothing here applies. The backends are
functions, so the same source gives the same code.
-/

namespace DialectLoader

open DialectLoader.Path (Normal)

namespace Pipeline

variable {config : Config} {backends : Backends} {workspace changed : Workspace MemoryFiles}
    {logical : String}

/-- An artifact keeps being up to date while the file behind its script and its code are left alone.
Other files may change. -/
theorem UpToDate.of_files {store later : MemoryFiles} {artifact : Artifact}
    (upToDate : UpToDate config backends store artifact)
    (behind : behind? config later artifact.sourcePath = behind? config store artifact.sourcePath)
    (code : later.files[artifact.fullOutputPath]? = store.files[artifact.fullOutputPath]?) :
    UpToDate config backends later artifact := by
  obtain ⟨path, file, source, code, there, full, time, readable, generated⟩ := upToDate
  exact ⟨path, file, source, code, behind.trans there, full, time, readable, generated.of_file ‹_›⟩

/-- Writing the manifest keeps an artifact up to date, since the manifest is neither its source nor
its code. -/
theorem UpToDate.persist {artifact : Artifact}
    (upToDate : UpToDate config backends workspace.store artifact) :
    UpToDate config backends ((ofBackends config backends).persist workspace).store artifact := by
  have known := upToDate
  obtain ⟨_, _, _, _, _, _, _, _, generated⟩ := known
  exact upToDate.of_files
    (behind?_of_spares config (sparesScripts_persist _ workspace) (by simp [generated.script]))
    generated.file_persist

/-- What the times tell of an artifact: it is not from the future, and it is up to date unless the
file behind its script is newer. -/
structure Timely (config : Config) (backends : Backends) (store : MemoryFiles)
    (artifact : Artifact) : Prop where
  past : artifact.signal.seconds ≤ store.clock
  current : UpToDate config backends store artifact ∨
    ∃ path file, behind? config store artifact.sourcePath = some (path, file) ∧
      file.modified.later artifact.signal = true

/-- What the times tell of an artifact stays true in every later state of the files in which its
code is left alone. -/
theorem Timely.of_forward {store later : MemoryFiles} {artifact : Artifact}
    (timely : Timely config backends store artifact) (forward : MemoryFiles.Forward store later)
    (code : later.files[artifact.fullOutputPath]? = store.files[artifact.fullOutputPath]?) :
    Timely config backends later artifact := by
  refine ⟨Nat.le_trans timely.past forward.clock, ?_⟩
  rcases forward.behind config.searchPaths artifact.sourcePath config.searchPath
    with same | ⟨path, file, now, time⟩
  · rcases timely.current with upToDate | ⟨path, file, behind, newer⟩
    · exact .inl (upToDate.of_files same code)
    · exact .inr ⟨path, file, same.trans behind, newer⟩
  -- A file that was put behind the script is newer than the clock was then, and so than the
  -- artifact.
  · exact .inr ⟨path, file, now, Signal.later_of_seconds (Nat.lt_of_le_of_lt timely.past time)⟩

/-- An artifact that is up to date is timely, if no file is from the future. -/
theorem UpToDate.timely {store : MemoryFiles} {artifact : Artifact}
    (upToDate : UpToDate config backends store artifact) (dated : store.Dated) :
    Timely config backends store artifact := by
  refine ⟨?_, .inl upToDate⟩
  obtain ⟨path, file, _, _, behind, _, time, _, _⟩ := upToDate
  rw [time]
  exact dated path file (MemoryFiles.behind?_spec behind).1

/-- A workspace in which times can be relied on: every artifact has its code on disk and is
timely. -/
structure Dependable (config : Config) (backends : Backends) (workspace : Workspace MemoryFiles) :
    Prop extends Backed config backends workspace where
  dated : workspace.store.Dated
  timely : ∀ artifact ∈ workspace.cache.artifacts, Timely config backends workspace.store artifact

theorem Dependable.persist (dependable : Dependable config backends workspace) :
    Dependable config backends ((ofBackends config backends).persist workspace) where
  toBacked := dependable.toBacked.persist
  dated := (sparesScripts_persist _ _).forward.dated dependable.dated
  timely := by
    intro artifact live
    rw [persist_eq] at live
    obtain ⟨source, code, generated⟩ := dependable.generated artifact live
    exact (dependable.timely artifact live).of_forward (sparesScripts_persist _ _).forward
      generated.file_persist

/-- Reports and ticks change the queue of the watch, and times can be relied on as before. -/
theorem ignoresEvents_dependable :
    IgnoresEvents fun workspace => workspace.Tidy ∧ Dependable config backends workspace :=
  IgnoresEvents.and_tidy fun dependable _ =>
    { consistent := dependable.consistent, generated := dependable.generated,
      dated := dependable.dated
      timely := dependable.timely }

theorem dependable_empty (empty : workspace.cache = .empty) (dated : workspace.store.Dated) :
    Dependable config backends workspace where
  toBacked := backed_empty empty
  dated := dated
  timely := by
    intro artifact live
    simp [empty, Cache.artifacts_empty] at live

/-- The artifact under a normal path is that of the script there, for artifacts of scripts have
normal paths too. -/
theorem Backed.sourcePath_of_lookup (backed : Backed config backends workspace)
    (normal : Normal logical) {artifact : Artifact}
    (found : workspace.cache.lookup logical = some artifact) :
    artifact ∈ workspace.cache.artifacts ∧ artifact.sourcePath = logical := by
  have live := Cache.mem_artifacts.mpr ⟨_, found⟩
  obtain ⟨_, _, generated⟩ := backed.generated artifact live
  exact ⟨live, backed.consistent.sourcePath_of_lookup normal.fixed generated.normal.fixed found⟩

section Directories

variable (root : Normal config.outputRoot) (directories : config.TidyDirectories)

include root directories

/-- Compiling keeps times reliable: a new artifact has the time of its source, and the code of the
others is left alone. -/
theorem Dependable.effect (dependable : Dependable config backends workspace)
    (normal : Normal logical) {force : Bool} {result : Except CompileError (Artifact × Bool)}
    (effect : Effect config backends workspace logical force result changed) :
    Dependable config backends changed where
  toBacked := dependable.toBacked.effect root directories normal effect
  dated := effect.sparesScripts.forward.dated dependable.dated
  timely := by
    intro artifact live
    rcases effect.artifacts root directories normal dependable.consistent live
      with ⟨before, same⟩ | upToDate
    · exact (dependable.timely artifact before).of_forward effect.sparesScripts.forward same
    · exact upToDate.timely (effect.sparesScripts.forward.dated dependable.dated)

/-- The operations of a pipeline keep times reliable, so a whole run does if the changes from
outside do. -/
theorem kept_dependable :
    Kept config backends fun workspace => workspace.Tidy ∧ Dependable config backends workspace :=
  (Stable.of_tidy (Q := Dependable config backends)
    (fun dependable normal effect => dependable.effect root directories normal effect)
    Dependable.persist).kept directories

/-- What compiling without force returns is up to date, whether it was made just now or reused. -/
theorem upToDate_of_compile (dependable : Dependable config backends workspace)
    (normal : Normal logical) {artifact : Artifact}
    (compiled : (ofBackends config backends).compile workspace logical false =
      (.ok artifact, changed)) :
    artifact.sourcePath = logical ∧ UpToDate config backends changed.store artifact := by
  rcases compile_cases workspace logical false with
    ⟨_, _, done, effect⟩ | ⟨_, _, done, effect⟩ | ⟨_, _, done, _⟩
  · cases done.symm.trans compiled
    cases effect with
    | compiled script behind due readable success written still =>
      have made := upToDate_artifact root directories normal script readable success written still
      exact ⟨rfl, made.persist⟩
  · cases done.symm.trans compiled
    cases effect with
    | reused script behind unforced found fresh =>
      -- The artifact was reused because the file is not newer, so it must be up to date.
      obtain ⟨live, named⟩ := dependable.sourcePath_of_lookup normal found
      refine ⟨named, ?_⟩
      rcases (dependable.timely artifact live).current with upToDate | ⟨_, _, there, newer⟩
      · exact upToDate
      · rw [named, behind] at there
        cases there
        rw [fresh] at newer
        cases newer
  · cases done.symm.trans compiled

section Again

variable (workspace) {artifact : Artifact} {path : String} {file : StoredFile}
    {source code : String}
  (behind : behind? config workspace.store artifact.sourcePath = some (path, file))
  (readable : file.source? = some source)
  (generated : Generated config backends workspace.store artifact source code)

include behind readable generated

omit root directories in
/-- Compiling a script by force cannot fail where files can be written, if an artifact was made of
what is behind it. -/
theorem Generated.no_error (writable : workspace.store.readOnly = false) {error : CompileError} :
    ¬ Effect config backends workspace artifact.sourcePath true (.error error) changed := by
  intro effect
  cases effect with
  | refused _ reason =>
    rcases reason with noScript | missing | ⟨_, _, there, _, unreadable⟩
    · rw [generated.script] at noScript
      cases noScript
    · rw [behind] at missing
      cases missing
    · cases there.symm.trans behind
      rw [readable] at unreadable
      cases unreadable
  | failed script there _ text reason =>
    cases script.symm.trans generated.script
    cases there.symm.trans behind
    cases text.symm.trans readable
    rcases reason with ⟨_, _, _, failure⟩ | ⟨other, _, _, unwritten⟩
    · rw [generated.success] at failure
      cases failure
    · obtain ⟨store, wrote⟩ := writeCode_of_writable (ofBackends config backends) writable
        generated.normal other
      rw [wrote] at unwritten
      cases unwritten

/-- Compiling a script by force gives the artifact that was made of what is behind it, and the same
code. -/
theorem Generated.compile_again (full : artifact.fullSourcePath = path)
    (time : artifact.signal = file.modified) (writable : workspace.store.readOnly = false) :
    ∃ later, (ofBackends config backends).compile workspace artifact.sourcePath true =
      (.ok artifact, later) ∧
      Generated config backends later.store artifact source code := by
  rcases compile_cases workspace artifact.sourcePath true with
    ⟨_, _, done, effect⟩ | ⟨_, _, _, effect⟩ | ⟨_, _, _, effect⟩
  · cases effect with
    | compiled script there due text success written still =>
      cases script.symm.trans generated.script
      cases there.symm.trans behind
      cases text.symm.trans readable
      cases success.symm.trans generated.success
      rw [artifact_eq backends root directories generated.normal still, ← full, ← time,
        ← generated.outputPath, ← generated.fullOutputPath] at done
      refine ⟨_, done, ?_⟩
      rw [← generated.fullOutputPath] at written
      have again : Generated config backends _ artifact source code :=
        { generated with onDisk := ⟨_, written.here⟩ }
      exact again.of_file again.file_persist
  · cases effect with
    | reused _ _ unforced => cases unforced
  · exact (generated.no_error workspace behind readable writable effect).elim

end Again

end Directories

end Pipeline

namespace Realm

variable {config : Config} {backends : Backends}

/-- A change with normal paths outside the cache root that removes nothing. Removing is what times
do not show. -/
def Change.IsGrowth (config : Config) (change : Change) : Prop :=
  change.IsForeign config ∧ change.Keeps

instance (config : Config) : DecidablePred (Change.IsGrowth config) := fun _ =>
  inferInstanceAs (Decidable (_ ∧ _))

/-- A change that removes nothing and leaves the cache root alone keeps times reliable, since the
changed file is newer than every artifact. -/
theorem Change.dependable {change : Change} (growth : change.IsGrowth config)
    (root : Normal config.outputRoot) {workspace : Workspace MemoryFiles}
    (dependable : Pipeline.Dependable config backends workspace) :
    Pipeline.Dependable config backends
      { workspace with store := change.apply workspace.store } where
  toBacked := Change.backed growth.1.2 root dependable.toBacked
  dated := Change.dated dependable.dated
  timely := by
    intro artifact live
    obtain ⟨_, _, generated⟩ := dependable.generated artifact live
    exact (dependable.timely artifact live).of_forward (Change.forward growth.2 _)
      (Change.files_below growth.1.2 (generated.isBelow root) _)

/-- A restart keeps times reliable: the cache is the one from before or empty. -/
theorem Restarted.dependable {workspace later : Workspace MemoryFiles}
    (restarted : Restarted config workspace later)
    (dependable : Pipeline.Dependable config backends workspace) :
    Pipeline.Dependable config backends later := by
  rcases restarted with ⟨store, cache⟩ | ⟨store, cache⟩
  · exact {
      toBacked := Restarted.backed (.inl ⟨store, cache⟩) dependable.toBacked
      dated := store ▸ dependable.dated
      timely := store ▸ cache ▸ dependable.timely }
  · exact Pipeline.dependable_empty cache
      (store ▸ (MemoryFiles.removeTree_aged _ _).dated dependable.dated)

/-- Compiling without force agrees with compiling by force, after every run that starts without a
cache and in which nothing is removed: if it returns an artifact, that is what compiling the present
source by force returns where files can be written, with the same code. -/
theorem compile_agrees_with_force (root : Normal config.cacheRoot)
    (directories : config.TidyDirectories) (persists : config.persistManifest = true) (host : Host)
    {store : MemoryFiles} (scripts : store.TidyScripts) (dated : store.Dated)
    (clean : ∀ path, MemoryFiles.isBelow config.cacheRoot path = true → store.files[path]? = none)
    {events : List Event} (admits : ∀ event ∈ events, event.Admits (Change.IsGrowth config))
    (fits : (start (Pipeline.ofBackends config backends) host store).FitsAtRestarts events)
    {logical : String} (normal : Normal logical) {artifact : Artifact}
    {changed : Workspace MemoryFiles}
    (compiled : (Pipeline.ofBackends config backends).compile
      ((start (Pipeline.ofBackends config backends) host store).run events).workspace logical
      false = (.ok artifact, changed)) :
    ∃ source code later,
      (Pipeline.ofBackends config backends).readSource changed.store logical = .ok source ∧
      backends.compile artifact.dialect source config.compileOptions =
        .success code artifact.lineMap ∧
      (Pipeline.ofBackends config backends).compile
        { changed with store := changed.store.setReadOnly false }
        logical true = (.ok artifact, later) ∧
      FileStore.read changed.store artifact.fullOutputPath = .ok (Text.utf8 code) ∧
      FileStore.read later.store artifact.fullOutputPath = .ok (Text.utf8 code) := by
  have trimmed : config.outputRoot = config.cacheRoot := root.trimEnd
  rw [← trimmed] at root clean
  obtain ⟨_, _, dependable⟩ := saved_run root persists (Pipeline.kept_dependable root directories)
    Pipeline.ignoresEvents_dependable Pipeline.Dependable.toBacked
    (fun dependable restarted => restarted.dependable dependable) (fun _ growth => growth.1)
    (fun dependable growth => Change.dependable growth root dependable) host scripts clean
    (Pipeline.dependable_empty rfl dated) admits fits
  obtain ⟨rfl, path, file, source, code, behind, full, time, readable, generated⟩ :=
    Pipeline.upToDate_of_compile root directories dependable normal compiled
  have unlocked : Pipeline.Generated config backends (changed.store.setReadOnly false) artifact
      source code :=
    generated.of_file rfl
  obtain ⟨later, again, present⟩ :=
    unlocked.compile_again { changed with store := changed.store.setReadOnly false }
    root directories behind readable full time rfl
  refine ⟨source, code, later, ?_, generated.success, again, generated.read, present.read⟩
  rcases Pipeline.readSource_cases backends changed behind with
    ⟨text, read, same⟩ | ⟨_, _, _, unreadable⟩
  · rw [read, Option.some.inj (same.symm.trans readable)]
  · rw [readable] at unreadable
    cases unreadable

/-- A script that is edited after a restart and compiled; then files cannot be written any more. -/
def edits : List Event :=
  [.change (.addFile "l/a.moon" (Text.utf8 "x")), .request (.compile "a.moon" false), .restart,
    .change (.addFile "l/a.moon" (Text.utf8 "y")), .request (.prepare "a.moon" .inclusion),
    .change (.setReadOnly true)]

/-- The configuration of the sample with a cache that is emptied at each start. -/
def purgingConfig : Config :=
  { sampleConfig with purgeOnStart := true }

/-- After `edits` the script is served from the cache, and compiling it by force gives the same. -/
theorem compile_agrees_after_edits :
    let pipeline := Pipeline.ofBackends purgingConfig sampleBackends
    ∃ artifact changed,
      pipeline.compile ((start pipeline ⟨fun _ => true⟩ {}).run edits).workspace "a.moon" false =
        (.ok artifact, changed) ∧
      ∃ source code later,
        pipeline.readSource changed.store "a.moon" = .ok source ∧
        sampleBackends.compile artifact.dialect source purgingConfig.compileOptions =
          .success code artifact.lineMap ∧
        pipeline.compile { changed with store := changed.store.setReadOnly false } "a.moon" true =
          (.ok artifact, later) ∧
        FileStore.read changed.store artifact.fullOutputPath = .ok (Text.utf8 code) ∧
        FileStore.read later.store artifact.fullOutputPath = .ok (Text.utf8 code) := by
  intro pipeline
  have served : (pipeline.compile ((start pipeline ⟨fun _ => true⟩ {}).run edits).workspace
      "a.moon" false).1.isOk = true := by
    decide +kernel
  have root : Normal purgingConfig.cacheRoot := by decide +kernel
  have directories : purgingConfig.TidyDirectories := by decide +kernel
  have admits : ∀ event ∈ edits, event.Admits (Change.IsGrowth purgingConfig) := by decide +kernel
  have fits : (start pipeline ⟨fun _ => true⟩ {}).FitsAtRestarts edits := by decide +kernel
  have normal : Normal "a.moon" := by decide +kernel
  rcases compiled : pipeline.compile ((start pipeline ⟨fun _ => true⟩ {}).run edits).workspace
    "a.moon" false with
    ⟨_ | artifact, changed⟩
  · rw [compiled] at served
    cases served
  · exact ⟨artifact, changed, rfl,
      compile_agrees_with_force root directories rfl ⟨fun _ => true⟩
        MemoryFiles.tidyScripts_empty MemoryFiles.dated_empty (fun _ _ => by simp) admits fits
        normal compiled⟩

end Realm

end DialectLoader
