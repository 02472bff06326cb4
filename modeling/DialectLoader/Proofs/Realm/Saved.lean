import DialectLoader.Proofs.Manifest.Stored
import DialectLoader.Proofs.Realm.Run

/-!
# The saved cache

Code is only written to a store that can be written to, and the manifest is written right after. So
the manifest on disk always is that of the cache, or there is none and the cache is empty. A realm
that starts on such files has the artifacts of the one before it, unless its configuration asks for
an empty cache.

Between the code and the manifest nothing comes in. A program that is stopped there, or two that
share a cache root, can leave a manifest that is not that of any cache.
-/

namespace DialectLoader

open DialectLoader.Path (Normal)

/-- A cache that the fields of a manifest can hold: its lines are 32-bit words, its lengths 64-bit
words, and its times are in range. Numbers as such have no bounds here. -/
structure Cache.Fits (cache : Cache) : Prop where
  count : cache.artifacts.length < Text.longWordBound
  artifacts : ∀ artifact ∈ cache.artifacts, Manifest.FitsArtifact artifact

/-- Whether a cache fits can be read off its index, where the artifacts are in another order. In
this form it can be evaluated. -/
theorem Cache.fits_iff {cache : Cache} :
    cache.Fits ↔ cache.bySource.toList.length < Text.longWordBound ∧
    ∀ entry ∈ cache.bySource.toList, Manifest.FitsArtifact entry.2 := by
  have count : cache.artifacts.length = cache.bySource.toList.length := by simp [Cache.artifacts]
  have members : (∀ artifact ∈ cache.artifacts, Manifest.FitsArtifact artifact) ↔
      ∀ entry ∈ cache.bySource.toList, Manifest.FitsArtifact entry.2 := by
    simp only [Cache.artifacts, List.mem_mergeSort, List.forall_mem_map]
  rw [← count, ← members]
  constructor
  · intro fits
    exact ⟨fits.count, fits.artifacts⟩
  · rintro ⟨bounded, each⟩
    exact ⟨bounded, each⟩

instance (cache : Cache) : Decidable cache.Fits :=
  decidable_of_iff _ Cache.fits_iff.symm

theorem Cache.artifacts_empty : Cache.empty.artifacts = [] := by
  refine List.eq_nil_iff_forall_not_mem.mpr fun artifact live => ?_
  obtain ⟨key, found⟩ := Cache.mem_artifacts.mp live
  simp [Cache.empty] at found

theorem Cache.fits_empty : Cache.Fits .empty := by
  constructor
  · rw [artifacts_empty]
    decide
  · simp [artifacts_empty]

/-- The manifest of a cache that fits is read as it was written. The fingerprint always fits. -/
theorem Manifest.fits_ofCache {cache : Cache} (fits : cache.Fits) (options : Options) :
    (Manifest.ofCache cache options.fingerprint).Fits where
  version := show Manifest.currentVersion < Text.wordBound by decide
  fingerprint := Manifest.fitsText_fingerprint options
  count := fits.count
  artifacts := fits.artifacts

namespace Pipeline

variable {config : Config} {backends : Backends}

theorem target_ne_manifest (pipeline : Pipeline MemoryFiles) (logical : String) :
    pipeline.target logical ≠ Manifest.path pipeline.config.outputRoot := by
  intro same
  have extensions := congrArg Path.extension? same
  rw [target, Manifest.path, Path.extension?_join, Path.extension?_join, Path.output,
    Path.extension?_setExtension _ Path.isExtension_lua] at extensions
  revert extensions
  decide

section Effects

variable {workspace changed : Workspace MemoryFiles} {logical : String} {force : Bool}
  {result : Except CompileError (Artifact × Bool)}

/-- Code is only written where files can be written, so the manifest can be written then too. -/
theorem Effect.writable (effect : Effect config backends workspace logical force result changed)
    (wrote : wroteCode result = true) : workspace.store.readOnly = false := by
  cases effect with
  | refused => cases wrote
  | reused => cases wrote
  | failed => cases wrote
  | compiled _ _ _ _ _ written _ => exact written.writable

/-- Without code being written files and cache stay as they are, so the manifest is still that of
the cache. -/
theorem Effect.unwritten (effect : Effect config backends workspace logical force result changed)
    (idle : wroteCode result = false) :
    MemoryFiles.Unwritten workspace.store changed.store ∧ changed.cache = workspace.cache := by
  cases effect with
  | refused => exact ⟨.refl _, rfl⟩
  | reused => exact ⟨.refl _, rfl⟩
  | failed _ _ _ _ _ _ unwritten => exact ⟨unwritten, rfl⟩
  | compiled => cases idle

theorem Effect.manifest (effect : Effect config backends workspace logical force result changed) :
    changed.store.files[Manifest.path config.outputRoot]? =
      workspace.store.files[Manifest.path config.outputRoot]? := by
  cases effect with
  | refused => rfl
  | reused => rfl
  | failed _ _ _ _ _ _ unwritten => rw [unwritten.files]
  | compiled _ _ _ _ _ written _ =>
    exact written.elsewhere (target_ne_manifest (ofBackends config backends) logical).symm

end Effects

/-- Scripts that are compiled one after another: either code was written, on a store that can be
written to, or files and cache stay as they are. The manifest is left alone in any case. -/
theorem compileEach_cases (config : Config) (backends : Backends)
    (workspace : Workspace MemoryFiles) (scripts : List String) :
    let done := (ofBackends config backends).compileEach workspace scripts
    done.2.store.readOnly = workspace.store.readOnly ∧
      done.2.store.files[Manifest.path config.outputRoot]? =
        workspace.store.files[Manifest.path config.outputRoot]? ∧
      (done.1.any wroteCode = true → workspace.store.readOnly = false) ∧
      (done.1.any wroteCode = false →
        MemoryFiles.Unwritten workspace.store done.2.store ∧ done.2.cache = workspace.cache) := by
  induction scripts generalizing workspace with
  | nil => exact ⟨rfl, rfl, by simp [compileEach], fun _ => ⟨.refl _, rfl⟩⟩
  | cons logical rest ih =>
    have effect : Effect config backends workspace logical false _ _ :=
      compileUnsaved_effect workspace logical false
    simp only [compileEach]
    generalize (ofBackends config backends).compileUnsaved workspace logical false = first at effect
    obtain ⟨result, changed⟩ := first
    obtain ⟨readOnly, manifest, writable, unwritten⟩ := ih changed
    refine ⟨readOnly.trans effect.readOnly, manifest.trans effect.manifest, ?_, ?_⟩
    · intro wrote
      rcases Bool.or_eq_true_iff.mp wrote with here | later
      · exact effect.writable here
      · exact effect.readOnly ▸ writable later
    · intro idle
      obtain ⟨here, later⟩ := Bool.or_eq_false_iff.mp idle
      obtain ⟨firstFiles, firstCache⟩ := effect.unwritten here
      obtain ⟨restFiles, restCache⟩ := unwritten later
      exact ⟨firstFiles.trans restFiles, restCache.trans firstCache⟩

/-- The operations of a pipeline keep a property of the cache and its manifest that holds whenever
code was written, on a store that can be written to, and the workspace was persisted. -/
theorem Kept.and_manifest {P S : Workspace MemoryFiles → Prop} (kept : Kept config backends P)
    (idle : ∀ {workspace changed}, S workspace →
      MemoryFiles.Unwritten workspace.store changed.store → changed.cache = workspace.cache →
      S changed)
    (saves : ∀ {workspace changed}, S workspace → changed.store.readOnly = false →
      changed.store.files[Manifest.path config.outputRoot]? =
        workspace.store.files[Manifest.path config.outputRoot]? →
      S ((ofBackends config backends).persist changed)) :
    Kept config backends fun workspace => P workspace ∧ S workspace where
  tidy holds := kept.tidy holds.1
  compile := by
    rintro workspace logical force ⟨holds, known⟩ normal
    refine ⟨kept.compile holds normal, ?_⟩
    rcases compile_cases workspace logical force with
      ⟨artifact, changed, done, effect⟩ | ⟨artifact, changed, done, effect⟩ | ⟨error, changed,
        done, effect⟩
    -- Code could be written, so the manifest can be as well.
    · rw [done]
      exact saves known (effect.readOnly.trans (effect.writable rfl)) effect.manifest
    · rw [done]
      obtain ⟨unwritten, cache⟩ := effect.unwritten rfl
      exact idle known unwritten cache
    · rw [done]
      obtain ⟨unwritten, cache⟩ := effect.unwritten rfl
      exact idle known unwritten cache
  precache := by
    rintro workspace directory ⟨holds, known⟩ inner
    refine ⟨kept.precache holds inner, ?_⟩
    rw [precacheDirectory_eq]
    obtain ⟨readOnly, manifest, writable, unwritten⟩ := compileEach_cases config backends workspace
      ((ofBackends config backends).scriptsBelow workspace.store directory)
    dsimp only
    split <;> rename_i wrote
    · exact saves known (readOnly.trans (writable wrote)) manifest
    · obtain ⟨files, cache⟩ := unwritten (by simpa using wrote)
      exact idle known files cache

/-- Persisting writes the manifest of the cache, if the configuration asks for it and the store can
be written to. -/
theorem manifest_persist (backends : Backends) (persists : config.persistManifest = true)
    {workspace : Workspace MemoryFiles} (writable : workspace.store.readOnly = false) :
    ((ofBackends config backends).persist workspace).store.files[Manifest.path config.outputRoot]? =
        some ⟨(Manifest.ofCache workspace.cache config.compileOptions.fingerprint).encode,
          workspace.store.nextTime⟩ ∧
      (config.outputRoot ≠ "" →
        config.outputRoot ∈
          ((ofBackends config backends).persist workspace).store.directories) := by
  have persisted : (ofBackends config backends).persist workspace =
      ((ofBackends config backends).saveManifest workspace).2 := if_pos persists
  obtain ⟨made, succeeded⟩ := MemoryFiles.put_of_writable writable (parent_manifest config)
    ((ofBackends config backends).manifestBytes workspace)
  rw [persisted, saveManifest_eq]
  rcases workspace.store.put_cases config.outputRoot (Manifest.path config.outputRoot)
      ((ofBackends config backends).manifestBytes workspace) with
    ⟨changed, done, written, known⟩ | ⟨cause, changed, done, _⟩
  · simp only [ofBackends_config, done]
    rw [trimEnd_outputRoot] at known
    exact ⟨written.here, known⟩
  · rw [succeeded] at done
    cases done

/-- The manifest on disk is that of the cache, or there is none and the cache is empty. -/
def Saved (config : Config) (workspace : Workspace MemoryFiles) : Prop :=
  (workspace.store.files[Manifest.path config.outputRoot]? = none ∧ workspace.cache = .empty) ∨
    ∃ time, workspace.store.files[Manifest.path config.outputRoot]? =
        some ⟨(Manifest.ofCache workspace.cache config.compileOptions.fingerprint).encode, time⟩ ∧
      config.outputRoot ∈ workspace.store.directories

/-- A store with the same manifest has the cache saved as well, whatever other files it has. -/
theorem Saved.of_store {workspace : Workspace MemoryFiles} (saved : Saved config workspace)
    {changed : Workspace MemoryFiles} (cache : changed.cache = workspace.cache)
    (manifest : changed.store.files[Manifest.path config.outputRoot]? =
      workspace.store.files[Manifest.path config.outputRoot]?)
    (root : config.outputRoot ∈ workspace.store.directories →
      config.outputRoot ∈ changed.store.directories) :
    Saved config changed := by
  rcases saved with ⟨absent, empty⟩ | ⟨time, present, known⟩
  · exact .inl ⟨manifest.trans absent, cache.trans empty⟩
  · exact .inr ⟨time, cache ▸ manifest.trans present, root known⟩

theorem normal_manifest : Normal Manifest.fileName :=
  ⟨by decide, by decide, by decide⟩

/-- Persisting saves the cache, on a store that can be written to, also if it was not saved
before. -/
theorem saved_persist (persists : config.persistManifest = true) (root : Normal config.outputRoot)
    {workspace : Workspace MemoryFiles} (writable : workspace.store.readOnly = false) :
    Saved config ((ofBackends config backends).persist workspace) := by
  obtain ⟨present, known⟩ := manifest_persist backends persists writable
  refine .inr ⟨workspace.store.nextTime, ?_, known root.ne_empty⟩
  rw [present, persist_eq]

theorem Saved.of_unwritten {workspace changed : Workspace MemoryFiles}
    (saved : Saved config workspace)
    (unwritten : MemoryFiles.Unwritten workspace.store changed.store)
    (cache : changed.cache = workspace.cache) :
    Saved config changed :=
  saved.of_store cache (by rw [unwritten.files]) (unwritten.directories _)

/-- The operations of a pipeline keep the cache saved, if the configuration asks for it. -/
theorem Kept.and_saved {P : Workspace MemoryFiles → Prop} (kept : Kept config backends P)
    (persists : config.persistManifest = true) (root : Normal config.outputRoot) :
    Kept config backends fun workspace => P workspace ∧ Saved config workspace :=
  kept.and_manifest (fun saved unwritten cache => saved.of_unwritten unwritten cache)
    fun _ writable _ => saved_persist persists root writable

/-- Whether a cache is saved depends on the store and the cache, which reports and ticks leave
alone. -/
theorem IgnoresEvents.and_saved {P : Workspace MemoryFiles → Prop} (ignores : IgnoresEvents P) :
    IgnoresEvents fun workspace => P workspace ∧ Saved config workspace :=
  fun holds same => ⟨ignores holds.1 same, holds.2.of_store rfl rfl id⟩

theorem readManifest_of_absent (backends : Backends) {store : MemoryFiles}
    (absent : store.files[Manifest.path config.outputRoot]? = none) :
    (ofBackends config backends).readManifest store = .error .absent := by
  have isFile : FileStore.isFile store (Manifest.path config.outputRoot) =
      store.files[Manifest.path config.outputRoot]?.isSome :=
    Std.ExtTreeMap.contains_eq_isSome_getElem?
  simp [readManifest, isFile, absent]

/-- A realm reads a manifest of the current version that was written with its own options, whoever
wrote it. -/
theorem readManifest_of_encoded (backends : Backends) {store : MemoryFiles} {manifest : Manifest}
    {time : Signal}
    (present : store.files[Manifest.path config.outputRoot]? = some ⟨manifest.encode, time⟩)
    (fits : manifest.Fits) (current : manifest.isCompatible = true)
    (own : manifest.fingerprint = config.compileOptions.fingerprint) :
    (ofBackends config backends).readManifest store = .ok manifest := by
  have holds : (ofBackends config backends).Holds store manifest := holds_of_present present
  rw [holds.readManifest_eq fits current, ofBackends_config, if_pos own]

/-- A realm reads the manifest that was written for a cache with the same options, if the cache
fits. -/
theorem readManifest_of_present (backends : Backends) {store : MemoryFiles} {cache : Cache}
    {time : Signal}
    (present : store.files[Manifest.path config.outputRoot]? =
      some ⟨(Manifest.ofCache cache config.compileOptions.fingerprint).encode, time⟩)
    (fits : cache.Fits) :
    (ofBackends config backends).readManifest store =
      .ok (Manifest.ofCache cache config.compileOptions.fingerprint) :=
  readManifest_of_encoded backends present
    (Manifest.fits_ofCache fits config.compileOptions) rfl rfl

theorem readManifest_of_saved (backends : Backends) {workspace : Workspace MemoryFiles}
    (saved : Saved config workspace) (fits : workspace.cache.Fits) :
    (workspace.cache = .empty ∧
      (ofBackends config backends).readManifest workspace.store = .error .absent) ∨
    (config.outputRoot ∈ workspace.store.directories ∧
      (ofBackends config backends).readManifest workspace.store =
        .ok (Manifest.ofCache workspace.cache config.compileOptions.fingerprint)) := by
  rcases saved with ⟨absent, empty⟩ | ⟨time, present, known⟩
  · exact .inl ⟨empty, readManifest_of_absent backends absent⟩
  · exact .inr ⟨known, readManifest_of_present backends present fits⟩

end Pipeline

namespace Realm

variable {config : Config} {backends : Backends}

/-- What a restart comes to: files and cache are as they were, or the cache root is removed and the
cache is empty. -/
def Restarted (config : Config) (workspace later : Workspace MemoryFiles) : Prop :=
  (later.store = workspace.store ∧ later.cache = workspace.cache) ∨
    (later.store = (workspace.store.removeTree config.outputRoot).2 ∧ later.cache = .empty)

/-- A realm starts with the artifacts of a manifest that it can read, less those whose code is not
there. -/
theorem start_of_read {pipeline : Pipeline MemoryFiles}
    (unpurged : pipeline.config.purgeOnStart = false) (host : Host) {store : MemoryFiles}
    {manifest : Manifest} (read : pipeline.readManifest store = .ok manifest) :
    start pipeline host store =
      { pipeline, host
        workspace :=
          { store
            cache := (Cache.empty.restore manifest.artifacts
              fun artifact => FileStore.isFile store artifact.fullOutputPath).2
            watch := { debounceMs := pipeline.config.debounceMs } } } := by
  simp [start, Pipeline.loadManifest, unpurged, read, Cache.empty]

/-- A realm that starts where a cache is saved takes it over, if its configuration does not ask for
an empty one. -/
theorem start_takes_over (backends : Backends) {workspace : Workspace MemoryFiles}
    (unpurged : config.purgeOnStart = false) (saved : Pipeline.Saved config workspace)
    (fits : workspace.cache.Fits) (consistent : workspace.cache.Consistent)
    (there : ∀ artifact ∈ workspace.cache.artifacts,
      FileStore.isFile workspace.store artifact.fullOutputPath = true)
    (host : Host) :
    start (Pipeline.ofBackends config backends) host workspace.store =
      { pipeline := Pipeline.ofBackends config backends, host
        workspace :=
        { workspace with watch := { debounceMs := config.debounceMs }, calls := {} } } := by
  rcases Pipeline.readManifest_of_saved backends saved fits with ⟨empty, absent⟩ | ⟨_, present⟩
  · rw [empty]
    simp [start, Pipeline.loadManifest, unpurged, absent]
  · rw [start_of_read unpurged host present]
    simp only [Manifest.ofCache, consistent.restore_artifacts there, Pipeline.ofBackends_config]

/-- A realm that takes over a saved cache has its files and its cache as they were. -/
theorem start_unpurged (backends : Backends) {workspace : Workspace MemoryFiles}
    (unpurged : config.purgeOnStart = false) (saved : Pipeline.Saved config workspace)
    (fits : workspace.cache.Fits) (consistent : workspace.cache.Consistent)
    (there : ∀ artifact ∈ workspace.cache.artifacts,
      FileStore.isFile workspace.store artifact.fullOutputPath = true)
    (host : Host) :
    (start (Pipeline.ofBackends config backends) host workspace.store).workspace.store =
      workspace.store ∧
      (start (Pipeline.ofBackends config backends) host workspace.store).workspace.cache =
        workspace.cache := by
  rw [start_takes_over backends unpurged saved fits consistent there host]
  exact ⟨rfl, rfl⟩

/-- A realm that starts where a cache is saved takes it over, or starts empty with the cache root
removed. All artifacts must have their code on disk. -/
theorem start_of_saved (backends : Backends) {workspace : Workspace MemoryFiles}
    (saved : Pipeline.Saved config workspace) (fits : workspace.cache.Fits)
    (consistent : workspace.cache.Consistent) (root : Normal config.outputRoot)
    (there : ∀ artifact ∈ workspace.cache.artifacts,
      FileStore.isFile workspace.store artifact.fullOutputPath = true) (host : Host) :
    Restarted config workspace
      (start (Pipeline.ofBackends config backends) host workspace.store).workspace := by
  cases purging : config.purgeOnStart with
  | false => exact .inl (start_unpurged backends purging saved fits consistent there host)
  | true =>
    have started : (start (Pipeline.ofBackends config backends) host workspace.store).workspace =
        { store := (Logical.purge workspace.store config.outputRoot).2
          watch := { debounceMs := config.debounceMs } } := by
      simp [start, Pipeline.purge, purging, Cache.empty]
    rw [started]
    rcases purge_cases workspace.store config.outputRoot with ⟨unknown, kept⟩ | removed
    -- The cache root is unknown, so nothing was ever saved there.
    · rcases saved with ⟨_, empty⟩ | ⟨_, _, known⟩
      · exact .inl ⟨kept, empty.symm⟩
      · rw [root.trimEnd] at unknown
        exact absurd known unknown
    · exact .inr ⟨removed, rfl⟩

/-- After a restart the cache is saved, also if the cache root was removed: then it is empty and has
no manifest. -/
theorem Restarted.saved {workspace later : Workspace MemoryFiles}
    (restarted : Restarted config workspace later) (root : Normal config.outputRoot)
    (saved : Pipeline.Saved config workspace) : Pipeline.Saved config later := by
  rcases restarted with ⟨store, cache⟩ | ⟨store, cache⟩
  · exact saved.of_store cache (by rw [store]) (by rw [store]; exact id)
  · refine .inl ⟨?_, cache⟩
    rw [store, MemoryFiles.removeTree_files, root.trimEnd]
    exact if_pos (MemoryFiles.isBelow_join root Pipeline.normal_manifest)

/-- A change that leaves alone what is below a directory. Removing a tree that the directory lies in
is not one. -/
def Change.Outside (root : String) : Change → Prop
  | addFile path _ => MemoryFiles.isBelow root path = false
  | touch path => MemoryFiles.isBelow root path = false
  | write path _ => MemoryFiles.isBelow root path = false
  | createDirectories _ => True
  | removeTree directory => MemoryFiles.Disjoint root (Path.trimEnd directory)
  | setReadOnly _ => True

instance (root : String) : (change : Change) → Decidable (change.Outside root)
  | .addFile _ _ | .touch _ | .write _ _ => inferInstanceAs (Decidable (_ = _))
  | .createDirectories _ | .setReadOnly _ => inferInstanceAs (Decidable True)
  | .removeTree _ => inferInstanceAs (Decidable (_ ∧ _))

theorem Change.files_below {change : Change} {root path : String} (outside : change.Outside root)
    (below : MemoryFiles.isBelow root path = true) (store : MemoryFiles) :
    (change.apply store).files[path]? = store.files[path]? := by
  have elsewhere {other : String} (away : MemoryFiles.isBelow root other = false) :
      path ≠ other := by
    rintro rfl
    rw [below] at away
    cases away
  cases change with
  | addFile added contents =>
    exact (MemoryFiles.ticked_addFile store added contents).elsewhere path (elsewhere outside)
  | touch touched =>
    exact (MemoryFiles.ticked_touch store touched).elsewhere path (elsewhere outside)
  | write written contents =>
    rcases store.write_cases written contents with done | unwritten
    · exact done.elsewhere (elsewhere outside)
    · rw [Change.apply, unwritten.files]
  | createDirectories directory =>
    rw [Change.apply, (store.createDirectories_unwritten directory).files]
  | removeTree directory =>
    rw [Change.apply, MemoryFiles.removeTree_files, if_neg]
    simpa using MemoryFiles.Disjoint.isBelow outside below
  | setReadOnly value => rfl

theorem Change.mem_directories {change : Change} {root : String} (outside : change.Outside root)
    {store : MemoryFiles} (known : root ∈ store.directories) :
    root ∈ (change.apply store).directories := by
  cases change with
  | addFile added contents =>
    simp [Change.apply, MemoryFiles.addFile, MemoryFiles.withAncestors,
      Std.ExtTreeSet.mem_insertMany_list, known]
  | touch touched => exact known
  | write written contents =>
    rcases store.write_cases written contents with done | unwritten
    · exact done.directories root known
    · exact unwritten.directories root known
  | createDirectories directory =>
    exact (store.createDirectories_unwritten directory).directories root known
  | removeTree directory =>
    obtain ⟨other, _, apart⟩ := outside
    exact (MemoryFiles.mem_removeTree_directories store directory root).mpr
      ⟨known, apart, other.symm⟩
  | setReadOnly value => exact known

/-- A change outside the cache root keeps a cache saved, since the manifest is below the root. -/
theorem Change.saved {change : Change} (outside : change.Outside config.outputRoot)
    (root : Normal config.outputRoot) {workspace : Workspace MemoryFiles}
    (saved : Pipeline.Saved config workspace) :
    Pipeline.Saved config { workspace with store := change.apply workspace.store } :=
  saved.of_store rfl
    (Change.files_below outside (MemoryFiles.isBelow_join root Pipeline.normal_manifest) _)
    (Change.mem_directories outside)

/-- An event with normal paths and an admitted change. Restarts are always admitted. -/
def Event.Admits (admitted : Change → Prop) : Event → Prop
  | change made => admitted made
  | request made => made.IsNormal
  | restart => True

instance (admitted : Change → Prop) [DecidablePred admitted] : DecidablePred (Event.Admits admitted)
  | .change made => inferInstanceAs (Decidable (admitted made))
  | .request made => inferInstanceAs (Decidable made.IsNormal)
  | .restart => inferInstanceAs (Decidable True)

/-- Whenever a realm is given up in a run, its cache fits a manifest. This is asked at restarts
only. -/
def FitsAtRestarts : Realm MemoryFiles → List Event → Prop
  | _, [] => True
  | realm, .restart :: rest => realm.workspace.cache.Fits ∧
    FitsAtRestarts (Event.restart.perform realm) rest
  | realm, event :: rest => FitsAtRestarts (event.perform realm) rest

/-- Whether a cache fits whenever a realm is given up can be found out by going through the run. -/
instance decidableFitsAtRestarts : (realm : Realm MemoryFiles) → (events : List Event) →
    Decidable (realm.FitsAtRestarts events)
  | _, [] => .isTrue trivial
  | realm, .restart :: rest =>
    have := decidableFitsAtRestarts (Event.restart.perform realm) rest
    inferInstanceAs (Decidable (_ ∧ _))
  | realm, .change made :: rest => decidableFitsAtRestarts ((Event.change made).perform realm) rest
  | realm, .request made :: rest =>
    decidableFitsAtRestarts ((Event.request made).perform realm) rest

theorem FitsAtRestarts.tail {realm : Realm MemoryFiles} {event : Event} {rest : List Event}
    (fits : realm.FitsAtRestarts (event :: rest)) : (event.perform realm).FitsAtRestarts rest := by
  cases event with
  | restart => exact fits.2
  | change made => exact fits
  | request made => exact fits

/-- A cache fits a manifest before each restart of a run in which all do. -/
theorem FitsAtRestarts.fits {realm : Realm MemoryFiles} {events before : List Event}
    (fits : realm.FitsAtRestarts events) (start : before ++ [.restart] <+: events) :
    (realm.run before).workspace.cache.Fits := by
  induction before generalizing realm events with
  | nil =>
    obtain ⟨rest, rfl⟩ := start
    exact fits.1
  | cons event before ih =>
    obtain ⟨rest, rfl⟩ := start
    exact ih fits.tail (List.prefix_append _ _)

theorem FitsAtRestarts.of_append {realm : Realm MemoryFiles} {events rest : List Event}
    (fits : realm.FitsAtRestarts (events ++ rest)) : realm.FitsAtRestarts events := by
  induction events generalizing realm with
  | nil => trivial
  | cons event events ih =>
    have later : (event.perform realm).FitsAtRestarts events := ih fits.tail
    cases event with
    | restart => exact ⟨fits.1, later⟩
    | change made => exact later
    | request made => exact later

section Runs

variable {P : Workspace MemoryFiles → Prop} (kept : Pipeline.Kept config backends P)
    (ignores : Pipeline.IgnoresEvents P)
  {admitted : Change → Prop}
  (changes : ∀ {workspace : Workspace MemoryFiles} {change : Change}, P workspace →
    admitted change → P { workspace with store := change.apply workspace.store })
  {realm : Realm MemoryFiles} (same : realm.pipeline = Pipeline.ofBackends config backends)
  (holds : P realm.workspace) {events : List Event}
  (admits : ∀ event ∈ events, event.Admits admitted)

include kept ignores changes same holds admits

/-- What the operations of a pipeline and admitted changes keep holds after every run, if each
restart in it keeps it. -/
theorem holds_run_of_restarts
    (restarts : ∀ before host, before ++ [.restart] <+: events → P (realm.run before).workspace →
      P (start (Pipeline.ofBackends config backends) host
      (realm.run before).workspace.store).workspace) :
    (realm.run events).pipeline = Pipeline.ofBackends config backends ∧
    P (realm.run events).workspace := by
  refine run_induction
    (H := fun reached => reached.pipeline = Pipeline.ofBackends config backends ∧
      P reached.workspace)
    ⟨same, holds⟩ fun before event start earlier => ?_
  have allowed := admits event (start.subset (List.mem_append_right before List.mem_cons_self))
  cases event with
  | change made => exact ⟨earlier.1, changes earlier.2 allowed⟩
  | request made =>
    have next := leads_request kept _ earlier.1 earlier.2 allowed ignores
    exact ⟨next.extended.pipeline.trans earlier.1, next.holds⟩
  | restart =>
    refine ⟨earlier.1, ?_⟩
    rw [Event.perform, earlier.1]
    exact restarts before _ start earlier.2

/-- What the operations of a pipeline, admitted changes and restarts keep holds after every run. The
restart may use that the cache fits. -/
theorem holds_run
    (restarts : ∀ {workspace : Workspace MemoryFiles} (host : Host), P workspace →
      workspace.cache.Fits →
      P (start (Pipeline.ofBackends config backends) host workspace.store).workspace)
    (fits : realm.FitsAtRestarts events) :
    (realm.run events).pipeline = Pipeline.ofBackends config backends ∧
    P (realm.run events).workspace :=
  holds_run_of_restarts kept ignores changes same holds admits fun _ host start earlier =>
    restarts host earlier (fits.fits start)

end Runs

end Realm

end DialectLoader
