import DialectLoader.Proofs.Realm.GeneratedCode

/-!
# Where a served artifact comes from

An artifact is reused if the file behind its script is not newer. Files that come into the places
before its source are newer than the artifact, so they always have it compiled again. Files behind
it may be older, and are found once its source is removed: then the artifact of the removed file is
served for another one. So an artifact that is served comes from the file behind its script exactly
if its source is still there.

Nothing is asked of the cache root here. What is on disk as the manifest may be older than the
cache, but all that it lists can be traced in the same way.

Script files have normal paths, and nobody but the program writes the manifest. The clock moves with
every change; files with equal or earlier times, as a disk may have them, are not covered.
-/

namespace DialectLoader

open DialectLoader.Path (Normal)

namespace Pipeline

variable {config : Config} {backends : Backends} {store later : MemoryFiles}
  {workspace changed : Workspace MemoryFiles} {logical : String} {artifact : Artifact}

/-- The places in which a script is looked for, in order: below each directory of the search
path. -/
def places (config : Config) (logical : String) : List String :=
  (config.searchPaths.directories config.searchPath).map (Path.join · logical)

/-- The file behind a script is in the first place that has one. The places before it are empty,
those behind it may hold anything. -/
theorem behind?_eq_some_iff {path : String} {file : StoredFile} :
    behind? config store logical = some (path, file) ↔
      ∃ earlier rest, places config logical = earlier ++ path :: rest ∧
        store.files[path]? = some file ∧ ∀ place ∈ earlier, store.files[place]? = none := by
  rw [behind?, MemoryFiles.behind?, ← places, List.findSome?_eq_some_iff]
  constructor
  · rintro ⟨earlier, place, rest, listed, here, absent⟩
    obtain ⟨_, found, same⟩ := Option.map_eq_some_iff.mp here
    cases same
    exact ⟨earlier, rest, listed, found,
      fun other member => Option.map_eq_none_iff.mp (absent other member)⟩
  · rintro ⟨earlier, rest, listed, found, absent⟩
    exact ⟨earlier, path, rest, listed, by rw [found]; rfl,
      fun other member => Option.map_eq_none_iff.mpr (absent other member)⟩

/-- What is known of the source of an artifact: it is one of the places of the script, and the files
in the places before it are newer than the artifact. -/
structure Traced (config : Config) (store : MemoryFiles) (artifact : Artifact) : Prop where
  normal : Normal artifact.sourcePath
  past : artifact.signal.seconds ≤ store.clock
  place : ∃ earlier rest,
    places config artifact.sourcePath = earlier ++ artifact.fullSourcePath :: rest ∧
    ∀ place ∈ earlier, ∀ file : StoredFile, store.files[place]? = some file →
      artifact.signal.seconds < file.modified.seconds

/-- The source of an artifact stays traced as time goes by: a file that comes into an earlier place
is newer than the artifact. -/
theorem Traced.of_aged (traced : Traced config store artifact)
    (aged : MemoryFiles.Aged store later) :
    Traced config later artifact where
  normal := traced.normal
  past := Nat.le_trans traced.past aged.clock
  place := by
    obtain ⟨earlier, rest, listed, newer⟩ := traced.place
    refine ⟨earlier, rest, listed, fun place member file found => ?_⟩
    rcases aged.files place file found with before | ⟨new, _⟩
    · exact newer place member file before
    · exact Nat.lt_of_le_of_lt traced.past new

/-- A fresh artifact comes from the file behind its script exactly if its source is still there. -/
theorem Traced.fullSourcePath_eq_iff (traced : Traced config store artifact) {path : String}
    {file : StoredFile} (behind : behind? config store artifact.sourcePath = some (path, file))
    (fresh : file.modified.later artifact.signal = false) :
    artifact.fullSourcePath = path ↔ store.files[artifact.fullSourcePath]?.isSome = true := by
  obtain ⟨before, _, listed, found, absent⟩ := behind?_eq_some_iff.mp behind
  obtain ⟨earlier, _, known, newer⟩ := traced.place
  constructor
  · rintro rfl
    rw [found]
    rfl
  · intro still
    rcases List.append_eq_append_iff.mp (known.symm.trans listed) with
      ⟨skipped, rfl, spelled⟩ | ⟨skipped, rfl, spelled⟩
    -- The source is not after the place of the file, or it would have been found there.
    · cases skipped with
      | nil => exact (List.cons.inj spelled).1
      | cons place _ =>
        obtain ⟨rfl, _⟩ := List.cons.inj spelled
        rw [absent _ (List.mem_append_right _ List.mem_cons_self)] at still
        cases still
    -- The file is not in a place before the source, or it would be newer.
    · cases skipped with
      | nil => exact (List.cons.inj spelled).1.symm
      | cons place _ =>
        obtain ⟨rfl, _⟩ := List.cons.inj spelled
        have time := newer path (List.mem_append_right _ List.mem_cons_self) file found
        rw [Signal.later_of_seconds time] at fresh
        cases fresh

/-- A workspace in which the source of every artifact is traced, and no file is from the future. -/
structure Sourced (config : Config) (workspace : Workspace MemoryFiles) : Prop where
  consistent : workspace.cache.Consistent
  dated : workspace.store.Dated
  traced : ∀ artifact ∈ workspace.cache.artifacts, Traced config workspace.store artifact

theorem Sourced.of_aged (sourced : Sourced config workspace)
    (cache : changed.cache = workspace.cache)
    (aged : MemoryFiles.Aged workspace.store changed.store) : Sourced config changed where
  consistent := cache ▸ sourced.consistent
  dated := aged.dated sourced.dated
  traced artifact live := (sourced.traced artifact (cache ▸ live)).of_aged aged

theorem Sourced.persist (sourced : Sourced config workspace) :
    Sourced config ((ofBackends config backends).persist workspace) :=
  sourced.of_aged (by rw [persist_eq]) (sparesScripts_persist _ workspace).aged

theorem sourced_empty (empty : workspace.cache = .empty) (dated : workspace.store.Dated) :
    Sourced config workspace := by
  refine ⟨empty ▸ Cache.consistent_empty, dated, fun artifact live => ?_⟩
  simp [empty, Cache.artifacts_empty] at live

section Listed

variable {good : MemoryFiles → Cache → Prop}

/-- If there is a manifest on disk, it is that of the cache or of one of which something is
known. -/
def Listed (config : Config) (good : MemoryFiles → Cache → Prop)
    (workspace : Workspace MemoryFiles) : Prop :=
  workspace.store.files[Manifest.path config.outputRoot]? = none ∨
    config.persistManifest = true ∧ ∃ listed time,
      workspace.store.files[Manifest.path config.outputRoot]? =
        some ⟨(Manifest.ofCache listed config.compileOptions.fingerprint).encode, time⟩ ∧
      (listed = workspace.cache ∨ good workspace.store listed)

/-- A change to the files under which the manifest keeps its contents, or is lost. -/
def SparesManifest (config : Config) (store later : MemoryFiles) : Prop :=
  ∀ file : StoredFile, later.files[Manifest.path config.outputRoot]? = some file →
    ∃ before, store.files[Manifest.path config.outputRoot]? = some before ∧
      file.contents = before.contents

/-- What is on disk as the manifest stays known as long as it keeps its contents, and if it is lost
there is nothing to know. -/
theorem Listed.of_spared (known : Listed config good workspace)
    (cache : changed.cache = workspace.cache)
    (spares : SparesManifest config workspace.store changed.store)
    (keeps : ∀ listed, good workspace.store listed → good changed.store listed) :
    Listed config good changed := by
  cases found : changed.store.files[Manifest.path config.outputRoot]? with
  | none => exact .inl found
  | some file =>
    obtain ⟨before, there, same⟩ := spares file found
    rcases known with absent | ⟨persists, listed, time, present, current⟩
    · rw [there] at absent
      cases absent
    · cases there.symm.trans present
      dsimp only at same
      refine .inr ⟨persists, listed, file.modified, by rw [found, ← same], ?_⟩
      rcases current with rfl | known
      · exact .inl cache.symm
      · exact .inr (keeps listed known)

/-- Writing the manifest after code was written keeps it known. It may fail to be written only on a
store where no code could be. -/
theorem Listed.persist (known : Listed config good workspace)
    (writable : changed.store.readOnly = false)
    (same : changed.store.files[Manifest.path config.outputRoot]? =
      workspace.store.files[Manifest.path config.outputRoot]?) :
    Listed config good ((ofBackends config backends).persist changed) := by
  cases persists : config.persistManifest with
  | true =>
    obtain ⟨present, _⟩ := manifest_persist backends persists writable
    exact .inr ⟨persists, changed.cache, _, present, .inl (by rw [persist_eq])⟩
  | false =>
    have idle : (ofBackends config backends).persist changed = changed :=
      if_neg (by simp [persists])
    rw [idle]
    rcases known with absent | ⟨asked, _⟩
    · exact .inl (same.trans absent)
    · rw [persists] at asked
      cases asked

/-- The operations of a pipeline keep the manifest known, whatever is known of it, as long as that
survives directories being made. -/
theorem Kept.and_listed {P : Workspace MemoryFiles → Prop} (kept : Kept config backends P)
    (keeps : ∀ {store changed : MemoryFiles}, MemoryFiles.Unwritten store changed →
      ∀ listed, good store listed → good changed listed) :
    Kept config backends fun workspace => P workspace ∧ Listed config good workspace :=
  kept.and_manifest
    (fun known unwritten cache => known.of_spared cache
      (fun file found => ⟨file, by rwa [unwritten.files] at found, rfl⟩) (keeps unwritten))
    fun known writable same => known.persist writable same

end Listed

/-- A manifest from which a realm can start: it is read as it was written, and lists artifacts whose
sources are traced. -/
structure Reliable (config : Config) (store : MemoryFiles) (listed : Cache) : Prop where
  fits : listed.Fits
  traced : ∀ artifact ∈ listed.artifacts, Traced config store artifact

theorem Reliable.of_aged {listed : Cache} (reliable : Reliable config store listed)
    (aged : MemoryFiles.Aged store later) : Reliable config later listed where
  fits := reliable.fits
  traced artifact live := (reliable.traced artifact live).of_aged aged

/-- The manifest of a cache that fits is reliable where sources are traced, so the next realm may
start from it. -/
theorem Sourced.reliable (sourced : Sourced config workspace) (fits : workspace.cache.Fits)
    {listed : Cache} (current : listed = workspace.cache ∨ Reliable config workspace.store listed) :
    Reliable config workspace.store listed := by
  rcases current with rfl | reliable
  · exact ⟨fits, sourced.traced⟩
  · exact reliable

/-- If there is a manifest on disk, it is that of the cache or one from which a realm has
started. -/
def Recorded (config : Config) (workspace : Workspace MemoryFiles) : Prop :=
  Listed config (Reliable config) workspace

/-- What is on disk as the manifest stays in order as long as it keeps its contents, whatever
happens to other files. -/
theorem Recorded.of_aged (recorded : Recorded config workspace)
    (cache : changed.cache = workspace.cache)
    (aged : MemoryFiles.Aged workspace.store changed.store)
    (spares : SparesManifest config workspace.store changed.store) : Recorded config changed :=
  Listed.of_spared recorded cache spares fun _ reliable => reliable.of_aged aged

theorem ignoresEvents_sourced :
    IgnoresEvents fun workspace => (workspace.Tidy ∧ Sourced config workspace) ∧
    Recorded config workspace :=
  fun holds same => ⟨IgnoresEvents.and_tidy (Q := Sourced config)
    (fun sourced _ => ⟨sourced.consistent, sourced.dated, sourced.traced⟩) holds.1 same, holds.2⟩

section Directories

variable (directories : config.TidyDirectories)

include directories

variable (backends) in
/-- An artifact that has just been made is traced: its source is the first of the places that has a
file. -/
theorem traced_artifact (dated : store.Dated) (normal : Normal logical) {path : String}
    {file : StoredFile} (behind : behind? config store logical = some (path, file))
    (dialect : Dialect) (lineMap : LineMap) :
    Traced config store
      ((ofBackends config backends).artifact store logical dialect file.modified lineMap) where
  normal := normal
  past := dated path file (MemoryFiles.behind?_spec behind).1
  place := by
    obtain ⟨earlier, rest, listed, _, absent⟩ := behind?_eq_some_iff.mp behind
    refine ⟨earlier, rest, ?_, fun place member other found => ?_⟩
    · rw [artifact_fullSourcePath backends directories normal behind]
      exact listed
    · rw [absent place member] at found
      cases found

/-- Compiling keeps the sources of all artifacts traced, of the new one as well. -/
theorem Sourced.effect (sourced : Sourced config workspace) (normal : Normal logical) {force : Bool}
    {result : Except CompileError (Artifact × Bool)}
    (effect : Effect config backends workspace logical force result changed) :
    Sourced config changed := by
  have aged := effect.sparesScripts.aged
  cases effect with
  | refused => exact sourced
  | reused => exact sourced
  | failed => exact sourced.of_aged rfl aged
  | compiled script behind due readable success written still =>
    refine ⟨sourced.consistent.insert _, aged.dated sourced.dated, fun artifact live => ?_⟩
    rcases sourced.consistent.mem_artifacts_insert live with rfl | before
    · exact traced_artifact backends directories (aged.dated sourced.dated) normal still _ _
    · exact (sourced.traced artifact before).of_aged aged

theorem kept_sourced :
    Kept config backends fun workspace =>
      (workspace.Tidy ∧ Sourced config workspace) ∧ Recorded config workspace :=
  ((Stable.of_tidy (Q := Sourced config)
    (fun sourced normal effect => sourced.effect directories normal effect)
    Sourced.persist).kept directories).and_listed
      fun unwritten _ reliable => reliable.of_aged unwritten.aged

/-- What compiling without force returns comes from the file behind the script exactly if its source
is still there. -/
theorem fullSourcePath_of_compile (sourced : Sourced config workspace) (normal : Normal logical)
    (compiled : (ofBackends config backends).compile workspace logical false =
      (.ok artifact, changed)) :
    ∃ path file, behind? config changed.store logical = some (path, file) ∧
      (artifact.fullSourcePath = path ↔
        changed.store.files[artifact.fullSourcePath]?.isSome = true) := by
  rcases compile_cases workspace logical false with
    ⟨_, made, done, effect⟩ | ⟨_, _, done, effect⟩ | ⟨_, _, done, _⟩
  · cases done.symm.trans compiled
    have spared := sparesScripts_persist (ofBackends config backends) made
    cases effect with
    | compiled script _ _ _ _ _ still =>
      have after := (behind?_of_spares config spared (by simp [script])).trans still
      refine ⟨_, _, after, ?_⟩
      rw [artifact_fullSourcePath backends directories normal still,
        (MemoryFiles.behind?_spec after).1]
      simp
  · cases done.symm.trans compiled
    cases effect with
    | reused script behind unforced found fresh =>
      have traced := sourced.traced artifact (Cache.mem_artifacts.mpr ⟨_, found⟩)
      have named := sourced.consistent.sourcePath_of_lookup normal.fixed traced.normal.fixed found
      exact ⟨_, _, behind, traced.fullSourcePath_eq_iff (named ▸ behind) fresh⟩
  · cases done.symm.trans compiled

end Directories

end Pipeline

namespace Realm

variable {config : Config} {backends : Backends}

/-- A change with normal paths that puts nothing in the place of the manifest. It may remove files,
the manifest included. -/
def Change.IsOrdinary (config : Config) (change : Change) : Prop :=
  change.IsTidy ∧
    match change with
    | addFile path _ | write path _ => path ≠ Manifest.path config.outputRoot
    | touch _ | createDirectories _ | removeTree _ | setReadOnly _ => True

instance (config : Config) : DecidablePred (Change.IsOrdinary config)
  | .addFile _ _ | .write _ _ => inferInstanceAs (Decidable (_ ∧ _ ≠ _))
  | .touch _ | .createDirectories _ | .removeTree _ | .setReadOnly _ =>
    inferInstanceAs (Decidable (_ ∧ True))

/-- An ordinary change leaves the contents of the manifest as they are, or removes it. Touching it
changes its time only. -/
theorem Change.sparesManifest {change : Change} (ordinary : change.IsOrdinary config)
    (store : MemoryFiles) : Pipeline.SparesManifest config store (change.apply store) := by
  intro file found
  cases change with
  | addFile path contents =>
    rw [Change.apply, (MemoryFiles.ticked_addFile store path contents).elsewhere _ ordinary.2.symm]
      at found
    exact ⟨file, found, rfl⟩
  | touch path =>
    simp only [Change.apply, MemoryFiles.touch, Std.ExtTreeMap.getElem?_modify] at found
    split at found
    · rename_i here
      obtain ⟨before, known, rfl⟩ := Option.map_eq_some_iff.mp found
      have same : path = Manifest.path config.outputRoot := by simpa using here
      exact ⟨before, same ▸ known, rfl⟩
    · exact ⟨file, found, rfl⟩
  | write path contents =>
    rcases store.write_cases path contents with written | unwritten
    · rw [Change.apply, written.elsewhere ordinary.2.symm] at found
      exact ⟨file, found, rfl⟩
    · rw [Change.apply, unwritten.files] at found
      exact ⟨file, found, rfl⟩
  | createDirectories directory =>
    rw [Change.apply, (store.createDirectories_unwritten directory).files] at found
    exact ⟨file, found, rfl⟩
  | removeTree directory =>
    rw [Change.apply, MemoryFiles.removeTree_files] at found
    split at found
    · cases found
    · exact ⟨file, found, rfl⟩
  | setReadOnly value => exact ⟨file, found, rfl⟩

section Start

variable {workspace : Workspace MemoryFiles} {good : MemoryFiles → Cache → Prop} (host : Host)

/-- A realm starts with an empty cache, or with artifacts of the manifest on disk, if that can be
read. -/
theorem start_of_listed (known : Pipeline.Listed config good workspace)
    (readable : ∀ listed, listed = workspace.cache ∨ good workspace.store listed → listed.Fits) :
    let started := (start (Pipeline.ofBackends config backends) host workspace.store).workspace
    started.cache = .empty ∨ ∃ listed, (listed = workspace.cache ∨ good workspace.store listed) ∧
      (Pipeline.ofBackends config backends).readManifest workspace.store =
        .ok (Manifest.ofCache listed config.compileOptions.fingerprint) ∧
      started.cache = (Cache.empty.restore listed.artifacts
        fun artifact => FileStore.isFile workspace.store artifact.fullOutputPath).2 := by
  intro started
  rcases start_cases (Pipeline.ofBackends config backends) host workspace.store with
    ⟨manifest, _, read, resumed⟩ | ⟨_, _, fresh⟩ | ⟨_, purged⟩
  · right
    rcases known with absent | ⟨_, listed, time, present, current⟩
    · rw [Pipeline.readManifest_of_absent backends absent] at read
      cases read
    · have whole := Pipeline.readManifest_of_present backends present (readable listed current)
      cases whole.symm.trans read
      exact ⟨listed, current, read, congrArg Workspace.cache resumed⟩
  · exact .inl (congrArg Workspace.cache fresh)
  · exact .inl (congrArg Workspace.cache purged)

/-- The manifest that a realm finds when it starts stays known, though another one takes its place
as soon as code is written. -/
theorem listed_start (known : Pipeline.Listed config good workspace)
    (keeps : ∀ listed, listed = workspace.cache ∨ good workspace.store listed →
      good (start (Pipeline.ofBackends config backends) host workspace.store).workspace.store
        listed) :
    Pipeline.Listed config good
      (start (Pipeline.ofBackends config backends) host workspace.store).workspace := by
  cases found :
    (start (Pipeline.ofBackends config backends) host workspace.store).workspace.store.files[
      Manifest.path config.outputRoot]? with
  | none => exact .inl found
  | some file =>
    rcases known with absent | ⟨persists, listed, time, present, current⟩
    · rw [start_files found] at absent
      cases absent
    · cases (start_files found).symm.trans present
      exact .inr ⟨persists, listed, time, found, .inr (keeps listed current)⟩

variable (sourced : Pipeline.Sourced config workspace)
    (recorded : Pipeline.Recorded config workspace)
  (fits : workspace.cache.Fits)

include sourced recorded fits

/-- The sources of all artifacts with which a realm starts are traced, as those of the manifest
are. -/
theorem sourced_start :
    Pipeline.Sourced config
      (start (Pipeline.ofBackends config backends) host workspace.store).workspace := by
  have aged := start_aged (Pipeline.ofBackends config backends) host workspace.store
  have dated := aged.dated sourced.dated
  rcases start_of_listed host recorded fun listed current =>
    (sourced.reliable fits current).fits with
    empty | ⟨listed, current, _, restored⟩
  · exact Pipeline.sourced_empty empty dated
  · refine ⟨?_, dated, fun artifact live => ?_⟩
    · rw [restored]
      exact Cache.consistent_empty.restore _ _
    · rw [restored] at live
      rcases Cache.consistent_empty.mem_artifacts_restore live with stored | before
      · exact ((sourced.reliable fits current).traced artifact stored).of_aged aged
      · rw [Cache.artifacts_empty] at before
        cases before

/-- What is on disk as the manifest when a realm starts was read or is left alone, so whatever it
lists is reliable from now on. -/
theorem recorded_start :
    Pipeline.Recorded config
      (start (Pipeline.ofBackends config backends) host workspace.store).workspace :=
  listed_start host recorded fun _ current => (sourced.reliable fits current).of_aged
    (start_aged (Pipeline.ofBackends config backends) host workspace.store)

end Start

/-- Where a served artifact comes from, after every run that starts without a manifest: if compiling
without force returns an artifact, the script resolves to a file, and that file is the source of the
artifact exactly if there still is a file at its source. -/
theorem served_source_iff_still_there (directories : config.TidyDirectories) (host : Host)
    {store : MemoryFiles} (scripts : store.TidyScripts) (dated : store.Dated)
    (unsaved : store.files[Manifest.path config.outputRoot]? = none) {events : List Event}
    (admits : ∀ event ∈ events, event.Admits (Change.IsOrdinary config))
    (fits : (start (Pipeline.ofBackends config backends) host store).FitsAtRestarts events)
    {logical : String} (normal : Normal logical) {artifact : Artifact}
    {changed : Workspace MemoryFiles}
    (compiled : (Pipeline.ofBackends config backends).compile
      ((start (Pipeline.ofBackends config backends) host store).run events).workspace logical
      false = (.ok artifact, changed)) :
    ∃ path, Logical.resolve? changed.store config.searchPaths logical config.searchPath =
      some path ∧
      (artifact.fullSourcePath = Pipeline.rootRelative changed.store path ↔
        FileStore.isFile changed.store artifact.fullSourcePath = true) := by
  have restarts {workspace : Workspace MemoryFiles} (host : Host)
      (holds : (workspace.Tidy ∧ Pipeline.Sourced config workspace) ∧
        Pipeline.Recorded config workspace)
      (fits : workspace.cache.Fits) :
      ((start (Pipeline.ofBackends config backends) host workspace.store).workspace.Tidy ∧
        Pipeline.Sourced config
          (start (Pipeline.ofBackends config backends) host workspace.store).workspace) ∧
      Pipeline.Recorded config
        (start (Pipeline.ofBackends config backends) host workspace.store).workspace :=
    ⟨⟨start_tidy _ host holds.1.1.scripts, sourced_start host holds.1.2 holds.2 fits⟩,
      recorded_start host holds.1.2 holds.2 fits⟩
  have initial : Pipeline.Sourced config { store, watch := { debounceMs := config.debounceMs } } :=
    Pipeline.sourced_empty rfl dated
  obtain ⟨_, ⟨_, sourced⟩, _⟩ :=
    holds_run (Pipeline.kept_sourced directories) Pipeline.ignoresEvents_sourced
    (fun holds ordinary =>
      ⟨⟨Change.tidy ordinary.1 holds.1.1, holds.1.2.of_aged rfl (Change.aged _ _)⟩,
      holds.2.of_aged rfl (Change.aged _ _) (Change.sparesManifest ordinary _)⟩)
    rfl (restarts host ⟨⟨Workspace.tidy_of_scripts scripts _, initial⟩, .inl unsaved⟩
      Cache.fits_empty)
    admits restarts fits
  obtain ⟨path, file, behind, origin⟩ :=
    Pipeline.fullSourcePath_of_compile directories sourced normal compiled
  have isFile : FileStore.isFile changed.store artifact.fullSourcePath =
      changed.store.files[artifact.fullSourcePath]?.isSome :=
    Std.ExtTreeMap.contains_eq_isSome_getElem?
  refine ⟨path, by rw [Pipeline.resolve?_behind, behind]; rfl, ?_⟩
  obtain ⟨directory, member, rfl⟩ := (MemoryFiles.behind?_spec behind).2
  rw [MemoryFiles.rootRelative_of_normal _ ((directories directory member).join normal), isFile]
  exact origin

def layeredConfig : Config :=
  { sampleConfig with searchPaths := .ofList [("p", ["b", "a"])] }

/-- Files with one script, in the second of the two search directories. -/
def layeredFiles : MemoryFiles :=
  MemoryFiles.addFile {} "a/s.moon" (Text.utf8 "x")

/-- A script is hidden by another one around a restart, and comes to light again newer than
before. -/
def eclipse : List Event :=
  [.request (.compile "s.moon" false), .change (.addFile "b/s.moon" (Text.utf8 "y")), .restart,
    .request (.prepare "s.moon" .inclusion), .change (.touch "a/s.moon"), .change (.removeTree "b")]

/-- After `eclipse` the script is compiled again, from the file that has come to light. -/
theorem served_source_after_eclipse :
    let pipeline := Pipeline.ofBackends layeredConfig sampleBackends
    ∃ artifact changed,
      pipeline.compile ((start pipeline ⟨fun _ => true⟩ layeredFiles).run eclipse).workspace
        "s.moon" false = (.ok artifact, changed) ∧
      artifact.fullSourcePath = "a/s.moon" ∧
      ∃ path, Logical.resolve? changed.store layeredConfig.searchPaths "s.moon"
          layeredConfig.searchPath = some path ∧
        (artifact.fullSourcePath = Pipeline.rootRelative changed.store path ↔
          FileStore.isFile changed.store artifact.fullSourcePath = true) := by
  intro pipeline
  have root : Normal layeredConfig.outputRoot := by decide +kernel
  have directories : layeredConfig.TidyDirectories := by decide +kernel
  have elsewhere : ∀ path, path ≠ "a/s.moon" → layeredFiles.files[path]? = none := fun path other =>
    ((MemoryFiles.ticked_addFile {} "a/s.moon" (Text.utf8 "x")).elsewhere path other).trans
      (by simp)
  have scripts : layeredFiles.TidyScripts := by
    intro path file found _
    by_cases here : path = "a/s.moon"
    · rw [here]
      decide +kernel
    · rw [elsewhere path here] at found
      cases found
  have dated : layeredFiles.Dated :=
    (MemoryFiles.ticked_addFile {} "a/s.moon" (Text.utf8 "x")).dated fun _ _ found => by
      simp at found
  have clean : ∀ path, MemoryFiles.isBelow layeredConfig.outputRoot path = true →
      layeredFiles.files[path]? = none := by
    intro path below
    apply elsewhere
    rintro rfl
    exact absurd below (by decide +kernel)
  have admits : ∀ event ∈ eclipse, event.Admits (Change.IsOrdinary layeredConfig) := by
    decide +kernel
  have foreign : ∀ event ∈ eclipse.take 2, event.Admits (Change.IsForeign layeredConfig) := by
    decide +kernel
  have fits : (start pipeline ⟨fun _ => true⟩ layeredFiles).FitsAtRestarts eclipse := by
    decide +kernel
  have normal : Normal "s.moon" := by decide +kernel
  have resumed : (start pipeline ⟨fun _ => true⟩ layeredFiles).run eclipse =
      (resume ((start pipeline ⟨fun _ => true⟩ layeredFiles).run (eclipse.take 2))).run
        (eclipse.drop 3) :=
    run_append_restart root directories rfl rfl ⟨fun _ => true⟩ scripts clean (eclipse.take 2)
      (eclipse.drop 3)
      foreign fits
  have served :
      (pipeline.compile ((start pipeline ⟨fun _ => true⟩ layeredFiles).run eclipse).workspace
      "s.moon" false).1.map (·.fullSourcePath) = .ok "a/s.moon" := by
    rw [resumed]
    decide +kernel
  rcases compiled : pipeline.compile
    ((start pipeline ⟨fun _ => true⟩ layeredFiles).run eclipse).workspace "s.moon"
      false with ⟨_ | artifact, changed⟩
  · rw [compiled] at served
    cases served
  · rw [compiled] at served
    exact ⟨artifact, changed, rfl, Except.ok.inj served,
      served_source_iff_still_there directories ⟨fun _ => true⟩
      scripts dated (clean _ (by decide +kernel)) admits fits normal compiled⟩

/-- A script that hides an older one is compiled and removed. -/
def removal : List Event :=
  [.change (.addFile "a/s.moon" (Text.utf8 "x")), .change (.addFile "b/s.moon" (Text.utf8 "y")),
    .request (.compile "s.moon" false), .change (.removeTree "b")]

/-- After `removal` the artifact of the removed file is served, though the script resolves to the
older one. -/
theorem removed_source_served :
    let pipeline := Pipeline.ofBackends layeredConfig sampleBackends
    let reached := ((start pipeline ⟨fun _ => true⟩ {}).run removal).workspace
    (pipeline.compile reached "s.moon" false).1.map (·.fullSourcePath) = .ok "b/s.moon" ∧
      Logical.resolve? (pipeline.compile reached "s.moon" false).2.store layeredConfig.searchPaths
        "s.moon"
        layeredConfig.searchPath = some "a/s.moon" := by
  decide +kernel

end Realm

end DialectLoader
