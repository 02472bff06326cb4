import DialectLoader.Proofs.Pipeline.Settled
import DialectLoader.Proofs.Realm.Origin
import DialectLoader.Proofs.Realm.Startup

/-!
# Precaching a directory twice

Precaching compiles the scripts of a directory in any order. The scripts that it finds are the same
afterwards, since code and manifest are no scripts and since the directory of every file is there.
So whether a second pass repeats the first one is a question of the artifacts that the first one has
reported: it does exactly if none of them was displaced in the pass.

Artifacts that realms with one configuration have made are not displaced, also if they come from the
manifest of an earlier realm. An artifact from a manifest that somebody else has written can be.

A pass compiles one script after another, in whatever order its threads happen to take them; that
two of them overlap is not followed. Between the two passes nothing else happens.
-/

namespace DialectLoader

open DialectLoader.Path (Normal)

namespace MemoryFiles

variable {store changed later : MemoryFiles}

/-- A later state of the files with the same scripts and no directory less. Other files may come and
go. -/
structure KeepsScripts (store later : MemoryFiles) : Prop where
  scripts : ∀ path, (Dialect.ofPath? path).isSome = true → (path ∈ later.files ↔ path ∈ store.files)
  directories : ∀ directory ∈ store.directories, directory ∈ later.directories

theorem KeepsScripts.refl (store : MemoryFiles) : KeepsScripts store store :=
  ⟨fun _ _ => Iff.rfl, fun _ known => known⟩

theorem KeepsScripts.trans (first : KeepsScripts store changed)
    (second : KeepsScripts changed later) :
    KeepsScripts store later :=
  ⟨fun path script => (second.scripts path script).trans (first.scripts path script),
    fun directory known => second.directories directory (first.directories directory known)⟩

theorem SparesScripts.keepsScripts (spares : SparesScripts store changed) :
    KeepsScripts store changed := by
  rcases spares with unwritten | ⟨path, contents, written, noScript⟩
  · exact ⟨fun path _ => by rw [unwritten.files], unwritten.directories⟩
  · refine ⟨fun other script => ?_, written.directories⟩
    have apart : other ≠ path := by
      rintro rfl
      simp [noScript] at script
    rw [Std.ExtTreeMap.mem_iff_isSome_getElem?, Std.ExtTreeMap.mem_iff_isSome_getElem?,
      written.elsewhere apart]

/-- Putting a file into a directory leaves files whose directories are there, because the directory
is made first. -/
theorem Housed.put (housed : store.Housed) (directory path : String) (contents : Bytes) :
    (store.put directory path contents).2.Housed := by
  have made := housed.createDirectories directory
  unfold MemoryFiles.put
  split
  · rename_i refused
    rw [refused] at made
    exact made
  · rename_i done
    rw [done] at made
    exact made.write path contents

end MemoryFiles

namespace Pipeline

variable {config : Config} {backends : Backends} {workspace : Workspace MemoryFiles}

section Walks

variable {store later : MemoryFiles} {directory lower logical : String}

/-- A walk finds the same scripts in a later state of the files that keeps them. A directory that
has come since had no files below it before. -/
theorem mem_walkOne_of_keeps (housed : store.Housed) (keeps : MemoryFiles.KeepsScripts store later)
    (outer : Normal directory) (inner : lower = "" ∨ Normal lower)
    (script : (Dialect.ofPath? logical).isSome = true) :
    logical ∈ Logical.walkOne later lower directory ↔
      logical ∈ Logical.walkOne store lower directory := by
  have base := trimEnd_join_of_normal outer inner
  rw [mem_walkOne_iff, mem_walkOne_iff]
  generalize Path.trimEnd (Path.join directory lower) = place at base
  have named {path rest : String} (cut : Logical.below? place path = some rest)
      (joined : Path.join lower rest = logical) : (Dialect.ofPath? path).isSome = true := by
    rw [← ofPath?_of_below? base cut lower, joined]
    exact script
  constructor
  · rintro ⟨_, path, found, rest, cut, joined⟩
    have before := (keeps.scripts path (named cut joined)).mp found
    have below : MemoryFiles.isBelow place path = true :=
      MemoryFiles.isBelow_iff.mpr ⟨rest.toList, below?_toList base cut⟩
    exact ⟨.inr (housed place path base.ne_empty below (.inl before)), path, before, rest,
      cut, joined⟩
  · rintro ⟨there, path, found, rest, cut, joined⟩
    exact ⟨there.imp_right (keeps.directories place), path,
      (keeps.scripts path (named cut joined)).mpr found, rest, cut, joined⟩

/-- The scripts below a directory are the same in a later state that keeps the scripts, over all
search directories. -/
theorem scriptsBelow_of_keeps {pipeline : Pipeline MemoryFiles}
    (directories : pipeline.config.TidyDirectories) (housed : store.Housed)
    (keeps : MemoryFiles.KeepsScripts store later) (inner : directory = "" ∨ Normal directory) :
    pipeline.scriptsBelow later directory = pipeline.scriptsBelow store directory := by
  have trimmed : Path.trimEnd directory = directory := by
    rcases inner with rfl | inner
    · rfl
    · exact inner.trimEnd
  simp only [scriptsBelow, Logical.walk, trimmed]
  rw [← Std.ExtTreeSet.toList_filter, ← Std.ExtTreeSet.toList_filter]
  refine congrArg Std.ExtTreeSet.toList (Std.ExtTreeSet.ext_mem fun logical => ?_)
  simp only [Std.ExtTreeSet.mem_filter, Std.ExtTreeSet.get_eq, exists_prop,
    Std.ExtTreeSet.mem_ofList, List.contains_iff_mem, List.mem_flatMap]
  refine and_congr_left fun script => exists_congr fun outer => and_congr_right fun listed => ?_
  exact mem_walkOne_of_keeps housed keeps (directories outer listed) inner script

end Walks

section Housed

/-- Writing code leaves every file with its directories, also if it fails half way. -/
theorem housed_writeCode (pipeline : Pipeline MemoryFiles) {store : MemoryFiles}
    (housed : store.Housed) (logical code : String) :
    (pipeline.writeCode store logical code).2.Housed := by
  have put := housed.put (Path.join pipeline.config.outputRoot (Path.parent (Path.output logical)))
    (pipeline.target logical) (Text.utf8 code)
  rw [writeCode_eq]
  split <;> rename_i done
  · rw [done] at put
    exact put
  · rw [done] at put
    exact put

theorem housed_recompile (housed : workspace.store.Housed) (logical : String) (dialect : Dialect)
    (signal : Signal) :
    ((ofBackends config backends).recompile workspace logical dialect signal).2.store.Housed := by
  unfold recompile
  split
  · exact housed
  · rename_i source _
    have compiled : (ofBackends config backends).compiler.compile dialect source
        (ofBackends config backends).config.compileOptions workspace.store =
          (backends.compile dialect source config.compileOptions, workspace.store) := rfl
    simp only [compiled]
    cases backends.compile dialect source config.compileOptions with
    | failure message display position => exact housed
    | success code lineMap =>
      have written := housed_writeCode (ofBackends config backends) housed logical code
      dsimp only
      split <;> rename_i done
      · rw [done] at written
        exact written
      · rw [done] at written
        exact written

/-- Compiling a script, be it due or not, leaves every file with its directories. -/
theorem housed_compileUnsaved (housed : workspace.store.Housed) (logical : String) (force : Bool) :
    ((ofBackends config backends).compileUnsaved workspace logical force).2.store.Housed := by
  unfold compileUnsaved
  split
  · exact housed
  · rename_i dialect _
    split
    · exact housed
    · rename_i signal _
      dsimp only
      split
      · exact housed
      · have again : ((ofBackends config backends).recompile workspace logical dialect
            signal).2.store.Housed :=
          housed_recompile housed logical dialect signal
        split <;> rename_i done
        · rw [done] at again
          exact again
        · rw [done] at again
          exact again

theorem housed_persist (housed : workspace.store.Housed) :
    ((ofBackends config backends).persist workspace).store.Housed := by
  unfold persist
  split
  · rw [saveManifest_eq]
    exact housed.put _ _ _
  · exact housed

/-- The operations of a pipeline keep what single compilations and persisting keep. No normal paths
are needed for these. -/
theorem Kept.and_compileUnsaved {P Q : Workspace MemoryFiles → Prop} (kept : Kept config backends P)
    (each : ∀ {workspace}, Q workspace → ∀ logical force,
      Q ((ofBackends config backends).compileUnsaved workspace logical force).2)
    (persist : ∀ {workspace}, Q workspace → Q ((ofBackends config backends).persist workspace)) :
    Kept config backends fun workspace => P workspace ∧ Q workspace where
  tidy holds := kept.tidy holds.1
  compile := by
    intro workspace logical force holds normal
    refine ⟨kept.compile holds.1 normal, ?_⟩
    have done := each holds.2 logical force
    unfold Pipeline.compile
    generalize (ofBackends config backends).compileUnsaved workspace logical force = outcome at done
    obtain ⟨_ | ⟨artifact, _ | _⟩, changed⟩ := outcome
    · exact done
    · exact done
    · exact persist done
  precache := by
    intro workspace directory holds inner
    refine ⟨kept.precache holds.1 inner, ?_⟩
    exact holds_precacheDirectory (fun holds logical _ => each holds logical false) persist holds.2

theorem ignoresEvents_housed :
    IgnoresEvents fun workspace => (workspace.Tidy ∧ workspace.cache.Consistent) ∧
    workspace.store.Housed :=
  fun holds same => ⟨IgnoresEvents.and_tidy (Q := fun workspace => workspace.cache.Consistent)
    (fun consistent _ => consistent) holds.1 same, holds.2⟩

end Housed

/-- A manifest that is read as it was written, of a cache that was built with one configuration. -/
structure OwnManifest (config : Config) (listed : Cache) : Prop where
  fits : listed.Fits
  built : Built config listed

/-- Reports and ticks have no part in how a cache was built, nor in what its manifest lists. -/
theorem ignoresEvents_built : IgnoresEvents fun workspace =>
    (workspace.Tidy ∧ Built config workspace.cache) ∧
    Listed config (fun _ => OwnManifest config) workspace :=
  fun holds same => ⟨IgnoresEvents.and_tidy (Q := fun workspace => Built config workspace.cache)
    (fun built _ => built) holds.1 same, holds.2⟩

section Passes

variable {directory : String}

theorem keepsScripts_compileEach (config : Config) (backends : Backends)
    (workspace : Workspace MemoryFiles) (scripts : List String) :
    MemoryFiles.KeepsScripts workspace.store
      ((ofBackends config backends).compileEach workspace scripts).2.store := by
  refine holds_compileEach
    (P := fun reached => MemoryFiles.KeepsScripts workspace.store reached.store)
    (fun keeps script _ => ?_) (.refl _)
  exact keeps.trans (alone_effect config backends _ script).sparesScripts.keepsScripts

/-- The scripts of a directory are listed once, although several search directories may have one. -/
theorem nodup_scriptsBelow (pipeline : Pipeline MemoryFiles) (store : MemoryFiles)
    (directory : String) : (pipeline.scriptsBelow store directory).Nodup := by
  refine (Std.ExtTreeSet.distinct_toList.imp fun differ same => differ ?_).filter _
  rw [same]
  exact Std.ReflCmp.compare_self

theorem length_compileEach (pipeline : Pipeline MemoryFiles) (workspace : Workspace MemoryFiles)
    (scripts : List String) :
    (pipeline.compileEach workspace scripts).1.length = scripts.length := by
  induction scripts generalizing workspace with
  | nil => rfl
  | cons script rest ih => exact congrArg (· + 1) (ih _)

/-- Results in the order of different scripts are put into the order that they have. -/
theorem filterMap_lookup_zip_self {α : Type} {scripts : List String} {results : List α}
    (distinct : scripts.Nodup) (count : results.length = scripts.length) :
    scripts.filterMap (fun script => (scripts.zip results).lookup script) = results := by
  induction scripts generalizing results with
  | nil => exact (List.length_eq_zero_iff.mp count).symm
  | cons script rest ih =>
    obtain ⟨fresh, distinct⟩ := List.nodup_cons.mp distinct
    cases results with
    | nil => cases count
    | cons result results =>
      have others : rest.filterMap
          (fun other => ((script :: rest).zip (result :: results)).lookup other) =
            rest.filterMap fun other => (rest.zip results).lookup other := by
        refine List.filterMap_congr fun other member => ?_
        have different : other ≠ script := fun same => fresh (same ▸ member)
        simp [List.zip_cons_cons, List.lookup_cons, beq_eq_false_iff_ne.mpr different]
      rw [List.filterMap_cons, others, ih distinct (Nat.succ.inj count)]
      simp

theorem precacheInOrder_scriptsBelow (pipeline : Pipeline MemoryFiles)
    (workspace : Workspace MemoryFiles) (directory : String) :
    pipeline.precacheInOrder workspace directory (pipeline.scriptsBelow workspace.store directory) =
      pipeline.precacheDirectory workspace directory := by
  rw [precacheDirectory_eq, precacheInOrder,
    filterMap_lookup_zip_self (nodup_scriptsBelow pipeline _ _)
    (length_compileEach pipeline workspace _)]

section Directories

variable (directories : config.TidyDirectories)

include directories

/-- The operations of a pipeline keep the directories of all files, and the cache consistent. -/
theorem kept_housed :
    Kept config backends fun workspace =>
      (workspace.Tidy ∧ workspace.cache.Consistent) ∧ workspace.store.Housed := by
  refine ((Stable.of_tidy (Q := fun workspace => workspace.cache.Consistent)
    (fun consistent _ effect =>
    effect.consistent consistent) fun consistent => ?_).kept directories).and_compileUnsaved
    housed_compileUnsaved housed_persist
  rw [persist_cache]
  exact consistent

theorem kept_built :
    Kept config backends fun workspace =>
      (workspace.Tidy ∧ Built config workspace.cache) ∧
      Listed config (fun _ => OwnManifest config) workspace := by
  have tidy : Kept config backends fun workspace => workspace.Tidy ∧ True :=
    (Stable.of_tidy (fun _ _ _ => trivial) fun _ => trivial).kept directories
  have built : Kept config backends fun workspace =>
      workspace.Tidy ∧ Built config workspace.cache :=
    { tidy := And.left
      compile := fun holds normal =>
      ⟨(tidy.compile ⟨holds.1, trivial⟩ normal).1, holds.2.compile _ _ _⟩
      precache := fun holds inner =>
      ⟨(tidy.precache ⟨holds.1, trivial⟩ inner).1, holds.2.precache _ _⟩ }
  exact built.and_listed fun _ _ known => known

variable (backends) in
theorem scriptsBelow_precacheInOrder (housed : workspace.store.Housed)
    (inner : directory = "" ∨ Normal directory) (order : List String) :
    (ofBackends config backends).scriptsBelow
        ((ofBackends config backends).precacheInOrder workspace directory order).2.store directory =
      (ofBackends config backends).scriptsBelow workspace.store directory := by
  have each := keepsScripts_compileEach config backends workspace order
  refine scriptsBelow_of_keeps directories housed ?_ inner
  rcases (ofBackends config backends).precacheInOrder_cases workspace directory order
    with plain | persisted
  · rw [plain]
    exact each
  · rw [persisted]
    exact each.trans (sparesScripts_persist _ _).keepsScripts

/-- The scripts of a directory are a batch if their code has different names. They have normal paths
because the files are tidy. -/
theorem batch_scriptsBelow (tidy : workspace.Tidy) (inner : directory = "" ∨ Normal directory)
    (distinct : (((ofBackends config backends).scriptsBelow workspace.store directory).map
      fun script => Path.normalize (Path.output script)).Nodup) :
    Batch ((ofBackends config backends).scriptsBelow workspace.store directory) where
  known _ member := (List.mem_filter.mp member).2
  normal _ member := normal_of_mem_scriptsBelow directories tidy.scripts inner member
  distinct := distinct

end Directories

end Passes

end Pipeline

namespace Realm

variable {config : Config} {backends : Backends}

/-- Precaches a directory with its scripts compiled in a given order. -/
def precacheInOrder (realm : Realm MemoryFiles) (directory : String) (order : List String) :
    Pipeline.Report × Realm MemoryFiles :=
  let (report, workspace) := realm.pipeline.precacheInOrder realm.workspace directory order
  (report, { realm with workspace }.report report.failed)

/-- What precaching a directory can come to: its scripts are compiled in some order, which nobody
chooses. -/
def Precaches (realm : Realm MemoryFiles) (directory : String)
    (outcome : Pipeline.Report × Realm MemoryFiles) : Prop :=
  ∃ order, order.Perm (realm.pipeline.scriptsBelow realm.workspace.store directory) ∧
    outcome = realm.precacheInOrder directory order

/-- What precaching a directory comes to in the program's own order is one of the things that it can
come to. -/
theorem precaches_precacheDirectory (realm : Realm MemoryFiles) (directory : String) :
    realm.Precaches directory (realm.precacheDirectory directory) := by
  refine ⟨_, .refl _, ?_⟩
  rw [precacheInOrder, Pipeline.precacheInOrder_scriptsBelow]
  rfl

/-- A second pass that repeats the first one: it reports the same artifacts and the same errors,
asks backends at most, and leaves everything else as it was. -/
structure Repeats (first second : Pipeline.Report × Realm MemoryFiles) : Prop where
  report : second.1 = first.1
  realm : ∃ calls, second.2 = { first.2 with
    workspace := { first.2.workspace with calls }
    diagnostics := first.2.diagnostics ++ first.1.failed.map .ofError }

/-- Whether a pass is repeated is a question of its workspace: the rest of the realm is not touched
by either pass. -/
theorem repeats_iff (realm : Realm MemoryFiles) (directory : String) (order again : List String) :
    Repeats (realm.precacheInOrder directory order)
        ((realm.precacheInOrder directory order).2.precacheInOrder directory again) ↔
      Pipeline.Repeats (realm.pipeline.precacheInOrder realm.workspace directory order)
        (realm.pipeline.precacheInOrder
          (realm.pipeline.precacheInOrder realm.workspace directory order).2 directory again) := by
  constructor
  · rintro ⟨report, calls, same⟩
    have workspace : (realm.pipeline.precacheInOrder
        (realm.pipeline.precacheInOrder realm.workspace directory order).2 directory again).2 =
          { (realm.pipeline.precacheInOrder realm.workspace directory order).2 with calls } :=
      congrArg Realm.workspace same
    exact ⟨report, by rw [workspace]⟩
  · rintro ⟨report, workspace⟩
    refine ⟨report, (realm.pipeline.precacheInOrder
      (realm.pipeline.precacheInOrder realm.workspace directory order).2 directory again).2.calls,
      ?_⟩
    simp only [precacheInOrder, Realm.report, report]
    rw [workspace]

/-- A realm that starts on a manifest of its own has a cache that was built with its
configuration. -/
theorem built_start (host : Host) {workspace : Workspace MemoryFiles}
    (built : Pipeline.Built config workspace.cache)
    (listed : Pipeline.Listed config (fun _ => Pipeline.OwnManifest config) workspace)
    (fits : workspace.cache.Fits) :
    Pipeline.Built config
      (start (Pipeline.ofBackends config backends) host workspace.store).workspace.cache := by
  have own : ∀ cache, cache = workspace.cache ∨ Pipeline.OwnManifest config cache →
      Pipeline.OwnManifest config cache := by
    rintro cache (rfl | own)
    · exact ⟨fits, built⟩
    · exact own
  rcases start_of_listed host listed fun cache current => (own cache current).fits with
    empty | ⟨cache, current, read, restored⟩
  · rw [empty]
    exact .empty
  · let fresh : Workspace MemoryFiles := { store := workspace.store, watch := workspace.watch }
    have loaded : Pipeline.Built config
        ((Pipeline.ofBackends config backends).loadManifest fresh).2.cache :=
      .load .empty (own cache current).built _ read
    rw [Pipeline.loadManifest, read] at loaded
    rw [restored]
    exact loaded

section Runs

variable (directories : config.TidyDirectories) (host : Host) {events : List Event}

include directories

variable (backends) in
/-- After every run on tidy files the files have their directories, and the cache is consistent. -/
theorem housed_run (admits : ∀ event ∈ events, event.Admits Change.IsTidy) :
    let realm := (start (Pipeline.ofBackends config backends) host {}).run events
    realm.pipeline = Pipeline.ofBackends config backends ∧
      (realm.workspace.Tidy ∧ realm.workspace.cache.Consistent) ∧ realm.workspace.store.Housed := by
  have restarts {store : MemoryFiles} (scripts : store.TidyScripts) (housed : store.Housed)
      (host : Host) :
      let workspace := (start (Pipeline.ofBackends config backends) host store).workspace
      (workspace.Tidy ∧ workspace.cache.Consistent) ∧ workspace.store.Housed := by
    obtain ⟨_, _, consistent, files⟩ := start_spec (Pipeline.ofBackends config backends) host store
    refine ⟨⟨start_tidy _ host scripts, consistent⟩, ?_⟩
    rcases files with same | removed
    · rw [same]
      exact housed
    · rw [removed]
      exact housed.removeTree _
  exact holds_run_of_restarts (Pipeline.kept_housed directories) Pipeline.ignoresEvents_housed
    (fun holds tidy => ⟨⟨Change.tidy tidy holds.1.1, holds.1.2⟩, Change.housed holds.2 _⟩) rfl
    (restarts MemoryFiles.tidyScripts_empty MemoryFiles.housed_empty host) admits
    fun _ host _ holds => restarts holds.1.1.scripts holds.2 host

/-- After every run in which nobody else writes the manifest the cache was built with the
configuration. -/
theorem built_run (admits : ∀ event ∈ events, event.Admits (Change.IsOrdinary config))
    (fits : (start (Pipeline.ofBackends config backends) host {}).FitsAtRestarts events) :
    Pipeline.Built config
      ((start (Pipeline.ofBackends config backends) host {}).run events).workspace.cache := by
  have restarts {workspace : Workspace MemoryFiles} (host : Host)
      (holds : (workspace.Tidy ∧ Pipeline.Built config workspace.cache) ∧
        Pipeline.Listed config (fun _ => Pipeline.OwnManifest config) workspace)
      (fits : workspace.cache.Fits) :
      let started := (start (Pipeline.ofBackends config backends) host workspace.store).workspace
      (started.Tidy ∧ Pipeline.Built config started.cache) ∧
        Pipeline.Listed config (fun _ => Pipeline.OwnManifest config) started := by
    refine ⟨⟨start_tidy _ host holds.1.1.scripts, built_start host holds.1.2 holds.2 fits⟩,
      listed_start host holds.2 ?_⟩
    rintro cache (rfl | own)
    · exact ⟨fits, holds.1.2⟩
    · exact own
  have initial : (Workspace.Tidy { store := {}, watch := { debounceMs := config.debounceMs } } ∧
      Pipeline.Built config .empty) ∧ Pipeline.Listed config (fun _ => Pipeline.OwnManifest config)
        { store := {}, watch := { debounceMs := config.debounceMs } } :=
    ⟨⟨Workspace.tidy_of_scripts MemoryFiles.tidyScripts_empty _, .empty⟩, .inl (by simp)⟩
  exact (holds_run (Pipeline.kept_built directories) Pipeline.ignoresEvents_built
    (fun holds ordinary => ⟨⟨Change.tidy ordinary.1 holds.1.1, holds.1.2⟩,
      holds.2.of_spared rfl (Change.sparesManifest ordinary _) fun _ own => own⟩)
    rfl (restarts host initial Cache.fits_empty) admits restarts fits).2.1.2

end Runs

section Passes

variable {realm : Realm MemoryFiles} {directory : String}
  {first second : Pipeline.Report × Realm MemoryFiles}
  (directories : config.TidyDirectories)
  (same : realm.pipeline = Pipeline.ofBackends config backends)
  (tidy : realm.workspace.Tidy) (inner : directory = "" ∨ Normal directory)
  (distinct : ((realm.pipeline.scriptsBelow realm.workspace.store directory).map
    fun script => Path.normalize (Path.output script)).Nodup)
  (passed : realm.Precaches directory first)

include directories same tidy inner distinct passed

/-- A second pass repeats the first one exactly if the artifacts that were reported are still there,
whatever order either pass takes. -/
theorem repeats_iff_kept (consistent : realm.workspace.cache.Consistent)
    (housed : realm.workspace.store.Housed) (passedAgain : first.2.Precaches directory second) :
    Repeats first second ↔ ∀ artifact ∈ first.1.compiled,
    artifact ∈ first.2.workspace.cache.artifacts := by
  obtain ⟨order, ordered, rfl⟩ := passed
  obtain ⟨again, orderedAgain, rfl⟩ := passedAgain
  obtain ⟨_, host, workspace, included, diagnostics, ran⟩ := realm
  cases same
  rw [repeats_iff]
  have still := Pipeline.scriptsBelow_precacheInOrder backends directories housed inner order
  exact Pipeline.repeats_iff_kept backends
    (Pipeline.batch_scriptsBelow directories tidy inner distinct) consistent
    ordered (orderedAgain.trans (.of_eq still)) rfl still

/-- The artifacts that are reported stay in a cache that was built with the configuration. -/
theorem kept_of_built (relative : HostPath.isAbsolute config.cacheRoot = false)
    (built : Pipeline.Built config realm.workspace.cache) :
    ∀ artifact ∈ first.1.compiled, artifact ∈ first.2.workspace.cache.artifacts := by
  obtain ⟨order, ordered, rfl⟩ := passed
  obtain ⟨_, host, workspace, included, diagnostics, ran⟩ := realm
  cases same
  exact fun artifact reported =>
    Pipeline.mem_artifacts_of_identified backends relative built.identified
    (Pipeline.batch_scriptsBelow directories tidy inner distinct) ordered rfl reported

end Passes

/-- Precaching a directory a second time, after every run on files with normal paths. The scripts of
the directory may be compiled in any order in both passes, as long as their code has different
names. The second pass repeats the first one exactly if every artifact that was reported is still in
the cache after the first. It always does if nobody but the program has written the manifest. -/
theorem precaching_again_repeats_iff (directories : config.TidyDirectories) (backends : Backends)
    (host : Host) {events : List Event} (admits : ∀ event ∈ events, event.Admits Change.IsTidy)
    {directory : String} (inner : directory = "" ∨ Normal directory) :
    let realm := (start (Pipeline.ofBackends config backends) host {}).run events
    ((realm.pipeline.scriptsBelow realm.workspace.store directory).map
      fun script => Path.normalize (Path.output script)).Nodup →
    (∀ later : Realm MemoryFiles, later.Precaches directory (later.precacheDirectory directory)) ∧
    ∀ first second, realm.Precaches directory first → first.2.Precaches directory second →
      (Repeats first second ↔ ∀ artifact ∈ first.1.compiled,
        artifact ∈ first.2.workspace.cache.artifacts) ∧
      (HostPath.isAbsolute config.cacheRoot = false →
        (∀ event ∈ events, event.Admits (Change.IsOrdinary config)) →
        (start (Pipeline.ofBackends config backends) host {}).FitsAtRestarts events →
        Repeats first second) := by
  intro realm distinct
  obtain ⟨same, ⟨tidy, consistent⟩, housed⟩ := housed_run backends directories host admits
  refine ⟨fun later => precaches_precacheDirectory later directory,
    fun first second passed passedAgain => ?_⟩
  have exactly :=
    repeats_iff_kept directories same tidy inner distinct passed consistent housed passedAgain
  refine ⟨exactly, fun relative ordinary fits => exactly.mpr ?_⟩
  have built := built_run directories host ordinary fits
  exact kept_of_built directories same tidy inner distinct passed relative built

/-- An artifact is taken over from an earlier realm, and beside its script there are one that is
new, one that is empty and one that the backend refuses. -/
def mixture : List Event :=
  [.change (.addFile "l/d/a.moon" (Text.utf8 "x")), .request (.compile "d/a.moon" false), .restart,
    .change (.addFile "l/d/b.yue" (Text.utf8 "y")), .change (.addFile "l/d/e.moon" []),
    .change (.addFile "l/d/f.moon" (Text.utf8 "!!"))]

/-- After `mixture` two artifacts and two errors are reported, and again in a second pass. -/
theorem precaching_mixture_repeats :
    let realm :=
      (start (Pipeline.ofBackends sampleConfig sampleBackends) ⟨fun _ => true⟩ {}).run mixture
    let first := realm.precacheDirectory "d"
    first.1.compiled.map (·.outputPath) = ["d/a.lua", "d/b.lua"] ∧ first.1.failed.length = 2 ∧
      Repeats first (first.2.precacheDirectory "d") := by
  have normal : Normal "d" := by decide +kernel
  have relative : HostPath.isAbsolute sampleConfig.cacheRoot = false := by decide +kernel
  have admits : ∀ event ∈ mixture, event.Admits (Change.IsOrdinary sampleConfig) := by
    decide +kernel
  have foreign : ∀ event ∈ mixture.take 2, event.Admits (Change.IsForeign sampleConfig) := by
    decide +kernel
  have tidy : ∀ event ∈ mixture, event.Admits Change.IsTidy := by decide +kernel
  have fits : (start (Pipeline.ofBackends sampleConfig sampleBackends) ⟨fun _ => true⟩
      {}).FitsAtRestarts mixture := by
    decide +kernel
  have resumed :
      (start (Pipeline.ofBackends sampleConfig sampleBackends) ⟨fun _ => true⟩ {}).run mixture =
        (resume ((start (Pipeline.ofBackends sampleConfig sampleBackends) ⟨fun _ => true⟩ {}).run
          (mixture.take 2))).run (mixture.drop 3) :=
    sample_append_restart (mixture.take 2) (mixture.drop 3) foreign fits
  have reported :
      let realm :=
        (start (Pipeline.ofBackends sampleConfig sampleBackends) ⟨fun _ => true⟩ {}).run mixture
      let first := realm.precacheDirectory "d"
      first.1.compiled.map (·.outputPath) = ["d/a.lua", "d/b.lua"] ∧ first.1.failed.length = 2 ∧
        ((realm.pipeline.scriptsBelow realm.workspace.store "d").map
          fun script => Path.normalize (Path.output script)).Nodup := by
    rw [resumed]
    decide +kernel
  obtain ⟨passes, again⟩ :=
    precaching_again_repeats_iff tidyDirectories_sampleConfig sampleBackends ⟨fun _ => true⟩ tidy
      (.inr normal) reported.2.2
  exact ⟨reported.1, reported.2.1, (again _ _ (passes _) (passes _)).2 relative admits fits⟩

def misplaced : Manifest where
  version := Manifest.currentVersion
  fingerprint := sampleConfig.compileOptions.fingerprint
  artifacts := [Cache.bare "a.moon" "b.lua" 9]

/-- Two scripts are added, with the code and that manifest. -/
def misplacing : List Event :=
  [.change (.addFile "l/a.moon" (Text.utf8 "x")), .change (.addFile "l/b.moon" (Text.utf8 "y")),
    .change (.addFile "c/b.lua" (Text.utf8 "z")),
    .change (.addFile (Manifest.path sampleConfig.outputRoot) misplaced.encode), .restart]

/-- After `misplacing` the artifact of the first script is displaced in the first pass, and another
one is made in the second. -/
theorem misplaced_artifact_replaced :
    let realm := sample.run misplacing
    let first := realm.precacheDirectory ""
    (∀ event ∈ misplacing, event.Admits Change.IsTidy) ∧
      ((realm.pipeline.scriptsBelow realm.workspace.store "").map
        fun script => Path.normalize (Path.output script)).Nodup ∧
      first.1.compiled.map (·.fullOutputPath) = ["c/b.lua", "c/b.lua"] ∧
      (first.2.precacheDirectory "").1.compiled.map (·.fullOutputPath) =
        ["c/a.lua", "c/b.lua"] := by
  have fits : misplaced.Fits :=
    ⟨by decide +kernel, Manifest.fitsText_fingerprint _, by decide +kernel, by decide +kernel⟩
  have read (store : MemoryFiles) : (Pipeline.ofBackends sampleConfig sampleBackends).readManifest
      (store.addFile (Manifest.path sampleConfig.outputRoot) misplaced.encode) = .ok misplaced := by
    have present : (store.addFile (Manifest.path sampleConfig.outputRoot) misplaced.encode).files[
        Manifest.path sampleConfig.outputRoot]? = some ⟨misplaced.encode, store.nextTime⟩ :=
      Std.ExtTreeMap.getElem?_insert_self
    exact Pipeline.readManifest_of_encoded sampleBackends present fits rfl rfl
  have started (realm : Realm MemoryFiles) : realm.run misplacing = start realm.pipeline realm.host
      ((realm.run (misplacing.take 3)).workspace.store.addFile
        (Manifest.path sampleConfig.outputRoot) misplaced.encode) :=
    rfl
  have same : sample.pipeline = Pipeline.ofBackends sampleConfig sampleBackends := rfl
  rw [started, same, start_of_read rfl _ (read _)]
  decide +kernel

end Realm

end DialectLoader
