import DialectLoader.Proofs.Cache.Persistence
import DialectLoader.Proofs.Realm.Run

/-!
# Starting on any manifest

Whatever bytes stand where the manifest should be, a realm starts in one of three ways: with nothing
to take over, with the cache root removed, or with the artifacts of a manifest that can be trusted.
What such a manifest lists need not have come from a cache. Its entries may share sources and
outputs in any pattern. They are stored one after another, and each displaces the earlier ones that
share its source or its output; the ones that are left at the end are those that no later entry
displaces.

Files come about by changes from outside, so their directories are there. What a realm writes to its
log when it starts is left out.
-/

namespace DialectLoader

namespace Cache

variable {cache : Cache} {found artifact : Artifact}

theorem Consistent.mem_artifacts_insert_iff (consistent : cache.Consistent) :
    found ∈ (cache.insert artifact).artifacts ↔
      (found ∈ cache.artifacts ∧ Apart found artifact) ∨ found = artifact := by
  simp only [mem_artifacts, bySource_insert_iff_apart consistent]
  constructor
  · rintro ⟨key, ⟨kept, apart⟩ | ⟨rfl, _⟩⟩
    · exact .inl ⟨⟨key, kept⟩, apart⟩
    · exact .inr rfl
  · rintro (⟨⟨key, kept⟩, apart⟩ | rfl)
    · exact ⟨key, .inl ⟨kept, apart⟩⟩
    · exact ⟨found.sourceKey, .inr ⟨rfl, rfl⟩⟩

/-- Of artifacts that are stored one after another those are left that no later one displaces. The
artifacts need not be apart from each other. -/
theorem Consistent.mem_foldl_insert_iff (consistent : cache.Consistent) {stored : List Artifact} :
    found ∈ (stored.foldl Cache.insert cache).artifacts ↔
      (found ∈ cache.artifacts ∧ ∀ later ∈ stored, Apart found later) ∨
        ∃ before after, stored = before ++ found :: after ∧ ∀ later ∈ after, Apart found later := by
  induction stored generalizing cache with
  | nil => simp
  | cons first rest ih =>
    rw [List.foldl_cons, ih (consistent.insert first),
      consistent.mem_artifacts_insert_iff, List.forall_mem_cons]
    constructor
    · rintro (⟨⟨kept, apart⟩ | rfl, others⟩ | ⟨before, after, rfl, others⟩)
      · exact .inl ⟨kept, apart, others⟩
      · exact .inr ⟨[], rest, rfl, others⟩
      · exact .inr ⟨first :: before, after, rfl, others⟩
    · rintro (⟨kept, apart, others⟩ | ⟨before, after, split, others⟩)
      · exact .inl ⟨.inl ⟨kept, apart⟩, others⟩
      · cases before with
        | nil =>
          obtain ⟨rfl, rfl⟩ := List.cons.inj split
          exact .inl ⟨.inr rfl, others⟩
        | cons _ before =>
          obtain ⟨rfl, rfl⟩ := List.cons.inj split
          exact .inr ⟨before, after, rfl, others⟩

theorem Apart.irrefl : ¬ Apart artifact artifact :=
  fun apart => apart.1 rfl

/-- Of artifacts that are stored one after another, one is left as the last of its kind exactly if
no later one displaces it. -/
theorem mem_foldl_insert_split_iff {before after : List Artifact} :
    artifact ∈ ((before ++ artifact :: after).foldl Cache.insert empty).artifacts ∧
      artifact ∉ after ↔ ∀ later ∈ after, Apart artifact later := by
  constructor
  · rintro ⟨live, last⟩
    have consistent := (represents_empty.foldl_insert before).consistent.insert artifact
    rw [List.foldl_append, List.foldl_cons, consistent.mem_foldl_insert_iff] at live
    rcases live with ⟨_, apart⟩ | ⟨_, _, rfl, _⟩
    · exact apart
    · simp at last
  · intro apart
    refine ⟨consistent_empty.mem_foldl_insert_iff.mpr (.inr ⟨before, after, rfl, apart⟩),
      fun member => ?_⟩
    exact Apart.irrefl (apart artifact member)

theorem mem_of_mem_restore {stored : List Artifact} {keep : Artifact → Bool}
    (live : artifact ∈ (empty.restore stored keep).2.artifacts) :
    artifact ∈ stored ∧ keep artifact = true := by
  change artifact ∈ ((stored.filter keep).foldl Cache.insert empty).artifacts at live
  rcases consistent_empty.mem_foldl_insert_iff.mp live with ⟨before, _⟩ | ⟨before, after, split, _⟩
  · obtain ⟨key, there⟩ := mem_artifacts.mp before
    simp [empty] at there
  · exact List.mem_filter.mp (split ▸ List.mem_append_right before List.mem_cons_self)

end Cache

/-- Why the bytes of a manifest cannot be trusted: they are none, of another version, or of other
options. -/
inductive Config.Rejects (config : Config) (bytes : Bytes) : Prop where
  | malformed (unreadable : Manifest.decode? bytes = none)
  | otherVersion {manifest : Manifest} (read : Manifest.decode? bytes = some manifest)
      (other : manifest.version ≠ Manifest.currentVersion)
  | otherOptions {manifest : Manifest} (read : Manifest.decode? bytes = some manifest)
      (other : manifest.fingerprint ≠ config.compileOptions.fingerprint)

/-- The bytes of a manifest that can be trusted, with the manifest that they stand for. -/
structure Config.Accepts (config : Config) (bytes : Bytes) (manifest : Manifest) : Prop where
  read : Manifest.decode? bytes = some manifest
  version : manifest.version = Manifest.currentVersion
  fingerprint : manifest.fingerprint = config.compileOptions.fingerprint

theorem Config.Accepts.not_rejects {config : Config} {bytes : Bytes} {manifest : Manifest}
    (accepts : config.Accepts bytes manifest) : ¬ config.Rejects bytes := by
  rintro (unreadable | ⟨read, other⟩ | ⟨read, other⟩)
  · rw [accepts.read] at unreadable
    cases unreadable
  · cases accepts.read.symm.trans read
    exact other accepts.version
  · cases accepts.read.symm.trans read
    exact other accepts.fingerprint

/-- What reading the manifest can come to: there is none, or it is rejected or accepted. -/
inductive Pipeline.Reads (config : Config) (store : MemoryFiles) :
    Except ManifestError Manifest → Prop where
  | absent (none : store.files[Manifest.path config.outputRoot]? = none) : Reads config store
    (.error .absent)
  | rejected {file : StoredFile} {error : ManifestError}
      (found : store.files[Manifest.path config.outputRoot]? = some file)
        (rejects : config.Rejects file.contents)
      (present : error ≠ .absent) : Reads config store (.error error)
  | accepted {file : StoredFile} {manifest : Manifest}
      (found : store.files[Manifest.path config.outputRoot]? = some file)
      (accepts : config.Accepts file.contents manifest) : Reads config store (.ok manifest)

/-- Whatever reading the manifest comes to is one of these three, on any files in memory. -/
theorem Pipeline.readManifest_reads (pipeline : Pipeline MemoryFiles) (store : MemoryFiles) :
    Reads pipeline.config store (pipeline.readManifest store) := by
  have isFile : FileStore.isFile store (Manifest.path pipeline.config.outputRoot) =
      store.files[Manifest.path pipeline.config.outputRoot]?.isSome :=
    Std.ExtTreeMap.contains_eq_isSome_getElem?
  simp only [readManifest, isFile]
  cases found : store.files[Manifest.path pipeline.config.outputRoot]? with
  | none => exact .absent found
  | some file =>
    have bytes : FileStore.read store (Manifest.path pipeline.config.outputRoot) =
        .ok file.contents := by
      change store.read _ = _
      rw [MemoryFiles.read, found]
    simp only [Option.isSome_some, if_true, bytes]
    split
    · rename_i unreadable
      exact .rejected found (.malformed unreadable) (by simp)
    · rename_i manifest read
      split <;> rename_i version
      · exact .rejected found (.otherVersion read (by simpa [Manifest.isCompatible] using version))
          (by simp)
      · split <;> rename_i options
        · exact .rejected found (.otherOptions read (by simpa using options)) (by simp)
        · exact .accepted found
            ⟨read, by simpa [Manifest.isCompatible] using version, by simpa using options⟩

namespace Realm

theorem Change.housed {store : MemoryFiles} (housed : store.Housed) (change : Change) :
    (change.apply store).Housed := by
  cases change with
  | addFile path contents => exact housed.addFile path contents
  | touch path => exact housed.touch path
  | write path contents => exact housed.write path contents
  | createDirectories directory => exact housed.createDirectories directory
  | removeTree directory => exact housed.removeTree directory
  | setReadOnly value => exact housed.of_same (fun _ file => file) rfl

theorem housed_changes (changes : List Change) : (changes.foldl Change.apply {}).Housed := by
  induction changes using List.reverseRecOn with
  | nil => exact MemoryFiles.housed_empty
  | append_singleton before change ih =>
    rw [List.foldl_append]
    exact change.housed ih

/-- Purging removes the files below the cache root, whether its directory is there or not, and no
others. -/
theorem purge_files {config : Config} (rooted : config.outputRoot ≠ "") {store : MemoryFiles}
    (housed : store.Housed) (path : String) :
    (Logical.purge store config.outputRoot).2.files[path]? =
      if MemoryFiles.isBelow config.outputRoot path then none else store.files[path]? := by
  rcases purge_cases store config.outputRoot with ⟨missing, same⟩ | removed
  · rw [Pipeline.trimEnd_outputRoot] at missing
    rw [same]
    split
    · rename_i below
      exact housed.getElem?_of_missing rooted missing below
    · rfl
  · rw [removed, MemoryFiles.removeTree_files, Pipeline.trimEnd_outputRoot]

/-- How a realm with a cache root starts, on any files and with any bytes where its manifest should
be. Without a manifest it starts with an empty cache and leaves the files alone. If it is told to,
or if the manifest cannot be trusted, it starts with an empty cache and nothing is left below the
cache root. From a manifest that can be trusted it takes over the entries whose code is there and
that no later one of these displaces; it leaves the files alone, and its cache is consistent. -/
theorem start_outcomes (config : Config) (backends : Backends) (host : Host)
    (rooted : config.outputRoot ≠ "") (changes : List Change) :
    let store := changes.foldl Change.apply {}
    let saved := store.files[Manifest.path config.outputRoot]?
    let workspace := (start (Pipeline.ofBackends config backends) host store).workspace
    (config.purgeOnStart = false ∧ saved = none ∧ workspace.cache = .empty ∧
      workspace.store = store) ∨
    ((config.purgeOnStart = true ∨ ∃ file, saved = some file ∧ config.Rejects file.contents) ∧
      workspace.cache = .empty ∧
      ∀ path, workspace.store.files[path]? =
        if MemoryFiles.isBelow config.outputRoot path then none else store.files[path]?) ∨
    ∃ file manifest, config.purgeOnStart = false ∧ saved = some file ∧
      config.Accepts file.contents manifest ∧ workspace.store = store ∧ workspace.cache.Consistent ∧
      (∀ artifact ∈ workspace.cache.artifacts,
        artifact ∈ manifest.artifacts ∧ artifact.fullOutputPath ∈ store.files) ∧
      ∀ before artifact after,
        manifest.artifacts.filter (FileStore.isFile store ·.fullOutputPath) =
          before ++ artifact :: after →
        (artifact ∈ workspace.cache.artifacts ∧ artifact ∉ after ↔ ∀ later ∈ after,
          Cache.Apart artifact later) := by
  intro store saved workspace
  have reads : Pipeline.Reads config store _ :=
    (Pipeline.ofBackends config backends).readManifest_reads store
  rcases start_cases (Pipeline.ofBackends config backends) host store with
    ⟨manifest, unasked, read, started⟩ | ⟨unasked, read, started⟩ | ⟨reason, started⟩
  · right; right
    rw [read] at reads
    cases reads with
    | @accepted file _ found accepts =>
      have restored : workspace.cache = (Cache.empty.restore manifest.artifacts
          (FileStore.isFile store ·.fullOutputPath)).2 := congrArg Workspace.cache started
      refine ⟨file, manifest, unasked, found, accepts, congrArg Workspace.store started, ?_, ?_, ?_⟩
      · rw [restored]
        exact Cache.consistent_empty.restore _ _
      · intro artifact live
        rw [restored] at live
        obtain ⟨listed, there⟩ := Cache.mem_of_mem_restore live
        exact ⟨listed, Std.ExtTreeMap.contains_iff_mem.mp there⟩
      · intro before artifact after split
        rw [restored, Cache.restore, split]
        exact Cache.mem_foldl_insert_split_iff
  · left
    rw [read] at reads
    cases reads with
    | absent none =>
      exact ⟨unasked, none, congrArg Workspace.cache started, congrArg Workspace.store started⟩
    | rejected _ _ present => exact absurd rfl present
  · right; left
    have purged : workspace.store = (Logical.purge store config.outputRoot).2 :=
      congrArg Workspace.store started
    refine ⟨reason.imp_right ?_, congrArg Workspace.cache started, fun path => ?_⟩
    · rintro ⟨error, read, present⟩
      rw [read] at reads
      cases reads with
      | absent => exact absurd rfl present
      | rejected found rejects => exact ⟨_, found, rejects⟩
    · rw [purged]
      exact purge_files rooted (housed_changes changes) path

/-- A manifest whose second entry has the source of the first, whose third has the output of the
second, and whose last has the source of the third but no code. -/
def contested : Manifest where
  version := Manifest.currentVersion
  fingerprint := sampleConfig.compileOptions.fingerprint
  artifacts :=
    [Cache.bare "a.moon" "x.lua" 1, Cache.bare "A.moon" "y.lua" 2, Cache.bare "b.moon" "Y.lua" 3,
    Cache.bare "B.moon" "z.lua" 4]

/-- The code of the first three entries is added, and the manifest. -/
def contestedChanges : List Change :=
  [.addFile "c/x.lua" [], .addFile "c/y.lua" [], .addFile "c/Y.lua" [],
    .addFile (Manifest.path sampleConfig.outputRoot) contested.encode]

/-- A realm that starts on this manifest takes over the third entry only. -/
theorem contested_start_outcomes :
    let cache := (start (.ofBackends sampleConfig sampleBackends) ⟨fun _ => true⟩
      (contestedChanges.foldl Change.apply {})).workspace.cache
    cache.Consistent ∧ Cache.bare "a.moon" "x.lua" 1 ∉ cache.artifacts ∧
      Cache.bare "A.moon" "y.lua" 2 ∉ cache.artifacts ∧
        Cache.bare "b.moon" "Y.lua" 3 ∈ cache.artifacts ∧
      Cache.bare "B.moon" "z.lua" 4 ∉ cache.artifacts := by
  intro cache
  have fits : contested.Fits := by
    refine ⟨by decide, Manifest.fitsText_fingerprint _, by decide, ?_⟩
    decide +kernel
  have saved :
      (contestedChanges.foldl Change.apply {}).files[Manifest.path sampleConfig.outputRoot]? =
        some ⟨contested.encode, ⟨4, 0⟩⟩ := by
    simp [contestedChanges, Change.apply, MemoryFiles.addFile, MemoryFiles.nextTime]
  have trusted : sampleConfig.Accepts contested.encode contested :=
    ⟨Manifest.decode?_encode fits, rfl, rfl⟩
  rcases start_outcomes sampleConfig sampleBackends ⟨fun _ => true⟩
    (by decide) contestedChanges with
    ⟨_, absent, _⟩ | ⟨reason, _⟩ | ⟨file, manifest, _, found, accepts, _, consistent, listed, live⟩
  · rw [saved] at absent
    cases absent
  · rcases reason with asked | ⟨file, found, rejects⟩
    · cases asked
    · cases saved.symm.trans found
      exact absurd rejects trusted.not_rejects
  · cases saved.symm.trans found
    cases trusted.read.symm.trans accepts.read
    have withCode : contested.artifacts.filter
        (FileStore.isFile (contestedChanges.foldl Change.apply {}) ·.fullOutputPath) =
          contested.artifacts.take 3 := by
      rfl
    refine ⟨consistent, fun there => ?_, fun there => ?_, ?_, fun there => ?_⟩
    · have apart := (live [] _ _ withCode).mp ⟨there, by decide +kernel⟩
      exact absurd (apart (Cache.bare "A.moon" "y.lua" 2) List.mem_cons_self) (by decide +kernel)
    · have apart :=
        (live [Cache.bare "a.moon" "x.lua" 1] _ _ withCode).mp ⟨there, by decide +kernel⟩
      exact absurd (apart (Cache.bare "b.moon" "Y.lua" 3) List.mem_cons_self) (by decide +kernel)
    · have last := live (contested.artifacts.take 2) _ [] withCode
      exact (last.mpr fun _ member => absurd member List.not_mem_nil).1
    · have code := (listed _ there).2
      exact absurd (Std.ExtTreeMap.contains_iff_mem.mpr code) (by decide +kernel)

end Realm

end DialectLoader
