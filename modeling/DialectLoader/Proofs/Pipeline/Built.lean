import DialectLoader.Proofs.Pipeline.Effect

/-!
# Caches of one configuration

Whatever compiles scripts, and whatever it does to the files meanwhile, a compilation changes the
cache in one way only: it stores the artifact that it returns. Where the code of an artifact is
depends on the configuration and on the logical path alone. So in a cache that was built with one
configuration, all code is where that configuration puts it.

Compilers are arbitrary here and may change files as they please. Only the place of the code is
concluded, not what is in it, nor that it is still there.
-/

namespace DialectLoader.Pipeline

section Caching

variable {σ : Type} [FileStore σ]

/-- What compiling a script can do to the cache: nothing if it fails or if an artifact is reused,
and otherwise the artifact is stored that is returned. -/
inductive Caching (pipeline : Pipeline σ) (cache : Cache) (logical : String) :
    Except CompileError (Artifact × Bool) → Cache → Prop where
  | failed (error : CompileError) : Caching pipeline cache logical (.error error) cache
  | reused {artifact : Artifact} (found : cache.lookup logical = some artifact) :
      Caching pipeline cache logical (.ok (artifact, false)) cache
  | recorded (store : σ) (dialect : Dialect) (signal : Signal) (lineMap : LineMap) :
      Caching pipeline cache logical
        (.ok (pipeline.artifact store logical dialect signal lineMap, true))
        (cache.insert (pipeline.artifact store logical dialect signal lineMap))

/-- Compiling a script that is due stores its artifact or fails, whatever the compiler does to the
files. -/
theorem recompile_caching (pipeline : Pipeline σ) (workspace : Workspace σ) (logical : String)
    (dialect : Dialect) (signal : Signal) :
    Caching pipeline workspace.cache logical
      ((pipeline.recompile workspace logical dialect signal).1.map (·, true))
      (pipeline.recompile workspace logical dialect signal).2.cache := by
  unfold recompile
  split
  · exact .failed _
  · dsimp only
    split
    · exact .failed _
    · split
      · exact .failed _
      · exact .recorded _ _ _ _

/-- Whatever compiling does to the cache is one of these three: it fails, reuses an artifact or
stores one. -/
theorem compileUnsaved_caching (pipeline : Pipeline σ) (workspace : Workspace σ) (logical : String)
    (force : Bool) :
    Caching pipeline workspace.cache logical (pipeline.compileUnsaved workspace logical force).1
      (pipeline.compileUnsaved workspace logical force).2.cache := by
  unfold compileUnsaved
  split
  · exact .failed _
  · rename_i dialect _
    split
    · exact .failed _
    · rename_i signal _
      dsimp only
      split
      · rename_i artifact fresh
        split at fresh
        · cases fresh
        · exact .reused fresh
      · have again := recompile_caching pipeline workspace logical dialect signal
        generalize pipeline.recompile workspace logical dialect signal = done at again ⊢
        obtain ⟨_ | artifact, changed⟩ := done
        · exact again
        · exact again

theorem persist_cache (pipeline : Pipeline σ) (workspace : Workspace σ) :
    (pipeline.persist workspace).cache = workspace.cache := by
  unfold persist saveManifest
  split
  · dsimp only
    split
    · rfl
    · split <;> rfl
  · rfl

/-- A compilation that writes the manifest does to the cache what it does without, and has the same
result. -/
theorem compile_caching (pipeline : Pipeline σ) (workspace : Workspace σ) (logical : String)
    (force : Bool) :
    ∃ result,
      Caching pipeline workspace.cache logical result
        (pipeline.compile workspace logical force).2.cache ∧
      (pipeline.compile workspace logical force).1 = result.map (·.1) := by
  have caching := compileUnsaved_caching pipeline workspace logical force
  unfold Pipeline.compile
  generalize pipeline.compileUnsaved workspace logical force = done at caching ⊢
  obtain ⟨_ | ⟨artifact, compiled⟩, changed⟩ := done
  · exact ⟨_, caching, rfl⟩
  · refine ⟨.ok (artifact, compiled), ?_, rfl⟩
    cases compiled with
    | true =>
      dsimp only
      rw [if_pos rfl, persist_cache]
      exact caching
    | false => exact caching

/-- What is no script is not compiled, and nothing is changed by asking for it. -/
theorem compileUnsaved_of_foreign (pipeline : Pipeline σ) (workspace : Workspace σ)
    {logical : String} (foreign : Dialect.ofPath? logical = none) (force : Bool) :
    pipeline.compileUnsaved workspace logical force =
      (.error (.unsupportedDialect logical), workspace) := by
  rw [compileUnsaved, foreign]

end Caching

section Filled

variable {σ : Type} [FileStore σ] {pipeline : Pipeline σ} {property : Artifact → Prop}
  (made : ∀ (store : σ) {logical : String} (dialect : Dialect) (signal : Signal)
      (lineMap : LineMap),
    (Dialect.ofPath? logical).isSome = true →
    property (pipeline.artifact store logical dialect signal lineMap))
  {workspace : Workspace σ} (filled : workspace.cache.Filled property)

include made filled

/-- What all artifacts have that a pipeline makes, the artifacts in the cache keep having when a
script is compiled. -/
theorem filled_compileUnsaved (logical : String) (force : Bool) :
    (pipeline.compileUnsaved workspace logical force).2.cache.Filled property := by
  cases known : Dialect.ofPath? logical with
  | none =>
    rw [compileUnsaved_of_foreign pipeline workspace known]
    exact filled
  | some dialect =>
    have caching := compileUnsaved_caching pipeline workspace logical force
    generalize (pipeline.compileUnsaved workspace logical force).1 = result at caching
    generalize (pipeline.compileUnsaved workspace logical force).2.cache = changed at caching ⊢
    cases caching with
    | failed => exact filled
    | reused => exact filled
    | recorded store dialect signal lineMap =>
      exact filled.insert (made store dialect signal lineMap (by rw [known]; rfl))

/-- What all artifacts have that a pipeline makes, the artifacts in the cache keep having when a
script is compiled and the manifest is written. -/
theorem filled_compile (logical : String) (force : Bool) :
    (pipeline.compile workspace logical force).2.cache.Filled property := by
  have compiled := filled_compileUnsaved made filled logical force
  unfold Pipeline.compile
  generalize pipeline.compileUnsaved workspace logical force = done at compiled
  obtain ⟨_ | ⟨artifact, _ | _⟩, changed⟩ := done
  · exact compiled
  · exact compiled
  · dsimp only
    rw [if_pos rfl, persist_cache]
    exact compiled

/-- What all artifacts have that a pipeline makes, the artifacts in the cache keep having when a
directory is compiled. -/
theorem filled_precacheDirectory (directory : String) :
    (pipeline.precacheDirectory workspace directory).2.cache.Filled property := by
  refine holds_precacheDirectory (P := fun workspace => workspace.cache.Filled property)
    (fun filled logical _ => filled_compileUnsaved made filled logical false)
      (fun filled => ?_) filled
  rw [persist_cache]
  exact filled

end Filled

/-- Where the code of a script is, from the root. Files in memory know it from the configuration and
the logical path. -/
def codePath (config : Config) (logical : String) : String :=
  rootRelative ({} : MemoryFiles) (Path.join config.outputRoot (Path.output logical))

/-- The artifact of a script says where its code is; the files have no part in it. -/
theorem artifact_fullOutputPath (pipeline : Pipeline MemoryFiles) (store : MemoryFiles)
    (logical : String) (dialect : Dialect) (signal : Signal) (lineMap : LineMap) :
    (pipeline.artifact store logical dialect signal lineMap).fullOutputPath =
      codePath pipeline.config logical := by
  have anyStore (path : String) :
      rootRelative store path = rootRelative ({} : MemoryFiles) path := by
    simp only [rootRelative, FileStore.relative?, FileStore.absolute, MemoryFiles.relative?,
      MemoryFiles.absolute]
  rw [artifact, codePath, ← anyStore, target]

/-- The path of code below a relative cache root is spelled from the root as it is joined. An
absolute root would be cut off first. -/
theorem codePath_eq {config : Config} (relative : HostPath.isAbsolute config.cacheRoot = false)
    (logical : String) :
    codePath config logical = Path.fromRoot (Path.join config.outputRoot (Path.output logical)) :=
  MemoryFiles.rootRelative_of_relative _ (Path.isAbsolute_join (Path.isAbsolute_trimEnd relative) _)

/-- The path of code has the segments of the cache root and then those of its path below it. By
these code is told apart. -/
theorem segments_codePath {config : Config}
    (relative : HostPath.isAbsolute config.cacheRoot = false) (logical : String) :
    Path.segments (codePath config logical).toList =
      Path.segments config.cacheRoot.toList ++ Path.segments (Path.output logical).toList := by
  rw [codePath_eq relative, Path.segments_fromRoot, Path.segments_join, Config.outputRoot,
    Path.segments_trimEnd]

/-- Caches that come about with one configuration: by compiling scripts and directories, on any
files and with any compiler each time, and by loading the manifest of such a cache. -/
inductive Built (config : Config) : Cache → Prop where
  | empty : Built config .empty
  | compile {workspace : Workspace MemoryFiles} (built : Built config workspace.cache)
      (compiler : Compiler MemoryFiles) (logical : String) (force : Bool) :
      Built config
        ((⟨config, compiler⟩ : Pipeline MemoryFiles).compile workspace logical force).2.cache
  | precache {workspace : Workspace MemoryFiles} (built : Built config workspace.cache)
      (compiler : Compiler MemoryFiles) (directory : String) :
      Built config
        ((⟨config, compiler⟩ : Pipeline MemoryFiles).precacheDirectory workspace directory).2.cache
  | load {workspace : Workspace MemoryFiles} {earlier : Cache} {fingerprint : String}
      (built : Built config workspace.cache) (saved : Built config earlier)
        (compiler : Compiler MemoryFiles)
      (read : (⟨config, compiler⟩ : Pipeline MemoryFiles).readManifest workspace.store =
        .ok (Manifest.ofCache earlier fingerprint)) :
      Built config ((⟨config, compiler⟩ : Pipeline MemoryFiles).loadManifest workspace).2.cache

/-- A consistent cache in which all code is where a configuration puts it. -/
structure Placed (config : Config) (cache : Cache) : Prop where
  consistent : cache.Consistent
  code : ∀ artifact ∈ cache.artifacts, artifact.fullOutputPath = codePath config artifact.sourcePath

variable {config : Config} {cache changed : Cache} {compiler : Compiler MemoryFiles}
    {logical : String}
  {result : Except CompileError (Artifact × Bool)}

/-- Compiling puts code where the configuration says, and leaves what it does not displace. -/
theorem Placed.caching (placed : Placed config cache)
    (caching : Caching (⟨config, compiler⟩ : Pipeline MemoryFiles) cache logical result changed) :
    Placed config changed := by
  cases caching with
  | failed => exact placed
  | reused => exact placed
  | recorded store dialect signal lineMap =>
    refine ⟨placed.consistent.insert _, fun artifact live => ?_⟩
    rcases placed.consistent.mem_artifacts_insert live with rfl | before
    · exact artifact_fullOutputPath _ store logical dialect signal lineMap
    · exact placed.code artifact before

/-- An artifact that is returned is in the cache, be it a new one or one that is reused. -/
theorem Placed.mem_of_caching (placed : Placed config cache) {artifact : Artifact} {compiled : Bool}
    (caching : Caching (⟨config, compiler⟩ : Pipeline MemoryFiles) cache logical
      (.ok (artifact, compiled)) changed) :
    artifact ∈ changed.artifacts := by
  cases caching with
  | reused found => exact Cache.mem_artifacts.mpr ⟨_, found⟩
  | recorded => exact placed.consistent.mem_insert _

/-- What all artifacts have that are made with a configuration, the artifacts of a cache have that
was built with it. The induction is over how the cache came about. -/
theorem Built.filled {property : Artifact → Prop}
    (made : ∀ (compiler : Compiler MemoryFiles) (store : MemoryFiles) {logical : String}
      (dialect : Dialect) (signal : Signal) (lineMap : LineMap),
      (Dialect.ofPath? logical).isSome = true →
      property ((⟨config, compiler⟩ : Pipeline MemoryFiles).artifact store logical dialect signal
        lineMap))
    (built : Built config cache) : cache.Filled property := by
  induction built with
  | empty => exact Cache.filled_empty property
  | compile _ compiler logical force ih =>
    exact filled_compile (made compiler) ih logical force
  | precache _ compiler directory ih =>
    exact filled_precacheDirectory (made compiler) ih directory
  | load _ _ compiler read ih savedHypothesis =>
    rw [loadManifest, read]
    exact ih.restore savedHypothesis _

/-- All code of a cache that was built with one configuration is where that configuration puts it,
also after manifests were loaded. -/
theorem Built.placed (built : Built config cache) : Placed config cache := by
  have filled : cache.Filled fun artifact =>
      artifact.fullOutputPath = codePath config artifact.sourcePath :=
    built.filled fun compiler store {logical} dialect signal lineMap _ =>
      artifact_fullOutputPath ⟨config, compiler⟩ store logical dialect signal lineMap
  exact ⟨filled.consistent, filled.each⟩

end DialectLoader.Pipeline
