import DialectLoader.Files.Disk
import DialectLoader.Proofs.Remap.Frames
import DialectLoader.Realm

/-!
# Identities of scripts and code

An artifact names its script and its code by their paths from the root. That path is read off the
spelling where the spelling shows it, and then it ends as the file does: code in `.lua`, a script in
the extension of its dialect. So frames that a realm has remapped stay as they are, whatever was
compiled before and wherever the search directories lie.

Files in memory are known by their spelling alone. On a disk a path that does not start at the root
by its spelling is looked up, links and all. A script that is a link to generated code, found in a
directory that is given by an absolute path, is then named by the path of that code. Its frames are
remapped to frames of the code, and those once more.
-/

namespace DialectLoader

/-- A path in memory keeps its extension on the way to its spelling from the root, as nothing is
looked up. -/
theorem MemoryFiles.extension?_rootRelative (store : MemoryFiles) {path ext : String}
    (named : Path.extension? path = some ext) :
    Path.extension? (Pipeline.rootRelative store path) = some ext := by
  change Path.extension?
    (((HostPath.below? root (HostPath.append root path)).map HostPath.forwardSlashes).getD
    (HostPath.forwardSlashes path)) = some ext
  have whole := HostPath.extension?_append root named
  generalize HostPath.append root path = absolute at whole ⊢
  cases below : HostPath.below? root absolute with
  | none => exact HostPath.extension?_forwardSlashes named
  | some lower =>
    refine HostPath.extension?_forwardSlashes (HostPath.extension?_below? below ?_ whole)
    obtain ⟨before, name, counted, ending⟩ := HostPath.names_of_extension? whole
    -- The name of the root has no extension, so it is not the last name of the path.
    have deeper : before ≠ [] := by
      rintro rfl
      have leads : HostPath.steps root <+: HostPath.steps absolute := by
        unfold HostPath.below? at below
        split at below
        · rename_i nowhere
          exact absurd nowhere (by decide)
        · split at below
          · rename_i leads
            exact List.isPrefixOf_iff_prefix.mp leads
          · cases below
      have rootSteps : HostPath.steps root = ["/", "mock"] := by decide
      have mock : "mock" ∈ HostPath.steps absolute := leads.subset (by simp [rootSteps])
      have only : ∀ step ∈ HostPath.steps absolute, step = "/" ∨ step = "." ∨ step = name := by
        intro step member
        rw [HostPath.steps, counted] at member
        split at member
        · simp only [List.nil_append, List.mem_cons, List.not_mem_nil, or_false] at member
          rcases member with rfl | rfl <;> simp
        · split at member <;>
            simp only [List.nil_append, List.mem_cons, List.not_mem_nil, or_false] at member
          · rcases member with rfl | rfl <;> simp
          · simp [member]
      rcases only "mock" mock with other | other | rfl
      · exact absurd other (by decide)
      · exact absurd other (by decide)
      · have bare : Path.extension? "mock" = none := by decide
        rw [bare] at ending
        cases ending
    have one : (HostPath.names root).length = 1 := by decide
    have some := List.length_pos_iff.mpr deeper
    rw [one, counted, List.length_append, List.length_singleton]
    omega

/-- A relative path on a disk keeps its extension on the way to its spelling from the root. An
absolute one is looked up, and a link may change it. -/
theorem Disk.extension?_rootRelative (disk : Disk) {path ext : String}
    (relative : HostPath.isAbsolute path = false) (named : Path.extension? path = some ext) :
    Path.extension? (Pipeline.rootRelative disk path) = some ext := by
  obtain ⟨⟨lower, below⟩, counted⟩ := HostPath.exists_below?_append disk.root relative
  obtain ⟨before, name, last, _⟩ := HostPath.names_of_extension? named
  have spelled : Pipeline.rootRelative disk path = HostPath.forwardSlashes lower := by
    change ((disk.relative? (disk.absolute path)).getD _) = _
    simp only [Disk.relative?, Disk.absolute, below]
    rfl
  rw [spelled]
  refine HostPath.extension?_forwardSlashes
    (HostPath.extension?_below? below ?_ (HostPath.extension?_append _ named))
  rw [counted, last]
  simp

namespace Pipeline

/-- Caches that a pipeline can build with one configuration: by compiling scripts and directories
and by purging, on any files and with any compiler each time. -/
inductive Reached (σ : Type) [FileStore σ] (config : Config) : Cache → Prop where
  | empty : Reached σ config .empty
  | compile {workspace : Workspace σ} (reached : Reached σ config workspace.cache)
    (compiler : Compiler σ)
      (logical : String) (force : Bool) :
      Reached σ config ((⟨config, compiler⟩ : Pipeline σ).compile workspace logical force).2.cache
  | precache {workspace : Workspace σ} (reached : Reached σ config workspace.cache)
    (compiler : Compiler σ)
      (directory : String) :
      Reached σ config
        ((⟨config, compiler⟩ : Pipeline σ).precacheDirectory workspace directory).2.cache
  | purge {workspace : Workspace σ} (reached : Reached σ config workspace.cache)
    (compiler : Compiler σ) :
      Reached σ config ((⟨config, compiler⟩ : Pipeline σ).purge workspace).2.cache

variable {σ : Type} [FileStore σ] {config : Config} {cache changed : Cache} {compiler : Compiler σ}
    {logical : String}

/-- The paths by which an artifact of a script may name it: where the search path has it, or the
logical path if it has it nowhere. -/
inductive NamesScript (config : Config) (logical : String) : String → Prop where
  | found {directory : String}
    (listed : directory ∈ config.searchPaths.directories config.searchPath) :
      NamesScript config logical (Path.join directory logical)
  | lost : NamesScript config logical logical

/-- An artifact as a pipeline makes it: it is of a script that has a dialect, and both of its paths
are spelled from the root of some files. -/
structure Spelled (σ : Type) [FileStore σ] (config : Config) (artifact : Artifact) : Prop where
  script : (Dialect.ofPath? artifact.sourcePath).isSome = true
  source : ∃ (store : σ) (path : String),
    NamesScript config artifact.sourcePath path ∧ artifact.fullSourcePath = rootRelative store path
  code : ∃ store : σ,
    artifact.fullOutputPath =
      rootRelative store (Path.join config.outputRoot (Path.output artifact.sourcePath))

/-- A consistent cache of artifacts as a pipeline makes them, whatever the files were at the
time. -/
structure Identified (σ : Type) [FileStore σ] (config : Config) (cache : Cache) : Prop where
  consistent : cache.Consistent
  spelled : ∀ artifact ∈ cache.artifacts, Spelled σ config artifact

theorem namesScript_resolved (store : σ) (config : Config) (logical : String) :
    NamesScript config logical
      ((Logical.resolve? store config.searchPaths logical config.searchPath).getD logical) := by
  cases resolved : Logical.resolve? store config.searchPaths logical config.searchPath with
  | none => exact .lost
  | some path =>
    obtain ⟨directory, listed, rfl⟩ := List.mem_map.mp (List.mem_of_find?_eq_some resolved)
    exact .found listed

/-- The artifact that a pipeline makes of a script has both paths spelled from the root, whichever
compiler was used. -/
theorem spelled_artifact (config : Config) (compiler : Compiler σ) (store : σ) {logical : String}
    (dialect : Dialect) (signal : Signal) (lineMap : LineMap)
    (script : (Dialect.ofPath? logical).isSome = true) :
    Spelled σ config
      ((⟨config, compiler⟩ : Pipeline σ).artifact store logical dialect signal lineMap) :=
  ⟨script, ⟨store, _, namesScript_resolved store config logical, rfl⟩, ⟨store, rfl⟩⟩

/-- Compiling, without the manifest, keeps all artifacts of the cache such as a pipeline makes
them. -/
theorem Identified.compileUnsaved {workspace : Workspace σ}
    (identified : Identified σ config workspace.cache) (compiler : Compiler σ) (logical : String)
    (force : Bool) :
    Identified σ config
      ((⟨config, compiler⟩ : Pipeline σ).compileUnsaved workspace logical force).2.cache := by
  have filled := filled_compileUnsaved (spelled_artifact config compiler)
    ⟨identified.consistent, identified.spelled⟩
    logical force
  exact ⟨filled.consistent, filled.each⟩

/-- In every cache that a pipeline can build all artifacts are such as a pipeline makes them. -/
theorem Reached.identified (reached : Reached σ config cache) : Identified σ config cache := by
  have filled : cache.Filled (Spelled σ config) := by
    induction reached with
    | empty => exact Cache.filled_empty _
    | compile _ compiler logical force ih =>
      exact filled_compile (spelled_artifact config compiler) ih logical force
    | precache _ compiler directory ih =>
      exact filled_precacheDirectory (spelled_artifact config compiler) ih
        directory
    | purge => exact Cache.filled_empty _
  exact ⟨filled.consistent, filled.each⟩

/-- In every cache that is built in memory, also by loading manifests, all artifacts are such as a
pipeline makes them. -/
theorem Built.identified {cache : Cache} (built : Built config cache) :
    Identified MemoryFiles config cache := by
  have filled := built.filled (spelled_artifact config)
  exact ⟨filled.consistent, filled.each⟩

/-- A path that names a script is of its dialect, since directories in front do not change the
extension. -/
theorem NamesScript.ofPath? {path : String} (names : NamesScript config logical path) :
    Dialect.ofPath? path = Dialect.ofPath? logical := by
  cases names with
  | found => exact Path.ofPath?_join _ logical
  | lost => rfl

/-- Scripts and code are told apart in a cache whose paths keep their extensions on the way to the
root. Both kinds of files have to ensure this in their own way. -/
theorem Identified.toldApart (identified : Identified σ config cache)
    (source : ∀ (store : σ) (path ext : String), ∀ artifact ∈ cache.artifacts,
      NamesScript config artifact.sourcePath path → Path.extension? path = some ext →
      Path.extension? (rootRelative store path) = some ext)
    (code : ∀ (store : σ) (lower ext : String),
      Path.extension? (Path.join config.outputRoot lower) = some ext →
      Path.extension? (rootRelative store (Path.join config.outputRoot lower)) = some ext) :
    Remap.ToldApart cache := by
  constructor
  · intro artifact live
    obtain ⟨store, spelled⟩ := (identified.spelled artifact live).code
    have lua : Path.extension? (Path.join config.outputRoot (Path.output artifact.sourcePath)) =
        some Path.luaExtension := by
      rw [Path.extension?_join]
      exact Path.extension?_setExtension _ Path.isExtension_lua
    have ending : ".lua" = "." ++ Path.luaExtension := by decide
    rw [spelled, ending]
    exact Path.endsWith_of_extension? (code store _ _ lua)
  · intro artifact live
    obtain ⟨store, path, names, spelled⟩ := (identified.spelled artifact live).source
    have script : (Dialect.ofPath? path).isSome = true := by
      rw [names.ofPath?]
      exact (identified.spelled artifact live).script
    obtain ⟨ext, named⟩ := Dialect.exists_extension script
    rw [spelled, Dialect.ofPath?, source store path ext artifact live names named, ← named]
    exact script

/-- In memory scripts and code are told apart in every cache that a pipeline can build, wherever the
search directories lie. -/
theorem Reached.toldApart_memory (reached : Reached MemoryFiles config cache) :
    Remap.ToldApart cache :=
  reached.identified.toldApart (fun store _ _ _ _ _ named => store.extension?_rootRelative named)
    fun store _ _ named => store.extension?_rootRelative named

/-- On a disk scripts and code are told apart if all paths that the pipeline is given are relative.
Links are then not followed in what the paths are called. -/
theorem Reached.toldApart_disk (reached : Reached Disk config cache)
    (output : HostPath.isAbsolute config.outputRoot = false)
    (directories : ∀ directory ∈ config.searchPaths.directories config.searchPath,
      HostPath.isAbsolute directory = false)
    (scripts : ∀ artifact ∈ cache.artifacts, HostPath.isAbsolute artifact.sourcePath = false) :
    Remap.ToldApart cache := by
  refine reached.identified.toldApart (fun disk path ext artifact live names named => ?_)
    fun disk lower ext named => ?_
  · refine disk.extension?_rootRelative ?_ named
    cases names with
    | found listed => exact Path.isAbsolute_join (directories _ listed) _
    | lost => exact scripts artifact live
  · exact disk.extension?_rootRelative (Path.isAbsolute_join output _) named

end Pipeline

namespace Realm

section Settles

variable {σ : Type}

/-- What the realm has remapped stays as it is when it is remapped again, frames as well as debug
records. -/
structure Settles (realm : Realm σ) : Prop where
  frame : ∀ (chunk : String) (line : Int),
    realm.view.frame (realm.view.frame chunk line).1 (realm.view.frame chunk line).2 =
      realm.view.frame chunk line
  debugInfo : ∀ info : Remap.DebugInfo,
    realm.debugInfo (realm.debugInfo info) = realm.debugInfo info

/-- A realm settles if scripts and code are told apart in its cache: what a frame was remapped to
names a script, which is no code. -/
theorem settles_of_toldApart {realm : Realm σ} (consistent : realm.workspace.cache.Consistent)
    (apart : Remap.ToldApart realm.workspace.cache) : realm.Settles where
  frame := Remap.View.frame_frame consistent apart
  debugInfo info := by
    unfold Realm.debugInfo
    split
    · exact Remap.View.debugInfo_debugInfo consistent apart info
    · rfl

end Settles

/-- Frames and debug records are remapped once and for all with every cache that a pipeline can
build in memory, also if the search directories lie below the cache root. So they are with one that
it can build on a disk from relative paths, and wherever else scripts and code are told apart. -/
theorem remapped_frames_settled :
    (∀ realm : Realm MemoryFiles,
      Pipeline.Reached MemoryFiles realm.config realm.workspace.cache → realm.Settles) ∧
    (∀ realm : Realm Disk, Pipeline.Reached Disk realm.config realm.workspace.cache →
      HostPath.isAbsolute realm.config.outputRoot = false →
      (∀ directory ∈ realm.config.searchPaths.directories realm.config.searchPath,
        HostPath.isAbsolute directory = false) →
      (∀ artifact ∈ realm.workspace.cache.artifacts,
        HostPath.isAbsolute artifact.sourcePath = false) →
      realm.Settles) ∧
    ∀ {σ : Type} [FileStore σ] (realm : Realm σ),
      Pipeline.Reached σ realm.config realm.workspace.cache →
      Remap.ToldApart realm.workspace.cache → realm.Settles := by
  refine ⟨fun realm reached => ?_, fun realm reached output directories scripts => ?_,
    fun realm reached apart => ?_⟩
  · exact settles_of_toldApart reached.identified.consistent reached.toldApart_memory
  · exact settles_of_toldApart reached.identified.consistent
      (reached.toldApart_disk output directories scripts)
  · exact settles_of_toldApart reached.identified.consistent apart

/-- A realm with echoing backends that has compiled two scripts, on files of any kind. -/
def twoCompiled {σ : Type} [FileStore σ] (config : Config) (store : σ) (first second : String) :
    Realm σ :=
  let pipeline : Pipeline σ := ⟨config, .ofBackends ⟨Backend.moonEcho, Backend.yueEcho⟩⟩
  let fresh : Workspace σ := { store, watch := { debounceMs := 0 } }
  { pipeline
    host := ⟨fun _ => true⟩
    workspace := (pipeline.compile (pipeline.compile fresh first false).2 second false).2 }

theorem reached_twoCompiled {σ : Type} [FileStore σ] (config : Config) (store : σ)
    (first second : String) :
    Pipeline.Reached σ (twoCompiled config store first second).config
      (twoCompiled config store first second).workspace.cache :=
  (Pipeline.Reached.empty.compile _ first false).compile _ second false

def searching (directories : List String) : Config :=
  { cacheRoot := "c", searchPath := "p", searchPaths := .ofList [("p", directories)],
    persistManifest := false }

/-- A disk with a script, and with a link that is called like a script and leads to the code of the
other one. -/
def linkedDisk : Disk :=
  let bare : Disk := { Disk.rootedAt "/r" ⟨1, 0⟩ with root := ".", workingDirectory := ["r"] }
  (bare.addFile "s/b.moon" (Text.utf8 "x\ny") false).placeLink "t/a.moon" "../c/b.lua"

theorem exists_stored {cache : Cache} {artifact : Artifact} (live : artifact ∈ cache.artifacts) :
    ∃ entry ∈ cache.bySource.toList, entry.2 = artifact :=
  List.mem_map.mp (List.mem_mergeSort.mp live)

/-- In memory a realm settles whose scripts lie below the cache root, with records of which only the
short name stands for code. On the disk it does even though one script is a link to code, since it
is found in a relative directory. -/
theorem remapped_frames_settled_overlapping :
    let files :=
      (({} : MemoryFiles).addFile "c/s/b.moon" (Text.utf8 "x\ny")).addFile "c/s/a.yue"
        (Text.utf8 "z")
    let overlapping := twoCompiled (searching ["c/s"]) files "b.moon" "a.yue"
    let linked := twoCompiled (searching ["s", "t"]) linkedDisk "b.moon" "a.moon"
    (overlapping.view.frame "@c/b.lua" 3 = ("@c/s/b.moon", 2) ∧
      overlapping.debugInfo ⟨"=x", "c/b.lua", 3, -1, 2⟩ = ⟨"=x", "c/s/b.moon", 2, -1, 1⟩ ∧
      overlapping.Settles) ∧
    linked.view.frame "c/a.lua" 3 = ("t/a.moon", 2) ∧ linked.Settles := by
  intro files overlapping linked
  obtain ⟨memory, disk, _⟩ := remapped_frames_settled
  have output : HostPath.isAbsolute linked.config.outputRoot = false := by decide +kernel
  have directories : ∀ directory ∈ linked.config.searchPaths.directories linked.config.searchPath,
      HostPath.isAbsolute directory = false := by
    decide +kernel
  have stored : ∀ entry ∈ linked.workspace.cache.bySource.toList,
      HostPath.isAbsolute entry.2.sourcePath = false := by
    decide +kernel
  have scripts : ∀ artifact ∈ linked.workspace.cache.artifacts,
      HostPath.isAbsolute artifact.sourcePath = false := by
    intro artifact live
    obtain ⟨entry, member, rfl⟩ := exists_stored live
    exact stored entry member
  refine ⟨⟨by decide +kernel, by decide +kernel, ?_⟩, by decide +kernel, ?_⟩
  · exact memory overlapping (reached_twoCompiled (searching ["c/s"]) files "b.moon" "a.yue")
  · have reached := reached_twoCompiled (searching ["s", "t"]) linkedDisk "b.moon" "a.moon"
    exact disk linked reached output directories scripts

/-- In an absolute directory the link is looked up, and the script is named by the path of the code
that it leads to: a frame is remapped to one of that code, which is remapped again. -/
theorem linked_code_remapped_again :
    let realm := twoCompiled (searching ["s", "/r/t"]) linkedDisk "b.moon" "a.moon"
    Pipeline.Reached Disk realm.config realm.workspace.cache ∧
      realm.view.frame "c/a.lua" 3 = ("c/b.lua", 2) ∧
        realm.view.frame "c/b.lua" 2 = ("s/b.moon", 1) := by
  intro realm
  refine ⟨?_, by decide +kernel, by decide +kernel⟩
  exact reached_twoCompiled (searching ["s", "/r/t"]) linkedDisk "b.moon" "a.moon"

end Realm

end DialectLoader
