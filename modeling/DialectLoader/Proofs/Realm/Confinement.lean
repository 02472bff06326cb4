import DialectLoader.Proofs.Path.Extension
import DialectLoader.Proofs.Realm.Steps

/-!
# Files outside the cache root

A realm writes generated code and the manifest, and it removes the cache root when it starts. Each
of these paths is the cache root, a slash and something else, whatever path was asked for: leading
slashes are dropped before the path is put behind the root. So files that are spelled otherwise are
never touched. Paths are not resolved here; dot segments are part of the spelling.

On a disk a path with two dots in it leads elsewhere, and so may a link. What is confined is the
spelling; that the operating system keeps to it is another matter. The backends do not touch files.
-/

namespace DialectLoader

namespace MemoryFiles

variable {allowed : String → Prop} {store changed : MemoryFiles}

/-- Any number of files written to allowed paths, and of directories made, from one store to
another. -/
inductive WritesOnly (allowed : String → Prop) (store : MemoryFiles) : MemoryFiles → Prop where
  | done : WritesOnly allowed store store
  | unwritten {current changed : MemoryFiles} (earlier : WritesOnly allowed store current)
      (last : Unwritten current changed) : WritesOnly allowed store changed
  | written {current changed : MemoryFiles} {path : String} {contents : Bytes}
      (earlier : WritesOnly allowed store current) (last : Written current changed path contents)
      (here : allowed path) : WritesOnly allowed store changed

theorem WritesOnly.trans {later : MemoryFiles} (first : WritesOnly allowed store changed)
    (second : WritesOnly allowed changed later) : WritesOnly allowed store later := by
  induction second with
  | done => exact first
  | unwritten _ last ih => exact .unwritten ih last
  | written _ last here ih => exact .written ih last here

theorem WritesOnly.elsewhere (writes : WritesOnly allowed store changed) {path : String}
    (other : ¬ allowed path) : changed.files[path]? = store.files[path]? := by
  induction writes with
  | done => rfl
  | unwritten _ last ih => rw [last.files, ih]
  | @written _ _ place _ _ last here ih =>
    have apart : path ≠ place := fun same => other (same ▸ here)
    rw [last.elsewhere apart, ih]

end MemoryFiles

/-- A path below the cache root that is one of generated code, or that of the manifest. -/
def Config.IsGenerated (config : Config) (path : String) : Prop :=
  MemoryFiles.isBelow config.outputRoot path = true ∧
    (".lua".toList <:+ path.toList ∨ path = Manifest.path config.outputRoot)

/-- What is put behind the cache root is below it, whatever it looks like. The root must not be
empty, for nothing would be put in front. -/
theorem Config.isBelow_join {config : Config} (rooted : config.outputRoot ≠ "") (lower : String) :
    MemoryFiles.isBelow config.outputRoot (Path.join config.outputRoot lower) = true := by
  rw [MemoryFiles.isBelow, Path.join_toList_of_visible rooted (Path.getLast?_trimEnd _),
    List.isPrefixOf_iff_prefix]
  exact ⟨Path.dropLeadingSlashes lower.toList, by simp⟩

theorem Path.suffix_dropLeadingSlashes {c : Char} {rest path : List Char}
    (ends : c :: rest <:+ path) (other : c ≠ '/') : c :: rest <:+ dropLeadingSlashes path := by
  obtain ⟨front, rfl⟩ := ends
  induction front with
  | nil => simp [dropLeadingSlashes, other]
  | cons first front ih =>
    by_cases slash : first = '/'
    · simpa [dropLeadingSlashes, slash] using ih
    · have kept : dropLeadingSlashes (first :: front ++ c :: rest) =
          first :: front ++ c :: rest := by
        simp [dropLeadingSlashes, slash]
      rw [kept]
      exact List.suffix_append _ _

/-- A path that ends like generated code is none of a script, in any spelling of the rest. -/
theorem Dialect.ofPath?_of_lua {path : String} (lua : ".lua".toList <:+ path.toList) :
    ofPath? path = none := by
  have named : Path.extension? ".lua" = some "lua" := by decide
  rw [ofPath?, Path.extension?_of_suffix named lua]
  decide

theorem Config.IsGenerated.ofPath? {config : Config} {path : String}
    (generated : config.IsGenerated path) :
    Dialect.ofPath? path = none := by
  obtain ⟨_, lua | rfl⟩ := generated
  · exact Dialect.ofPath?_of_lua lua
  · exact Pipeline.ofPath?_manifest _

namespace Pipeline

variable {config : Config} {backends : Backends} {workspace changed : Workspace MemoryFiles}

/-- The code of a script goes to a path of generated code, also if the path of the script leads
upwards. -/
theorem isGenerated_target (rooted : config.outputRoot ≠ "") (backends : Backends)
    (logical : String) : config.IsGenerated ((ofBackends config backends).target logical) := by
  refine ⟨Config.isBelow_join rooted _, .inl ?_⟩
  have ends : ".lua".toList <:+ (Path.output logical).toList := by
    rw [Path.output, Path.setExtension_toList Path.isExtension_lua, ← List.append_assoc]
    exact List.suffix_append _ _
  rw [target, ofBackends_config, Path.join_toList_of_visible rooted (Path.getLast?_trimEnd _)]
  refine (Path.suffix_dropLeadingSlashes ends (by decide)).trans ?_
  exact (List.suffix_cons _ _).trans (List.suffix_append _ _)

/-- Steps of compiling write generated code and manifests only, by induction over the steps. -/
theorem Steps.writesOnly (rooted : config.outputRoot ≠ "")
    (steps : Steps config backends workspace changed) :
    MemoryFiles.WritesOnly config.IsGenerated workspace.store changed.store := by
  induction steps with
  | done => exact .done
  | effect _ last ih =>
    cases last with
    | refused => exact ih
    | reused => exact ih
    | failed _ _ _ _ _ _ unwritten => exact .unwritten ih unwritten
    | compiled _ _ _ _ _ written _ =>
      exact .written ih written (isGenerated_target rooted _ _)
  | @persist current _ ih =>
    obtain ⟨store, done, written | unwritten⟩ := persist_cases (ofBackends config backends) current
    · rw [done]
      exact .written ih written ⟨Config.isBelow_join rooted _, .inr rfl⟩
    · rw [done]
      exact .unwritten ih unwritten

end Pipeline

namespace Realm

variable {config : Config} {backends : Backends} {realm : Realm MemoryFiles} {path : String}

/-- What can be asked of a realm, or that another one takes its place. Texts may be compiled too,
which no request does. -/
inductive Call where
  | request (made : Request)
  /-- To compile a text. -/
  | compileText (dialect : Dialect) (source : String)
  /-- A new realm starts with the same settings on the same files. -/
  | restart

def Call.perform (realm : Realm MemoryFiles) : Call → Realm MemoryFiles
  | request made => made.perform realm
  | compileText dialect source => (realm.compileText dialect source).2
  | restart => start realm.pipeline realm.host realm.workspace.store

def afterCalls (realm : Realm MemoryFiles) (calls : List Call) : Realm MemoryFiles :=
  calls.foldl Call.perform realm

theorem afterCalls_append (realm : Realm MemoryFiles) (before since : List Call) :
    realm.afterCalls (before ++ since) = (realm.afterCalls before).afterCalls since :=
  List.foldl_append

/-- A request changes no file before it begins to compile scripts, so only compiling has to be
looked at. -/
theorem Request.begun_store (realm : Realm MemoryFiles) (request : Request) :
    (request.begun realm).workspace.store = realm.workspace.store := by
  cases request with
  | prepare file reason => rw [begun, noting_workspace]
  | _ => rfl

/-- A realm that starts leaves the files outside the cache root alone, even if it empties the cache
root. -/
theorem start_elsewhere (pipeline : Pipeline MemoryFiles) (host : Host) (store : MemoryFiles)
    (outside : MemoryFiles.isBelow pipeline.config.outputRoot path = false) :
    (start pipeline host store).workspace.store.files[path]? = store.files[path]? := by
  rcases (start_spec pipeline host store).2.2.2 with same | removed
  · rw [same]
  · rw [removed, MemoryFiles.removeTree_files, Pipeline.trimEnd_outputRoot, outside]
    rfl

section Calls

variable (same : realm.pipeline = Pipeline.ofBackends config backends)
  (rooted : config.outputRoot ≠ "")

include same

theorem Call.perform_pipeline (call : Call) :
    (call.perform realm).pipeline = Pipeline.ofBackends config backends := by
  cases call with
  | request made =>
    have compiled := made.compiles same
    have begun := Event.begun_pipeline realm (.request made)
    exact compiled.pipeline.trans (begun.trans same)
  | compileText dialect source => exact same
  | restart => exact same

/-- A realm keeps its settings through all calls, so the cache root is the same throughout. -/
theorem afterCalls_pipeline (calls : List Call) :
    (realm.afterCalls calls).pipeline = Pipeline.ofBackends config backends := by
  induction calls generalizing realm with
  | nil => exact same
  | cons call rest ih => exact ih (call.perform_pipeline same)

include rooted

/-- A call of a running realm writes generated code and manifests only. A restart may remove files,
and is excluded. -/
theorem Call.writesOnly {call : Call} (lives : call ≠ .restart) :
    MemoryFiles.WritesOnly config.IsGenerated realm.workspace.store
      (call.perform realm).workspace.store := by
  cases call with
  | request made =>
    rw [← made.begun_store realm]
    exact (made.compiles same).steps.writesOnly rooted
  | compileText dialect source =>
    have unchanged : (realm.compileText dialect source).2.workspace.store =
        realm.workspace.store := by
      simp only [Realm.compileText, Pipeline.compileText, same]
      rfl
    rw [perform, unchanged]
    exact .done
  | restart => exact absurd rfl lives

theorem Call.elsewhere (call : Call)
    (outside : MemoryFiles.isBelow config.outputRoot path = false) :
    (call.perform realm).workspace.store.files[path]? = realm.workspace.store.files[path]? := by
  by_cases lives : call = .restart
  · subst lives
    apply start_elsewhere
    rwa [same]
  · apply (Call.writesOnly same rooted lives).elsewhere
    rintro ⟨below, _⟩
    rw [outside] at below
    cases below

/-- What is there after a call under a path that is not generated was there before: nothing of that
kind is made or changed. -/
theorem Call.files (call : Call) {file : StoredFile} (other : ¬ config.IsGenerated path)
    (found : (call.perform realm).workspace.store.files[path]? = some file) :
    realm.workspace.store.files[path]? = some file := by
  by_cases lives : call = .restart
  · subst lives
    exact start_files found
  · rwa [(Call.writesOnly same rooted lives).elsewhere other] at found

/-- All calls together leave the files outside the cache root alone, by induction over the calls. -/
theorem afterCalls_elsewhere (calls : List Call)
    (outside : MemoryFiles.isBelow config.outputRoot path = false) :
    (realm.afterCalls calls).workspace.store.files[path]? = realm.workspace.store.files[path]? := by
  induction calls generalizing realm with
  | nil => rfl
  | cons call rest ih =>
    exact (ih (call.perform_pipeline same)).trans
      (call.elsewhere same rooted outside)

/-- What is there after all calls under a path that is not generated was there before, though some
of it may be gone. -/
theorem afterCalls_files (calls : List Call) {file : StoredFile} (other : ¬ config.IsGenerated path)
    (found : (realm.afterCalls calls).workspace.store.files[path]? = some file) :
    realm.workspace.store.files[path]? = some file := by
  induction calls generalizing realm with
  | nil => exact found
  | cons call rest ih =>
    exact call.files same rooted other (ih (call.perform_pipeline same) found)

/-- The calls of one realm together write generated code and manifests only, as long as no other
realm takes over. -/
theorem afterCalls_writesOnly {calls : List Call} (lives : Call.restart ∉ calls) :
    MemoryFiles.WritesOnly config.IsGenerated realm.workspace.store
      (realm.afterCalls calls).workspace.store := by
  induction calls generalizing realm with
  | nil => exact .done
  | cons call rest ih =>
    obtain ⟨other, alive⟩ := not_or.mp (mt List.mem_cons.mpr lives)
    exact (Call.writesOnly same rooted (Ne.symm other)).trans
      (ih (call.perform_pipeline same) alive)

end Calls

/-- A realm with a cache root never touches files outside of it, whatever is asked and however often
it is started anew: no such file is made, removed or changed, not even in its modification time.
Below the root too, whatever is there later and is neither generated code nor the manifest was there
at first. While a realm is running it writes generated code and the manifest only, so every script
stays as it is. -/
theorem confined_to_root (config : Config) (backends : Backends) (host : Host) (store : MemoryFiles)
    (rooted : config.outputRoot ≠ "") (calls : List Call) :
    let started := start (Pipeline.ofBackends config backends) host store
    (∀ path, MemoryFiles.isBelow config.outputRoot path = false →
      (started.afterCalls calls).workspace.store.files[path]? = store.files[path]?) ∧
    (∀ path file, ¬ config.IsGenerated path →
      (started.afterCalls calls).workspace.store.files[path]? = some file →
      store.files[path]? = some file) ∧
    ∀ before since, calls = before ++ since → Call.restart ∉ since →
      MemoryFiles.WritesOnly config.IsGenerated (started.afterCalls before).workspace.store
        (started.afterCalls calls).workspace.store ∧
      ∀ path, (Dialect.ofPath? path).isSome = true →
        (started.afterCalls calls).workspace.store.files[path]? =
          (started.afterCalls before).workspace.store.files[path]? := by
  intro started
  have same : started.pipeline = Pipeline.ofBackends config backends := rfl
  refine ⟨?_, ?_, ?_⟩
  · intro path outside
    exact (afterCalls_elsewhere same rooted calls outside).trans
      (start_elsewhere _ host store outside)
  · intro path file other found
    exact start_files (afterCalls_files same rooted calls other found)
  · rintro before since rfl lives
    have writes := afterCalls_writesOnly (afterCalls_pipeline same before) rooted lives
    rw [← afterCalls_append] at writes
    refine ⟨writes, fun path script => writes.elsewhere fun generated => ?_⟩
    rw [generated.ofPath?] at script
    cases script

/-- The short names with slashes at the end of the cache root. -/
def slashedConfig : Config :=
  { sampleConfig with cacheRoot := "c//" }

/-- A script with a path that leads out of its directory, a file that is spelled like its code, and
a manifest that cannot be read. -/
def stray : MemoryFiles :=
  ((({} : MemoryFiles).addFile "l/../b.moon" (Text.utf8 "x")).addFile "b.lua"
    (Text.utf8 "y")).addFile
    "c/.manifest.bin" [0]

/-- Another realm takes over, and the script is included and compiled again. -/
def strayCalls : List Call :=
  [.restart, .request (.prepare "//../b.moon" .inclusion), .request (.compile "/../b.moon" true)]

def strayRealm : Realm MemoryFiles :=
  start (Pipeline.ofBackends slashedConfig sampleBackends) ⟨fun _ => true⟩ stray

/-- The code of the script is written behind the cache root, and the other file is as it was. -/
theorem stray_confined_to_root :
    (strayRealm.afterCalls strayCalls).workspace.store.files["b.lua"]? = stray.files["b.lua"]? ∧
      (strayRealm.afterCalls strayCalls).workspace.store.files.contains "c/../b.lua" = true ∧
      MemoryFiles.WritesOnly slashedConfig.IsGenerated
        (strayRealm.afterCalls (strayCalls.take 1)).workspace.store
        (strayRealm.afterCalls strayCalls).workspace.store ∧
      (strayRealm.afterCalls strayCalls).workspace.store.files["l/../b.moon"]? =
        (strayRealm.afterCalls (strayCalls.take 1)).workspace.store.files["l/../b.moon"]? := by
  have rooted : slashedConfig.outputRoot ≠ "" := by decide
  have written : (strayRealm.afterCalls strayCalls).workspace.store.files.contains "c/../b.lua" =
      true := by
    decide +kernel
  unfold strayRealm at written ⊢
  obtain ⟨elsewhere, _, running⟩ :=
    confined_to_root slashedConfig sampleBackends ⟨fun _ => true⟩ stray rooted
    strayCalls
  obtain ⟨writes, scripts⟩ :=
    running (strayCalls.take 1) (strayCalls.drop 1) rfl (by simp [strayCalls])
  refine ⟨?_, written, writes, ?_⟩
  · apply elsewhere
    decide
  · apply scripts
    decide

end Realm

end DialectLoader
