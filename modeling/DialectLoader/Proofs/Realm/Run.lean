import Mathlib.Data.List.Induction
import DialectLoader.Backend.Echo
import DialectLoader.Proofs.Realm.Requests

/-!
# Runs of a realm

A run interleaves changes to the files, requests to the realm and restarts. What one event keeps
holds after every run; the argument about an event may use all that is known of the events up to it.

Events come one after another. While a request is handled no file changes from outside and no other
request is made, so nothing is said about several threads in one realm, about locks, or about two
programs on one cache root.
-/

namespace DialectLoader.Realm

open DialectLoader.Path (Normal)

/-- A change to the files from outside, by anyone but the realm. -/
inductive Change where
  | addFile (path : String) (contents : Bytes)
  | touch (path : String)
  | write (path : String) (contents : Bytes)
  | createDirectories (directory : String)
  | removeTree (directory : String)
  | setReadOnly (value : Bool)

def Change.apply (store : MemoryFiles) : Change → MemoryFiles
  | addFile path contents => store.addFile path contents
  | touch path => store.touch path
  | write path contents => (store.write path contents).2
  | createDirectories directory => (store.createDirectories directory).2
  | removeTree directory => (store.removeTree directory).2
  | setReadOnly value => store.setReadOnly value

/-- A request to a realm, with what it is given. Answers are not part of it, and are asked for where
they matter. -/
inductive Request where
  | compile (logical : String) (force : Bool)
  | prepare (file : String) (reason : Reason)
  | clientFile (file : String)
  | precacheFile (logical : String)
  | precacheDirectory (directory : String)
  | fileModified (absolute : String)
  | think (now : Nat)

/-- The realm after a request; what it answers is left aside. -/
def Request.perform (realm : Realm MemoryFiles) : Request → Realm MemoryFiles
  | compile logical force =>
    { realm with workspace := (realm.pipeline.compile realm.workspace logical force).2 }
  | prepare file reason => (realm.prepare file reason).2
  | clientFile file => (realm.clientFile file).2
  | precacheFile logical => (realm.compile logical).2
  | precacheDirectory directory => (realm.precacheDirectory directory).2
  | fileModified absolute => realm.fileModified absolute
  | think now => (realm.think now).2

/-- One event in the life of a realm: files change, something is asked of it, or another realm takes
its place. -/
inductive Event where
  | change (change : Change)
  | request (request : Request)
  /-- The realm is given up and a new one starts with the same settings on the same files. -/
  | restart

def Event.perform (realm : Realm MemoryFiles) : Event → Realm MemoryFiles
  | change made =>
    { realm with workspace := { realm.workspace with store := made.apply realm.workspace.store } }
  | request made => made.perform realm
  | restart => Realm.start realm.pipeline realm.host realm.workspace.store

/-- The realm after some events, in their order. -/
def run (realm : Realm MemoryFiles) (events : List Event) : Realm MemoryFiles :=
  events.foldl Event.perform realm

@[simp]
theorem run_append_singleton (realm : Realm MemoryFiles) (before : List Event) (event : Event) :
    realm.run (before ++ [event]) = event.perform (realm.run before) := by
  simp [run]

/-- What is true at first and kept by each event of a run is true after it. The step knows which
events came before. -/
theorem run_induction {H : Realm MemoryFiles → Prop} {realm : Realm MemoryFiles}
    {events : List Event} (initial : H realm)
    (step : ∀ before event, before ++ [event] <+: events → H (realm.run before) →
      H (event.perform (realm.run before))) :
    H (realm.run events) := by
  induction events using List.reverseRecOn with
  | nil => exact initial
  | append_singleton before event ih =>
    have earlier := ih fun first next start =>
      step first next (start.trans (List.prefix_append before [event]))
    rw [run, List.foldl_append]
    exact step before event List.prefix_rfl earlier

/-- How a realm starts: with the artifacts of a manifest that can be trusted, with none if there is
no manifest, or with none and with the cache root removed. -/
theorem start_cases (pipeline : Pipeline MemoryFiles) (host : Host) (store : MemoryFiles) :
    (∃ manifest, pipeline.config.purgeOnStart = false ∧ pipeline.readManifest store = .ok manifest ∧
      (start pipeline host store).workspace =
        { store, watch := { debounceMs := pipeline.config.debounceMs }
          cache := (Cache.empty.restore manifest.artifacts
            fun artifact => FileStore.isFile store artifact.fullOutputPath).2 }) ∨
    (pipeline.config.purgeOnStart = false ∧ pipeline.readManifest store = .error .absent ∧
      (start pipeline host store).workspace =
        { store, watch := { debounceMs := pipeline.config.debounceMs } }) ∨
    ((pipeline.config.purgeOnStart = true ∨
        ∃ error, pipeline.readManifest store = .error error ∧ error ≠ .absent) ∧
      (start pipeline host store).workspace =
        { store := (Logical.purge store pipeline.config.outputRoot).2
          watch := { debounceMs := pipeline.config.debounceMs } }) := by
  simp only [start, Pipeline.loadManifest, Pipeline.purge]
  cases purging : pipeline.config.purgeOnStart with
  | true => exact .inr (.inr ⟨.inl rfl, by simp [Cache.empty]⟩)
  | false =>
    cases read : pipeline.readManifest store with
    | ok manifest => exact .inl ⟨manifest, rfl, rfl, by simp [Cache.empty]⟩
    | error error =>
      cases error with
      | absent => exact .inr (.inl ⟨rfl, rfl, by simp⟩)
      | _ => exact .inr (.inr ⟨.inr ⟨_, rfl, by simp⟩, by simp [Cache.empty]⟩)

/-- Purging leaves the files alone, or removes those below the cache root. It does the former only
where there is no such directory. -/
theorem purge_cases (store : MemoryFiles) (directory : String) :
    (Path.trimEnd directory ∉ store.directories ∧ (Logical.purge store directory).2 = store) ∨
      (Logical.purge store directory).2 = (store.removeTree directory).2 := by
  unfold Logical.purge
  split <;> rename_i there
  · exact .inr rfl
  · refine .inl ⟨?_, rfl⟩
    intro known
    exact there (Std.ExtTreeSet.contains_iff_mem.mpr known)

/-- A realm starts with an empty registry and a consistent cache; of the files it may have removed
those below the cache root. -/
theorem start_spec (pipeline : Pipeline MemoryFiles) (host : Host) (store : MemoryFiles) :
    (start pipeline host store).pipeline = pipeline ∧
      (start pipeline host store).workspace.watch = { debounceMs := pipeline.config.debounceMs } ∧
      (start pipeline host store).workspace.cache.Consistent ∧
      ((start pipeline host store).workspace.store = store ∨
        (start pipeline host store).workspace.store =
          (store.removeTree pipeline.config.outputRoot).2) := by
  refine ⟨rfl, ?_⟩
  rcases start_cases pipeline host store with
    ⟨manifest, _, _, started⟩ | ⟨_, _, started⟩ | ⟨_, started⟩
  · rw [started]
    exact ⟨rfl, Cache.consistent_empty.restore _ _, .inl rfl⟩
  · rw [started]
    exact ⟨rfl, Cache.consistent_empty, .inl rfl⟩
  · rw [started]
    refine ⟨rfl, Cache.consistent_empty, ?_⟩
    rcases purge_cases store pipeline.config.outputRoot with ⟨_, kept⟩ | removed
    · exact .inl kept
    · exact .inr removed

theorem start_files {pipeline : Pipeline MemoryFiles} {host : Host} {store : MemoryFiles}
    {path : String} {file : StoredFile}
    (found : (start pipeline host store).workspace.store.files[path]? = some file) :
    store.files[path]? = some file := by
  rcases (start_spec pipeline host store).2.2.2 with same | removed
  · rw [same] at found
    exact found
  · rw [removed, MemoryFiles.removeTree_files] at found
    split at found
    · cases found
    · exact found

theorem start_clock (pipeline : Pipeline MemoryFiles) (host : Host) (store : MemoryFiles) :
    (start pipeline host store).workspace.store.clock = store.clock := by
  rcases (start_spec pipeline host store).2.2.2 with same | removed
  · rw [same]
  · rw [removed]
    rfl

theorem start_aged (pipeline : Pipeline MemoryFiles) (host : Host) (store : MemoryFiles) :
    MemoryFiles.Aged store (start pipeline host store).workspace.store :=
  .of_subset (start_clock pipeline host store) fun _ _ found => start_files found

theorem start_tidy (pipeline : Pipeline MemoryFiles) (host : Host) {store : MemoryFiles}
    (scripts : store.TidyScripts) : (start pipeline host store).workspace.Tidy := by
  refine ⟨fun path file found => scripts path file (start_files found), ?_⟩
  intro key logical known
  rw [(start_spec pipeline host store).2.1] at known
  simp at known

/-- A request for normal paths only. Reports of the system may spell files as they please. -/
def Request.IsNormal : Request → Prop
  | compile logical _ => Normal logical
  | prepare file _ => Normal file
  | clientFile file => Normal file
  | precacheFile logical => Normal logical
  | precacheDirectory directory => directory = "" ∨ Normal directory
  | fileModified _ => True
  | think _ => True

instance : DecidablePred Request.IsNormal
  | .compile _ _ | .prepare _ _ | .clientFile _ | .precacheFile _ =>
    inferInstanceAs (Decidable (Normal _))
  | .precacheDirectory _ => inferInstanceAs (Decidable (_ ∨ Normal _))
  | .fileModified _ | .think _ => inferInstanceAs (Decidable True)

/-- A change that adds scripts under normal paths only. It may also remove files. -/
def Change.IsTidy : Change → Prop
  | addFile path _ => (Dialect.ofPath? path).isSome = true → Normal path
  | touch _ => True
  | write path _ => (Dialect.ofPath? path).isSome = true → Normal path
  | createDirectories _ => True
  | removeTree _ => True
  | setReadOnly _ => True

instance : DecidablePred Change.IsTidy
  | .addFile _ _ | .write _ _ => inferInstanceAs (Decidable (_ → _))
  | .touch _ | .createDirectories _ | .removeTree _ | .setReadOnly _ =>
    inferInstanceAs (Decidable True)

section Requests

variable {config : Config} {backends : Backends} {P : Workspace MemoryFiles → Prop}
  (kept : Pipeline.Kept config backends P) (realm : Realm MemoryFiles)
  (same : realm.pipeline = Pipeline.ofBackends config backends) (holds : P realm.workspace)
  {request : Request} (normal : request.IsNormal)

include kept same holds normal

/-- A property that the operations of a pipeline keep is kept by every request for normal paths, if
what is asked of the watch keeps it. -/
theorem leads_request_of
    (reports : ∀ absolute, request = .fileModified absolute →
      P (realm.fileModified absolute).workspace)
    (ticks : ∀ now, request = .think now → Pipeline.IgnoresEvents P) :
    Leads P realm (request.perform realm) := by
  cases request with
  | compile logical force =>
    refine ⟨⟨rfl, rfl, fun _ known => known, List.prefix_rfl, List.prefix_rfl⟩, ?_⟩
    change P (realm.pipeline.compile realm.workspace logical force).2
    rw [same]
    exact kept.compile holds normal
  | prepare file reason => exact leads_prepare kept realm same holds normal reason
  | clientFile file => exact leads_clientFile kept realm same holds normal
  | precacheFile logical => exact leads_compile kept realm same holds normal
  | precacheDirectory directory => exact leads_precacheDirectory kept realm same holds normal
  | fileModified absolute =>
    exact ⟨⟨rfl, rfl, fun _ known => known, List.prefix_rfl, List.prefix_rfl⟩, reports absolute rfl⟩
  | think now => exact leads_think kept realm same holds (ticks now rfl) now

/-- A property that ignores events is kept by every request for normal paths, as far as the
operations of a pipeline keep it. -/
theorem leads_request (ignores : Pipeline.IgnoresEvents P) :
    Leads P realm (request.perform realm) :=
  leads_request_of kept realm same holds normal (fun _ _ => ignores holds ⟨rfl, rfl⟩)
    (fun _ _ => ignores)

end Requests

theorem Change.tidy {change : Change} (admitted : change.IsTidy) {workspace : Workspace MemoryFiles}
    (tidy : workspace.Tidy) :
    Workspace.Tidy { workspace with store := change.apply workspace.store } := by
  refine ⟨?_, tidy.watch⟩
  intro path file found script
  cases change with
  | addFile added contents =>
    by_cases here : path = added
    · exact here ▸ admitted (here ▸ script)
    · rw [Change.apply,
        (MemoryFiles.ticked_addFile workspace.store added contents).elsewhere path here] at found
      exact tidy.scripts path file found script
  | touch touched =>
    simp only [Change.apply, MemoryFiles.touch, Std.ExtTreeMap.getElem?_modify] at found
    split at found
    · rename_i here
      obtain ⟨before, known, _⟩ := Option.map_eq_some_iff.mp found
      have same : touched = path := by simpa using here
      rw [same] at known
      exact tidy.scripts path before known script
    · exact tidy.scripts path file found script
  | write written contents =>
    rcases workspace.store.write_cases written contents with done | unwritten
    · by_cases here : path = written
      · exact here ▸ admitted (here ▸ script)
      · rw [Change.apply, done.elsewhere here] at found
        exact tidy.scripts path file found script
    · rw [Change.apply, unwritten.files] at found
      exact tidy.scripts path file found script
  | createDirectories directory =>
    rw [Change.apply, (workspace.store.createDirectories_unwritten directory).files] at found
    exact tidy.scripts path file found script
  | removeTree directory =>
    rw [Change.apply, MemoryFiles.removeTree_files] at found
    split at found
    · cases found
    · exact tidy.scripts path file found script
  | setReadOnly value => exact tidy.scripts path file found script

/-- A change that removes nothing. Removing is where times stop telling which file is behind a
script. -/
def Change.Keeps : Change → Prop
  | addFile _ _ => True
  | touch _ => True
  | write _ _ => True
  | createDirectories _ => True
  | removeTree _ => False
  | setReadOnly _ => True

instance : DecidablePred Change.Keeps
  | .addFile _ _ | .touch _ | .write _ _ | .createDirectories _ | .setReadOnly _ =>
    inferInstanceAs (Decidable True)
  | .removeTree _ => inferInstanceAs (Decidable False)

/-- A change that removes nothing leads to a later state of the files, in which what is behind a
script is the same or newer. -/
theorem Change.forward {change : Change} (keeps : change.Keeps) (store : MemoryFiles) :
    MemoryFiles.Forward store (change.apply store) := by
  cases change with
  | addFile path contents => exact (MemoryFiles.ticked_addFile store path contents).forward
  | touch path => exact (MemoryFiles.ticked_touch store path).forward
  | write path contents =>
    rcases store.write_cases path contents with written | unwritten
    · exact written.ticked.forward
    · exact unwritten.forward
  | createDirectories directory => exact (store.createDirectories_unwritten directory).forward
  | removeTree directory => exact keeps.elim
  | setReadOnly value => exact .of_files rfl rfl

theorem Change.aged (change : Change) (store : MemoryFiles) :
    MemoryFiles.Aged store (change.apply store) := by
  cases change with
  | addFile path contents => exact (MemoryFiles.ticked_addFile store path contents).aged
  | touch path => exact (MemoryFiles.ticked_touch store path).aged
  | write path contents =>
    rcases store.write_cases path contents with written | unwritten
    · exact written.ticked.aged
    · exact unwritten.aged
  | createDirectories directory => exact (store.createDirectories_unwritten directory).aged
  | removeTree directory => exact store.removeTree_aged directory
  | setReadOnly value => exact .of_subset rfl fun _ _ found => found

theorem Change.dated {change : Change} {store : MemoryFiles} (dated : store.Dated) :
    (change.apply store).Dated :=
  (change.aged store).dated dated

def sampleConfig : Config :=
  { cacheRoot := "c", searchPath := "p", searchPaths := .ofList [("p", ["l"])] }

def sampleBackends : Backends :=
  ⟨Backend.moonEcho, Backend.yueEcho⟩

/-- A realm with short names, echoing backends and a host that runs everything, on no files. -/
def sample : Realm MemoryFiles :=
  start (.ofBackends sampleConfig sampleBackends) ⟨fun _ => true⟩ {}

theorem tidyDirectories_sampleConfig : sampleConfig.TidyDirectories := by
  decide +kernel

end DialectLoader.Realm
