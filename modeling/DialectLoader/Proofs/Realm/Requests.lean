import DialectLoader.Proofs.Realm.Names

/-!
# What requests do to a realm

Whatever a request does to the workspace of a realm it does by compiling scripts with normal paths,
by precaching directories and by changing the queue of the watch. A property of workspaces that
these keep is kept by every request. Compiling and precaching in turn come down to the effects of
single compilations and to writing the manifest, so for most properties these two are all that is to
be looked at.

Requests come one at a time. The program guards a realm by locks, and two requests that overlap take
turns at its parts; such interleavings are not followed here.
-/

namespace DialectLoader

open DialectLoader.Path (Normal)

/-- A workspace in which scripts have normal paths, those on disk as well as those that are
watched. -/
structure Workspace.Tidy (workspace : Workspace MemoryFiles) : Prop where
  scripts : workspace.store.TidyScripts
  watch : workspace.watch.Tidy

theorem Workspace.tidy_of_scripts {store : MemoryFiles} (scripts : store.TidyScripts)
    (debounceMs : Nat) : Workspace.Tidy { store, watch := { debounceMs } } :=
  ⟨scripts, fun key logical known => by simp at known⟩

namespace Pipeline

variable {config : Config} {backends : Backends} {P : Workspace MemoryFiles → Prop}

/-- A property of workspaces that compiling keeps, whatever comes of it, and persisting as well.
This is what a new property has to be shown to be. -/
structure Stable (config : Config) (backends : Backends) (P : Workspace MemoryFiles → Prop) :
    Prop where
  tidy : ∀ {workspace}, P workspace → workspace.Tidy
  effect : ∀ {workspace changed : Workspace MemoryFiles} {logical : String} {force : Bool}
    {result : Except CompileError (Artifact × Bool)}, P workspace → Normal logical →
    Effect config backends workspace logical force result changed → P changed
  persist : ∀ {workspace}, P workspace → P ((ofBackends config backends).persist workspace)

/-- A property of workspaces that the operations of a pipeline keep: compiling a script, and
precaching a directory. -/
structure Kept (config : Config) (backends : Backends) (P : Workspace MemoryFiles → Prop) :
    Prop where
  tidy : ∀ {workspace}, P workspace → workspace.Tidy
  compile : ∀ {workspace} {logical : String} {force : Bool}, P workspace → Normal logical →
    P ((ofBackends config backends).compile workspace logical force).2
  precache : ∀ {workspace} {directory : String}, P workspace → (directory = "" ∨ Normal directory) →
    P ((ofBackends config backends).precacheDirectory workspace directory).2

/-- A property of workspaces that depends on the watch only through the files that are watched. Such
properties survive reports and ticks. -/
def IgnoresEvents (P : Workspace MemoryFiles → Prop) : Prop :=
  ∀ {workspace : Workspace MemoryFiles} {watch : Watch}, P workspace →
    workspace.watch.SameFiles watch → P { workspace with watch }

/-- What single compilations and persisting keep is kept by all operations. The search directories
are tidy, so only normal paths are compiled. -/
theorem Stable.kept (stable : Stable config backends P) (directories : config.TidyDirectories) :
    Kept config backends P where
  tidy := stable.tidy
  compile := by
    intro workspace logical force holds normal
    rcases compile_cases workspace logical force with
      ⟨_, _, done, effect⟩ | ⟨_, _, done, effect⟩ | ⟨_, _, done, effect⟩
    · rw [done]
      exact stable.persist (stable.effect holds normal effect)
    · rw [done]
      exact stable.effect holds normal effect
    · rw [done]
      exact stable.effect holds normal effect
  precache := by
    intro workspace directory holds inner
    have normal : ∀ logical ∈ (ofBackends config backends).scriptsBelow workspace.store directory,
        Normal logical :=
      fun logical member =>
        normal_of_mem_scriptsBelow directories (stable.tidy holds).scripts inner member
    exact holds_precacheDirectory (fun holds logical member =>
      stable.effect holds (normal logical member) (compileUnsaved_effect _ logical false))
        stable.persist holds

theorem tidyScripts_of_spares {store changed : MemoryFiles}
    (spares : MemoryFiles.SparesScripts store changed) (scripts : store.TidyScripts) :
    changed.TidyScripts := by
  intro other file found script
  apply scripts other file _ script
  rcases spares with unwritten | ⟨path, contents, written, noScript⟩
  · rw [← unwritten.files]
    exact found
  · rw [← written.elsewhere _]
    · exact found
    · rintro rfl
      simp [noScript] at script

theorem tidy_watching {workspace : Workspace MemoryFiles} (tidy : workspace.watch.Tidy)
    {logical : String} (normal : Normal logical) : (watching config workspace logical).Tidy := by
  intro key other known
  simp only [watching, Watch.register] at known
  split at known
  · exact tidy key other known
  · rw [Std.ExtTreeMap.getElem?_insertIfNew] at known
    split at known
    · rw [← Option.some.inj known]
      exact normal
    · exact tidy key other known

/-- Compiling a script with a normal path keeps a workspace tidy, since no script is written and the
path is what is watched. -/
theorem Effect.tidy {workspace changed : Workspace MemoryFiles} {logical : String} {force : Bool}
    {result : Except CompileError (Artifact × Bool)}
    (effect : Effect config backends workspace logical force result changed)
    (normal : Normal logical) (tidy : workspace.Tidy) : changed.Tidy := by
  refine ⟨tidyScripts_of_spares effect.sparesScripts tidy.scripts, ?_⟩
  rcases effect.watch_cases with same | watching
  · rw [same]
    exact tidy.watch
  · rw [watching]
    exact tidy_watching tidy.watch normal

theorem tidy_persist (pipeline : Pipeline MemoryFiles) {workspace : Workspace MemoryFiles}
    (tidy : workspace.Tidy) : (pipeline.persist workspace).Tidy := by
  rw [persist_eq]
  exact ⟨tidyScripts_of_spares (sparesScripts_persist pipeline workspace) tidy.scripts, tidy.watch⟩

/-- A property is stable together with tidiness if effects and persisting keep it, as they keep
workspaces tidy anyway. -/
theorem Stable.of_tidy {Q : Workspace MemoryFiles → Prop}
    (effect : ∀ {workspace changed : Workspace MemoryFiles} {logical : String} {force : Bool}
      {result : Except CompileError (Artifact × Bool)}, Q workspace → Normal logical →
      Effect config backends workspace logical force result changed → Q changed)
    (persist : ∀ {workspace}, Q workspace → Q ((ofBackends config backends).persist workspace)) :
    Stable config backends fun workspace => workspace.Tidy ∧ Q workspace where
  tidy := And.left
  effect := fun holds normal done => ⟨done.tidy normal holds.1, effect holds.2 normal done⟩
  persist := fun holds => ⟨tidy_persist _ holds.1, persist holds.2⟩

theorem IgnoresEvents.and_tidy {Q : Workspace MemoryFiles → Prop} (ignores : IgnoresEvents Q) :
    IgnoresEvents fun workspace => workspace.Tidy ∧ Q workspace := by
  intro workspace watch holds same
  refine ⟨⟨holds.1.scripts, ?_⟩, ignores holds.2 same⟩
  intro key logical known
  rw [same.registered] at known
  exact holds.1.watch key logical known

end Pipeline

namespace Realm

variable {config : Config} {backends : Backends} {P : Workspace MemoryFiles → Prop}

/-- A realm that is the same one at a later time: it has forgotten nothing that it tells others. -/
structure Extends (realm later : Realm MemoryFiles) : Prop where
  pipeline : later.pipeline = realm.pipeline
  host : later.host = realm.host
  included : ∀ key ∈ realm.included, key ∈ later.included
  ran : realm.ran <+: later.ran
  diagnostics : realm.diagnostics <+: later.diagnostics

namespace Extends

theorem refl (realm : Realm MemoryFiles) : realm.Extends realm :=
  ⟨rfl, rfl, fun _ known => known, List.prefix_rfl, List.prefix_rfl⟩

theorem trans {first second third : Realm MemoryFiles} (left : first.Extends second)
    (right : second.Extends third) : first.Extends third :=
  ⟨right.pipeline.trans left.pipeline, right.host.trans left.host,
    fun key known => right.included key (left.included key known), left.ran.trans right.ran,
    left.diagnostics.trans right.diagnostics⟩

end Extends

/-- A later state of a realm whose workspace has a property. Both what is kept and what has grown
are in it. -/
structure Leads (P : Workspace MemoryFiles → Prop) (realm later : Realm MemoryFiles) : Prop where
  extended : realm.Extends later
  holds : P later.workspace

/-- What compiling a script in a realm does to it: the workspace is that of the pipeline, and an
error may be reported. -/
theorem compile_spec (realm : Realm MemoryFiles) (logical : String) :
    realm.Extends (realm.compile logical).2 ∧
      (realm.compile logical).2.workspace =
        (realm.pipeline.compile realm.workspace logical false).2 ∧
      (realm.compile logical).2.included = realm.included ∧
      (realm.compile logical).2.ran = realm.ran := by
  unfold compile
  rcases realm.pipeline.compile realm.workspace logical false with ⟨_ | _, _⟩
  · exact ⟨⟨rfl, rfl, fun _ known => known, List.prefix_rfl, List.prefix_append _ _⟩, rfl, rfl, rfl⟩
  · exact ⟨⟨rfl, rfl, fun _ known => known, List.prefix_rfl, List.prefix_rfl⟩, rfl, rfl, rfl⟩

/-- A request leaves a realm as it is, or compiles the script behind it and perhaps notes that it
was included. -/
theorem prepare_cases (realm : Realm MemoryFiles) (file : String) (reason : Reason) :
    (realm.prepare file reason).2 = realm ∨
      ∃ source noted, realm.findSource file = some source ∧ (∀ key ∈ realm.included, key ∈ noted) ∧
        realm.prepare file reason = { realm with included := noted }.serve source := by
  unfold prepare
  cases found : realm.findSource file with
  | none => exact .inl rfl
  | some source =>
    cases reason with
    | inclusion =>
      exact .inr ⟨source, _, rfl, fun key known => by simp [known], rfl⟩
    | startup => exact .inr ⟨source, realm.included, rfl, fun _ known => known, rfl⟩
    | hostReload => exact .inl rfl
    | ownReload =>
      dsimp only
      split
      · exact .inr ⟨source, realm.included, rfl, fun _ known => known, rfl⟩
      · exact .inl rfl

/-- Serving a script has the effect of compiling it on a realm; only the answer is another one. -/
theorem serve_realm (realm : Realm MemoryFiles) (source : String) :
    (realm.serve source).2 = (realm.compile source).2 := by
  unfold serve
  rcases realm.compile source with ⟨_ | _, _⟩ <;> rfl

/-- Asking for a client file leaves a realm as it is, or compiles the script behind the file. -/
theorem clientFile_cases (realm : Realm MemoryFiles) (file : String) :
    (realm.clientFile file).2 = realm ∨
      ∃ source, realm.findSource file = some source ∧
      (realm.clientFile file).2 = (realm.compile source).2 := by
  unfold clientFile
  cases found : realm.findSource file with
  | none => exact .inl rfl
  | some source =>
    right
    refine ⟨source, rfl, ?_⟩
    dsimp only
    rcases realm.compile source with ⟨_ | _, _⟩ <;> rfl

/-- Reloading a script leaves a realm as it is, or prepares the script and perhaps notes that its
code ran. -/
theorem reload_cases (names : List String) (realm : Realm MemoryFiles) (source : String) :
    (reload (names, realm) source).2 = realm ∨
      ∃ more, (reload (names, realm) source).2 = { (realm.prepare source .ownReload).2 with
        ran := (realm.prepare source .ownReload).2.ran ++ more } := by
  unfold reload
  dsimp only
  split
  · right
    rcases realm.prepare source .ownReload with ⟨_ | path | _, later⟩
    · exact ⟨[], by simp⟩
    · exact ⟨[path], rfl⟩
    · exact ⟨[], by simp⟩
  · exact .inl rfl

section Kept

variable (kept : Pipeline.Kept config backends P) (realm : Realm MemoryFiles)
  (same : realm.pipeline = Pipeline.ofBackends config backends) (holds : P realm.workspace)

include kept same holds

/-- Compiling a script with a normal path keeps a property that the operations keep, and forgets
nothing. -/
theorem leads_compile {logical : String} (normal : Normal logical) :
    Leads P realm (realm.compile logical).2 := by
  obtain ⟨extended, workspace, _⟩ := compile_spec realm logical
  refine ⟨extended, ?_⟩
  rw [workspace, same]
  exact kept.compile holds normal

/-- A request for a normal path keeps a property that the operations keep, whatever its reason
is. -/
theorem leads_prepare {file : String} (normal : Normal file) (reason : Reason) :
    Leads P realm (realm.prepare file reason).2 := by
  rcases prepare_cases realm file reason with idle | ⟨source, noted, found, grown, served⟩
  · rw [idle]
    exact ⟨.refl realm, holds⟩
  · rw [served, serve_realm]
    have noting : realm.Extends { realm with included := noted } :=
      ⟨rfl, rfl, grown, List.prefix_rfl, List.prefix_rfl⟩
    have compiled := leads_compile kept { realm with included := noted } same holds
      (normal_of_findSource normal found)
    exact ⟨noting.trans compiled.extended, compiled.holds⟩

/-- Asking for a client file with a normal path keeps a property that the operations keep. -/
theorem leads_clientFile {file : String} (normal : Normal file) :
    Leads P realm (realm.clientFile file).2 := by
  rcases clientFile_cases realm file with idle | ⟨source, found, compiled⟩
  · rw [idle]
    exact ⟨.refl realm, holds⟩
  · rw [compiled]
    exact leads_compile kept realm same holds (normal_of_findSource normal found)

theorem leads_precacheDirectory {directory : String} (inner : directory = "" ∨ Normal directory) :
    Leads P realm (realm.precacheDirectory directory).2 := by
  refine ⟨⟨rfl, rfl, fun _ known => known, List.prefix_rfl, List.prefix_append _ _⟩, ?_⟩
  change P (realm.pipeline.precacheDirectory realm.workspace directory).2
  rw [same]
  exact kept.precache holds inner

/-- Reloading a script with a normal path keeps a property that the operations keep, also if it is
suppressed. -/
theorem leads_reload (names : List String) {source : String} (normal : Normal source) :
    Leads P realm (reload (names, realm) source).2 := by
  rcases reload_cases names realm source with idle | ⟨more, prepared⟩
  · rw [idle]
    exact ⟨.refl realm, holds⟩
  · rw [prepared]
    have ready := leads_prepare kept realm same holds normal .ownReload
    exact ⟨ready.extended.trans ⟨rfl, rfl, fun _ known => known, List.prefix_append _ _,
      List.prefix_rfl⟩, ready.holds⟩

/-- Reloading scripts with normal paths one after another keeps a property that the operations
keep. -/
theorem leads_reloads {sources : List String} (normal : ∀ source ∈ sources, Normal source)
    (names : List String) : Leads P realm (sources.foldl reload (names, realm)).2 := by
  induction sources generalizing names realm with
  | nil => exact ⟨.refl realm, holds⟩
  | cons source rest ih =>
    have first := leads_reload kept realm same holds names (normal source List.mem_cons_self)
    have others := ih _ (first.extended.pipeline.trans same) first.holds
      (fun other member => normal other (List.mem_cons_of_mem _ member))
      (reload (names, realm) source).1
    exact ⟨first.extended.trans others.extended, others.holds⟩

/-- A tick keeps a property that the operations keep and that ignores events. The scripts it names
have normal paths because the watch is tidy. -/
theorem leads_think (ignores : Pipeline.IgnoresEvents P) (now : Nat) :
    Leads P realm (realm.think now).2 := by
  obtain ⟨files, named⟩ := realm.workspace.watch.think_spec now
  have normal : ∀ source ∈ (realm.workspace.watch.think now).1, Normal source := by
    intro source member
    obtain ⟨key, known⟩ := named source member
    exact (kept.tidy holds).watch key source known
  have emptied : realm.Extends
      { realm with
        workspace := { realm.workspace with watch := (realm.workspace.watch.think now).2 } } :=
    ⟨rfl, rfl, fun _ known => known, List.prefix_rfl, List.prefix_rfl⟩
  have reloaded := leads_reloads kept
    { realm with
      workspace := { realm.workspace with watch := (realm.workspace.watch.think now).2 } }
    same (ignores holds files) normal []
  exact ⟨emptied.trans reloaded.extended, reloaded.holds⟩

end Kept

end Realm

end DialectLoader
