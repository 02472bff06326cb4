import DialectLoader.Proofs.Realm.GeneratedCode
import DialectLoader.Proofs.Realm.Watching

/-!
# Reloading included scripts

A script that was included and is watched under its own name is reloaded at the tick after its file
was reported: either its code is handed to the host or an error about it is reported. It is watched
under its own name when no search directory lies below another. Together with what makes a realm
watch the scripts it runs this says when no change of an included script is missed.

Reports are taken as they come. Whether the operating system reports a change at all, and how often,
is outside of this: `fileModified` is where its events enter, and a change that nobody reports stays
unnoticed. Time is the number that a tick is given, so nothing is said about how often ticks come.
-/

namespace DialectLoader

open DialectLoader.Path (Normal)

/-- Search directories none of which lies below another. Where one does, a file can be reached by
two logical paths, and only the one under which it was read first is watched. -/
def Config.ApartDirectories (config : Config) : Prop :=
  ∀ left ∈ config.searchPaths.directories config.searchPath,
    ∀ right ∈ config.searchPaths.directories config.searchPath,
      left = right ∨ MemoryFiles.Disjoint left right

instance (config : Config) : Decidable config.ApartDirectories :=
  inferInstanceAs (Decidable (∀ left ∈ _, ∀ right ∈ _, _ ∨ _))

namespace Realm

variable {config : Config} {backends : Backends} {realm later : Realm MemoryFiles}
  {logical output path : String} {key : List String} {events : List Event}

/-- Between two states of a realm its host was asked to run the code of a script, or an error about
the script or its code was reported. Whether the host then managed to run the code is its own
affair. -/
def Reloaded (realm later : Realm MemoryFiles) (logical : String) : Prop :=
  (∃ more, later.ran = realm.ran ++ more ∧ Path.output logical ∈ more) ∨
    ∃ error more, (CompileError.path error = logical ∨ error.path = realm.pipeline.target logical) ∧
      later.diagnostics = realm.diagnostics ++ more ∧ Diagnostic.ofError error ∈ more

/-- A reload within a longer stretch of time is a reload. Both lists only grow, so what was added in
between is still among the additions. -/
theorem Reloaded.within {first last : Realm MemoryFiles} (reloaded : realm.Reloaded later logical)
    (before : first.Extends realm) (after : later.Extends last) : first.Reloaded last logical := by
  rcases reloaded with ⟨more, ran, member⟩ | ⟨error, more, about, reported, member⟩
  · obtain ⟨earlier, start⟩ := before.ran
    obtain ⟨further, ending⟩ := after.ran
    refine .inl ⟨earlier ++ (more ++ further), ?_, by simp [member]⟩
    rw [← ending, ran, ← start]
    simp
  · obtain ⟨earlier, start⟩ := before.diagnostics
    obtain ⟨further, ending⟩ := after.diagnostics
    refine .inr ⟨error, earlier ++ (more ++ further), before.pipeline ▸ about, ?_, by simp [member]⟩
    rw [← ending, reported, ← start]
    simp

/-- A workspace in which a script can be found and a file is watched under its name. The file need
not be the one behind the script any more; a report of it still reloads the script. -/
structure Follows (config : Config) (key : List String) (logical : String)
    (workspace : Workspace MemoryFiles) : Prop where
  covers : Pipeline.Covers config workspace
  found : ∃ path file, Pipeline.behind? config workspace.store logical = some (path, file)
  known : workspace.watch.registered[key]? = some logical

/-- A change that removes nothing keeps following a script: another file may come before the one
behind it, but there is always one. -/
theorem Follows.of_forward {workspace : Workspace MemoryFiles}
    (follows : Follows config key logical workspace) {changed : MemoryFiles}
    (forward : MemoryFiles.Forward workspace.store changed) :
    Follows config key logical { workspace with store := changed } := by
  refine ⟨follows.covers.of_forward forward, ?_, follows.known⟩
  rcases forward.behind config.searchPaths logical config.searchPath
    with same | ⟨path, file, now, _⟩
  · obtain ⟨path, file, behind⟩ := follows.found
    exact ⟨path, file, same.trans behind⟩
  · exact ⟨path, file, now⟩

/-- Reports and ticks change the queue of the watch and nothing that following a script depends
on. -/
theorem ignoresEvents_follows :
    Pipeline.IgnoresEvents fun workspace => workspace.Tidy ∧ Follows config key logical workspace :=
  Pipeline.IgnoresEvents.and_tidy fun follows same =>
    ⟨follows.covers.of_watch (fun _ known => same.registered ▸ known) same.debounceMs,
      follows.found, same.registered ▸ follows.known⟩

/-- Every watched file is one that its name can stand for: it lies where one of the search
directories would have it. -/
def Named (config : Config) (workspace : Workspace MemoryFiles) : Prop :=
  ∀ (key : List String) (name : String), workspace.watch.registered[key]? = some name →
    ∃ directory ∈ config.searchPaths.directories config.searchPath,
      key = MemoryFiles.fileKey (Path.join directory name)

theorem ignoresEvents_named :
    Pipeline.IgnoresEvents fun workspace => workspace.Tidy ∧ Named config workspace :=
  Pipeline.IgnoresEvents.and_tidy fun named same => by
    rw [Named, same.registered]
    exact named

/-- A script that the host was told to run upon its inclusion is noted as included, so the realm
will reload it on its own account. -/
theorem mem_included (normal : Normal logical) (script : (Dialect.ofPath? logical).isSome = true)
    (answered : realm.prepare logical .inclusion = (.run output, later)) :
    logical ∈ later.included := by
  rw [prepare_inclusion script, normal.fixed] at answered
  split at answered
  · have served : _ = later := congrArg Prod.snd answered
    rw [serve_realm] at served
    rw [← served, (compile_spec _ _).2.2.1]
    simp
  · cases answered

/-- A script is rested when the time that scripts rest has passed since it was last acted on, and if
it was never acted on it is rested at any time. -/
theorem isRested_of {workspace : Workspace MemoryFiles} (covers : Pipeline.Covers config workspace)
    {now : Nat} (rested : ∀ last, workspace.watch.lastAction[logical]? = some last →
      last + config.debounceMs ≤ now) :
    workspace.watch.isRested now logical = true := by
  rw [Watch.isRested]
  split
  · rename_i last acted
    have passed := rested last acted
    rw [decide_eq_true_eq, covers.debounce]
    omega
  · rfl

/-- Reloading a script that was included runs its code or reports an error. It cannot be passed
over, since the script can be found, nor suppressed, since its inclusion is noted. -/
theorem reloaded_reload (same : realm.pipeline = Pipeline.ofBackends config backends)
    (follows : Follows config key logical realm.workspace) (normal : Normal logical)
    (script : (Dialect.ofPath? logical).isSome = true) (noted : logical ∈ realm.included)
    (names : List String) : realm.Reloaded (reload (names, realm) logical).2 logical := by
  obtain ⟨covers, ⟨path, file, behind⟩, _⟩ := follows
  have prepared : realm.prepare logical .ownReload = realm.serve logical := by
    have found : realm.findSource logical = some logical := by
      rw [findSource, if_pos script, if_pos ((hasScript_iff same).mpr ⟨path, file, behind⟩)]
    simp only [prepare, found, normal.fixed]
    rw [if_pos (Std.ExtTreeSet.contains_iff_mem.mpr noted)]
  simp only [reload, if_pos script, prepared]
  rcases serve_cases same logical with
    ⟨artifact, changed, done, effect⟩ | ⟨artifact, changed, done, effect⟩ |
      ⟨error, changed, done, effect⟩
  · rw [done]
    cases effect with
    | compiled => exact .inl ⟨_, rfl, List.mem_singleton_self _⟩
  -- A fresh artifact is one that the realm compiled itself, so its code is at the usual path.
  · rw [done]
    cases effect with
    | reused _ there _ found fresh =>
      rcases covers.watched normal script found there with newer | ⟨_, output⟩
      · rw [fresh] at newer
        cases newer
      · exact .inl ⟨_, rfl, by simp [output]⟩
  · rw [done]
    refine .inr ⟨error, [Diagnostic.ofError error], ?_, rfl, List.mem_singleton_self _⟩
    rw [same]
    cases effect with
    | refused about => exact .inl about
    | failed _ _ _ _ _ about => exact about

section Directories

variable (directories : config.TidyDirectories)

include directories

/-- The operations of a pipeline keep following a script: they write no script, forget no watched
file and keep what is known of the artifacts. -/
theorem kept_follows (key : List String) (script : (Dialect.ofPath? logical).isSome = true) :
    Pipeline.Kept config backends fun workspace =>
      workspace.Tidy ∧ Follows config key logical workspace := by
  refine (Pipeline.Stable.of_tidy (Q := Follows config key logical) ?_ ?_).kept directories
  · rintro workspace changed _ _ _ ⟨covers, ⟨path, file, behind⟩, known⟩ normal effect
    have still := Pipeline.behind?_of_spares config effect.sparesScripts script
    exact ⟨covers.effect normal effect, ⟨path, file, still.trans behind⟩, effect.registered known⟩
  · rintro workspace ⟨covers, ⟨path, file, behind⟩, known⟩
    have still := Pipeline.behind?_of_spares config
      (Pipeline.sparesScripts_persist (Pipeline.ofBackends config backends) workspace) script
    refine ⟨covers.persist, ⟨path, file, still.trans behind⟩, ?_⟩
    rw [Pipeline.persist_eq]
    exact known

/-- The operations of a pipeline give the files that they watch names that stand for them, since a
file is watched under the name by which it was found. -/
theorem kept_named :
    Pipeline.Kept config backends fun workspace => workspace.Tidy ∧ Named config workspace := by
  have watching {workspace : Workspace MemoryFiles} {logical : String}
      (named : Named config workspace) (key : List String) (name : String)
      (known : (Pipeline.watching config workspace logical).registered[key]? = some name) :
      ∃ directory ∈ config.searchPaths.directories config.searchPath,
        key = MemoryFiles.fileKey (Path.join directory name) := by
    rcases Pipeline.watching_cases known with before | ⟨rfl, path, file, behind, rfl⟩
    · exact named key name before
    · obtain ⟨directory, member, rfl⟩ := (MemoryFiles.behind?_spec behind).2
      exact ⟨directory, member, rfl⟩
  refine (Pipeline.Stable.of_tidy (Q := Named config) ?_ ?_).kept directories
  · intro workspace changed logical force result named _ effect
    rcases effect.watch_cases with same | watched
    · rw [Named, same]
      exact named
    · rw [Named, watched]
      exact watching named
  · intro workspace named
    rw [Named, Pipeline.persist_eq]
    exact named

/-- Where no search directory lies below another a watched script is watched under its own name. Two
names of one file would need two directories, one of them below the other. -/
theorem own_name (apart : config.ApartDirectories) {workspace : Workspace MemoryFiles}
    (tidy : workspace.Tidy) (named : Named config workspace) {file : StoredFile}
    (normal : Normal logical)
    (behind : Pipeline.behind? config workspace.store logical = some (path, file))
    (watched : MemoryFiles.fileKey path ∈ workspace.watch.registered) :
    workspace.watch.registered[MemoryFiles.fileKey path]? = some logical := by
  rw [Std.ExtTreeMap.mem_iff_isSome_getElem?] at watched
  obtain ⟨name, known⟩ := Option.isSome_iff_exists.mp watched
  obtain ⟨directory, member, rfl⟩ := (MemoryFiles.behind?_spec behind).2
  obtain ⟨other, otherMember, key⟩ := named _ _ known
  have outer := directories directory member
  have otherOuter := directories other otherMember
  have otherNormal := tidy.watch _ _ known
  have same := MemoryFiles.fileKey_injective (outer.join normal) (otherOuter.join otherNormal) key
  rcases apart directory member other otherMember with equal | disjoint
  · rw [← equal] at same
    rw [known, Path.join_injective outer.closed normal otherNormal same]
  · have below := disjoint.isBelow (MemoryFiles.isBelow_join outer normal)
    rw [same, MemoryFiles.isBelow_join otherOuter otherNormal] at below
    cases below

section Settings

variable (same : realm.pipeline = Pipeline.ofBackends config backends)
  (tidy : realm.workspace.Tidy)

include same tidy

variable (realm) in
/-- Among scripts that are reloaded one after another each that was included runs, or an error is
reported. The scripts reloaded before it keep following it, and those after it take nothing back. -/
theorem reloaded_reloads (follows : Follows config key logical realm.workspace)
    (normal : Normal logical) (script : (Dialect.ofPath? logical).isSome = true)
    (noted : logical ∈ realm.included) {sources : List String}
    (allNormal : ∀ source ∈ sources, Normal source) (member : logical ∈ sources) :
    realm.Reloaded (sources.foldl reload ([], realm)).2 logical := by
  have kept : Pipeline.Kept config backends _ := kept_follows directories key script
  obtain ⟨earlier, further, rfl⟩ := List.append_of_mem member
  have earlierNormal : ∀ source ∈ earlier, Normal source :=
    fun source inside => allNormal source (by simp [inside])
  have furtherNormal : ∀ source ∈ further, Normal source :=
    fun source inside => allNormal source (by simp [inside])
  rw [List.foldl_append, List.foldl_cons]
  have before := leads_reloads kept realm same ⟨tidy, follows⟩ earlierNormal []
  generalize earlier.foldl reload ([], realm) = state at before ⊢
  obtain ⟨names, current⟩ := state
  have pipeline := before.extended.pipeline.trans same
  have reloaded := reloaded_reload pipeline before.holds.2 normal script
    (before.extended.included logical noted) names
  have here := leads_reload kept current pipeline before.holds names normal
  generalize reload (names, current) logical = state at reloaded here ⊢
  obtain ⟨names, next⟩ := state
  have after := leads_reloads kept next (here.extended.pipeline.trans pipeline) here.holds
    furtherNormal names
  exact reloaded.within before.extended after.extended

/-- A tick reloads an included script that is watched under its own name and rested, if its file was
reported. The tick empties the queue first, which following the script does not depend on. -/
theorem reloaded_think (follows : Follows config key logical realm.workspace)
    (normal : Normal logical) (script : (Dialect.ofPath? logical).isSome = true)
    (noted : logical ∈ realm.included) (queued : key ∈ realm.workspace.watch.queue) {now : Nat}
    (rested : realm.workspace.watch.isRested now logical = true) :
    realm.Reloaded (realm.think now).2 logical := by
  obtain ⟨files, named⟩ := realm.workspace.watch.think_spec now
  obtain ⟨emptyTidy, emptyFollows⟩ := ignoresEvents_follows ⟨tidy, follows⟩ files
  have reloaded := reloaded_reloads
    { realm with
      workspace := { realm.workspace with watch := (realm.workspace.watch.think now).2 } }
    directories same emptyTidy emptyFollows normal script noted
    (fun source member => by
      obtain ⟨other, there⟩ := named source member
      exact tidy.watch other source there)
    (Watch.mem_think_iff.mpr ⟨⟨key, queued, follows.known⟩, rested⟩)
  exact reloaded

/-- A script is followed from its inclusion on, if its realm watches what it runs. This is where the
search directories have to be apart: else the file could be watched under another name only. -/
theorem follows_of_inclusion (apart : config.ApartDirectories)
    (covers : Pipeline.Covers config realm.workspace) (named : Named config realm.workspace)
    (normal : Normal logical) (script : (Dialect.ofPath? logical).isSome = true)
    (answered : realm.prepare logical .inclusion = (.run output, later))
    (resolved : Logical.resolve? later.workspace.store config.searchPaths logical
      config.searchPath = some path) :
    realm.Extends later ∧ later.workspace.Tidy ∧
      Follows config (MemoryFiles.fileKey path) logical later.workspace := by
  have covered := leads_prepare (Pipeline.kept_covers directories) realm same ⟨tidy, covers⟩ normal
    .inclusion
  have naming := leads_prepare (kept_named directories) realm same ⟨tidy, named⟩ normal .inclusion
  rw [answered] at covered naming
  have watched := watches_of_covers same script covers normal answered
  obtain ⟨place, file, behind, registered⟩ :=
    (watches_iff (covered.extended.pipeline.trans same)).mp watched
  rw [Pipeline.resolve?_behind, behind] at resolved
  cases resolved
  exact ⟨covered.extended, covered.holds.1, covered.holds.2, ⟨_, file, behind⟩,
    own_name directories apart covered.holds.1 naming.holds.2 normal behind registered⟩

section Runs

variable (ordinary : ∀ event ∈ events, event.IsOrdinary)

include ordinary

/-- Ordinary runs give the files that they watch names that stand for them. Changes of the files
have no part in it, since a name is given when a script is read and kept from then on. -/
theorem named_run (named : Named config realm.workspace) :
    Leads (fun workspace => workspace.Tidy ∧ Named config workspace) realm (realm.run events) :=
  leads_run same ordinary (kept_named directories) ⟨tidy, named⟩
    (fun holds tidy _ => ⟨Change.tidy tidy holds.1, holds.2⟩)
    (fun holds => ignoresEvents_named holds ⟨rfl, rfl⟩) fun _ _ => ignoresEvents_named

/-- Ordinary runs keep following a script. Here it matters that they remove nothing: a script that
cannot be found any more is not reloaded. -/
theorem follows_run (script : (Dialect.ofPath? logical).isSome = true)
    (follows : Follows config key logical realm.workspace) :
    Leads (fun workspace => workspace.Tidy ∧ Follows config key logical workspace) realm
      (realm.run events) :=
  leads_run same ordinary (kept_follows directories key script) ⟨tidy, follows⟩
    (fun holds tidy keeps =>
      ⟨Change.tidy tidy holds.1, holds.2.of_forward (Change.forward keeps _)⟩)
    (fun holds => ignoresEvents_follows holds ⟨rfl, rfl⟩) fun _ _ => ignoresEvents_follows

/-- What was reported stays queued until the next tick. Only ticks take something from the queue,
and the run has none. -/
theorem queued_run (queued : key ∈ realm.workspace.watch.queue)
    (quiet : ∀ now, Event.request (.think now) ∉ events) :
    key ∈ (realm.run events).workspace.watch.queue := by
  have kept : Pipeline.Kept config backends
      fun workspace => workspace.Tidy ∧ key ∈ workspace.watch.queue := by
    refine (Pipeline.Stable.of_tidy (Q := fun workspace => key ∈ workspace.watch.queue) ?_ ?_).kept
      directories
    · intro workspace changed logical force result queued _ effect
      rcases effect.watch_cases with same | watching
      · rw [same]
        exact queued
      · rw [watching, Pipeline.watching_queue]
        exact queued
    · intro workspace queued
      rw [Pipeline.persist_eq]
      exact queued
  have led := leads_run same ordinary kept ⟨tidy, queued⟩
    (fun holds tidy _ => ⟨Change.tidy tidy holds.1, holds.2⟩)
    (fun holds => ⟨⟨holds.1.scripts, holds.1.watch⟩, List.mem_append_left _ holds.2⟩)
    (fun now asked => (quiet now asked).elim)
  exact led.holds.2

variable (realm) in
/-- A followed script whose file was reported is reloaded at the next tick, if it is rested by then,
whatever ordinary events come before the tick. -/
theorem reloaded_of_queued (normal : Normal logical)
    (script : (Dialect.ofPath? logical).isSome = true) (noted : logical ∈ realm.included)
    (follows : Follows config key logical realm.workspace)
    (queued : key ∈ realm.workspace.watch.queue)
    (quiet : ∀ now, Event.request (.think now) ∉ events) {now : Nat}
    (rested : ∀ last, (realm.run events).workspace.watch.lastAction[logical]? = some last →
      last + config.debounceMs ≤ now) :
    (realm.run events).Reloaded ((realm.run events).think now).2 logical := by
  have led := follows_run directories same tidy ordinary script follows
  exact reloaded_think directories (led.extended.pipeline.trans same) led.holds.1 led.holds.2 normal
    script (led.extended.included logical noted)
    (queued_run directories same tidy ordinary queued quiet) (isRested_of led.holds.2.covers rested)

end Runs

end Settings

end Directories

/-- A realm that misses no change of an included script. Once the host was told to run the script,
its file may be changed and is reported; then the next tick reloads the script, if it has rested by
then. The events before, in between and meanwhile are any that remove nothing and ask for normal
paths. -/
def ReloadsInclusions (realm : Realm MemoryFiles) : Prop :=
  ∀ before between meanwhile : List Event,
    (∀ event ∈ before ++ between ++ meanwhile, event.IsOrdinary) →
    (∀ now, Event.request (.think now) ∉ meanwhile) →
    ∀ (logical output path : String) (included : Realm MemoryFiles), Normal logical →
      (Dialect.ofPath? logical).isSome = true →
      (realm.run before).prepare logical .inclusion = (.run output, included) →
      Logical.resolve? included.workspace.store realm.config.searchPaths logical
        realm.config.searchPath = some path →
      let changed := included.run between
      let waiting :=
        (changed.fileModified (FileStore.absolute changed.workspace.store path)).run meanwhile
      ∀ now, (∀ last, waiting.workspace.watch.lastAction[logical]? = some last →
          last + realm.config.debounceMs ≤ now) →
        waiting.Reloaded (waiting.think now).2 logical

/-- A realm that watches what it runs misses no change, if no search directory lies below another.
The script is followed from its inclusion on, its report stays queued, and the tick finds both. -/
theorem reloadsInclusions_of_covers (directories : config.TidyDirectories)
    (apart : config.ApartDirectories) (same : realm.pipeline = Pipeline.ofBackends config backends)
    (tidy : realm.workspace.Tidy) (covers : Pipeline.Covers config realm.workspace)
    (named : Named config realm.workspace) : realm.ReloadsInclusions := by
  intro before between meanwhile ordinary quiet logical output path included normal script answered
    resolved changed waiting now rested
  have firstOrdinary : ∀ event ∈ before, event.IsOrdinary :=
    fun event member => ordinary event (by simp [member])
  have nextOrdinary : ∀ event ∈ between, event.IsOrdinary :=
    fun event member => ordinary event (by simp [member])
  have lastOrdinary : ∀ event ∈ meanwhile, event.IsOrdinary :=
    fun event member => ordinary event (by simp [member])
  have settings : realm.config = config := by rw [Realm.config, same, Pipeline.ofBackends_config]
  rw [settings] at resolved rested
  have covered := covers_run same firstOrdinary directories tidy covers
  have naming := named_run directories same tidy firstOrdinary named
  have pipeline := covered.extended.pipeline.trans same
  obtain ⟨extended, includedTidy, follows⟩ := follows_of_inclusion directories pipeline
    covered.holds.1 apart covered.holds.2 naming.holds.2 normal script answered resolved
  have noted := mem_included normal script answered
  have followed := follows_run directories (extended.pipeline.trans pipeline) includedTidy
    nextOrdinary script follows
  have reported : Workspace.Tidy _ ∧ Follows config (MemoryFiles.fileKey path) logical
      (changed.fileModified (FileStore.absolute changed.workspace.store path)).workspace :=
    ignoresEvents_follows followed.holds ⟨rfl, rfl⟩
  have current := followed.extended.pipeline.trans (extended.pipeline.trans pipeline)
  exact reloaded_of_queued
    (changed.fileModified (FileStore.absolute changed.workspace.store path)) directories current
    reported.1 lastOrdinary normal script (followed.extended.included logical noted) reported.2
    (List.mem_append_right _ (List.mem_singleton_self _)) quiet rested

/-- When included scripts are watched and reloaded. In every state of a realm a script that the host
is told to run upon its inclusion is watched afterwards exactly if it was watched before or had to
be compiled. So a realm watches all included scripts exactly if it started with nothing fresh; then
it misses no change of them, if no search directory lies below another. -/
theorem inclusions_watched_iff (config : Config) (backends : Backends) :
    (∀ (realm later : Realm MemoryFiles) (logical output : String),
      realm.pipeline = Pipeline.ofBackends config backends →
      (Dialect.ofPath? logical).isSome = true →
      realm.prepare logical .inclusion = (.run output, later) →
      (later.Watches logical ↔ realm.Watches logical ∨ realm.IsDue logical)) ∧
    ∀ (host : Host) (store : MemoryFiles), config.TidyDirectories → store.TidyScripts →
      store.Dated →
      let realm := start (Pipeline.ofBackends config backends) host store
      (realm.WatchesInclusions ↔ realm.NothingFresh) ∧
        (realm.NothingFresh → config.ApartDirectories → realm.ReloadsInclusions) := by
  constructor
  · intro realm later logical output same script answered
    exact watches_prepare_iff same script answered
  · intro host store directories scripts dated realm
    refine ⟨watchesInclusions_iff directories host scripts dated, fun nothing apart => ?_⟩
    refine reloadsInclusions_of_covers directories apart rfl (start_tidy _ host scripts)
      (covers_start dated nothing) ?_
    intro key name known
    rw [(start_spec _ host store).2.1] at known
    simp at known

/-- How a script is added and included for the first time. -/
def firstInclusion : List Event :=
  [.change (.addFile "l/a.moon" (Text.utf8 "x")), .request (.prepare "a.moon" .inclusion)]

/-- A script is included and then edited. The manifest keeps listing the artifact of the first
text, which is older than the file from now on. -/
def editedInclusion : List Event :=
  firstInclusion ++ [.change (.addFile "l/a.moon" (Text.utf8 "y"))]

/-- The realm that starts on the files of `editedInclusion`. Besides the script these hold its
generated code and the manifest, so the realm begins with a stale artifact and watches nothing. -/
def successor : Realm MemoryFiles :=
  start (.ofBackends sampleConfig sampleBackends) ⟨fun _ => true⟩
    (sample.run editedInclusion).workspace.store

theorem nothingFresh_sample : sample.NothingFresh := by
  intro logical artifact _ _ found
  have empty : sample.workspace.cache = .empty := rfl
  simp [empty, Cache.lookup, Cache.empty] at found

/-- What the run that `successor` follows keeps: the paths of scripts are normal, no file is from
the future, and the settings are those of the sample. -/
theorem led_editedInclusion :
    Leads (fun workspace => workspace.Tidy ∧ Pipeline.Covers sampleConfig workspace) sample
      (sample.run editedInclusion) := by
  have ordinary : ∀ event ∈ editedInclusion, event.IsOrdinary := by decide +kernel
  exact covers_run (by rfl) ordinary tidyDirectories_sampleConfig
    (start_tidy _ _ MemoryFiles.tidyScripts_empty)
    (covers_start MemoryFiles.dated_empty nothingFresh_sample)

/-- `successor` resumes the realm before it: the manifest is read as it was written. Nothing has to
be decoded to know how it goes on. -/
theorem successor_eq : successor = resume (sample.run editedInclusion) := by
  have foreign : ∀ event ∈ editedInclusion, event.Admits (Change.IsForeign sampleConfig) := by
    decide +kernel
  have fits : sample.FitsAtRestarts (editedInclusion ++ [.restart]) := by decide +kernel
  have restarted : sample.run (editedInclusion ++ [.restart]) =
      resume (sample.run editedInclusion) :=
    sample_append_restart editedInclusion [] foreign fits
  have extended := led_editedInclusion.extended
  rw [run_append_singleton, Event.perform, extended.pipeline, extended.host] at restarted
  exact restarted

/-- The one artifact that `successor` takes over is older than the script that it belongs to. -/
theorem nothingFresh_successor : successor.NothingFresh := by
  rw [successor_eq]
  have listed : (sample.run editedInclusion).workspace.cache.artifacts.map
      (fun artifact => (artifact.sourcePath, artifact.signal.seconds)) = [("a.moon", 1)] := by
    decide +kernel
  have consistent := led_editedInclusion.holds.2.consistent
  intro logical artifact normal _ found
  have member := List.mem_map_of_mem
    (f := fun artifact : Artifact => (artifact.sourcePath, artifact.signal.seconds))
    (Cache.mem_artifacts.mpr ⟨_, found⟩)
  change _ ∈ (sample.run editedInclusion).workspace.cache.artifacts.map _ at member
  rw [listed, List.mem_singleton, Prod.mk.injEq] at member
  have named : artifact.sourcePath = logical := consistent.sourcePath_of_lookup normal.fixed
    (by rw [member.1]; decide +kernel) found
  rw [← named, member.1, member.2]
  refine ⟨fun _ => ⟨⟨4, 0⟩, ?_, ?_⟩, fun _ => ?_⟩
  · rfl
  · decide +kernel
  · decide +kernel

/-- After its stale artifact was taken over from a manifest, a script is watched from its inclusion
on, and an edit of it that is reported is reloaded at the next tick. -/
theorem stale_inclusion_reloaded :
    successor.workspace.cache.artifacts.map (·.sourcePath) = ["a.moon"] ∧ successor.NothingFresh ∧
      ∃ included, successor.prepare "a.moon" .inclusion = (.run "a.lua", included) ∧
        included.Watches "a.moon" ∧
        let edited := included.run [.change (.addFile "l/a.moon" (Text.utf8 "z"))]
        let reported := edited.fileModified (FileStore.absolute edited.workspace.store "l/a.moon")
        (reported.think 1000).1 = ["a.moon"] ∧
          reported.Reloaded (reported.think 1000).2 "a.moon" := by
  have apart : sampleConfig.ApartDirectories := by decide +kernel
  have normal : Normal "a.moon" := by decide +kernel
  have script : (Dialect.ofPath? "a.moon").isSome = true := by decide +kernel
  have ordinary : ∀ event ∈ [Event.change (.addFile "l/a.moon" (Text.utf8 "z"))],
      event.IsOrdinary := by
    decide +kernel
  have led := led_editedInclusion.holds
  obtain ⟨watched, reloaded⟩ :=
    (inclusions_watched_iff sampleConfig sampleBackends).2 ⟨fun _ => true⟩ _
      tidyDirectories_sampleConfig led.1.scripts led.2.dated
  have facts : successor.workspace.cache.artifacts.map (·.sourcePath) = ["a.moon"] ∧
      (successor.prepare "a.moon" .inclusion).1 = .run "a.lua" ∧
      (successor.prepare "a.moon" .inclusion).2.workspace.watch.lastAction.isEmpty = true ∧
      Logical.resolve? (successor.prepare "a.moon" .inclusion).2.workspace.store
        sampleConfig.searchPaths "a.moon"
        sampleConfig.searchPath = some "l/a.moon" ∧
      ((((successor.prepare "a.moon" .inclusion).2.run
        [.change (.addFile "l/a.moon" (Text.utf8 "z"))]).fileModified
        "/mock/l/a.moon").think 1000).1 = ["a.moon"] := by
    rw [successor_eq]
    decide +kernel
  rcases answered : successor.prepare "a.moon" .inclusion with ⟨answer, included⟩
  rw [answered] at facts
  obtain ⟨listed, rfl, idle, resolved, named⟩ := facts
  refine ⟨listed, nothingFresh_successor, included, rfl, ?_, named, ?_⟩
  · exact watched.mpr nothingFresh_successor [] (by simp) _ _ _ normal script answered
  · refine reloaded nothingFresh_successor apart []
      [.change (.addFile "l/a.moon" (Text.utf8 "z"))] []
      (by simpa using ordinary) (by simp) _ _ _ _ normal script answered resolved 1000
        fun last acted => ?_
    change included.workspace.watch.lastAction["a.moon"]? = some last at acted
    rw [Std.ExtTreeMap.isEmpty_iff.mp idle] at acted
    simp at acted

/-- The answer to a script that is included, and included again after a restart. -/
def resumed : Response × Realm MemoryFiles :=
  (sample.run
    [.change (.addFile "l/a.moon" (Text.utf8 "x")), .request (.prepare "a.moon" .inclusion),
    .restart]).prepare "a.moon" .inclusion

/-- The realm of `resumed` after the script was edited and the change was reported. -/
def resumedEdit : Realm MemoryFiles :=
  resumed.2.run
    [.change (.addFile "l/a.moon" (Text.utf8 "y")), .request (.fileModified "/mock/l/a.moon")]

/-- A script that is included after a restart is not always watched: with a fresh artifact from the
manifest the host is told to run its code, nothing is watched, and a change that is reported goes
unnoticed. -/
theorem resumed_inclusion_missed :
    resumed.1 = .run "a.lua" ∧ ¬ resumed.2.Watches "a.moon" ∧
      ¬ resumedEdit.Reloaded (resumedEdit.think 1000).2 "a.moon" := by
  have foreign : ∀ event ∈ firstInclusion, event.Admits (Change.IsForeign sampleConfig) := by
    decide +kernel
  have fits : sample.FitsAtRestarts (firstInclusion ++ [.restart]) := by decide +kernel
  have taken : resumed = (resume (sample.run firstInclusion)).prepare "a.moon" .inclusion :=
    congrArg (·.prepare "a.moon" .inclusion)
      (sample_append_restart firstInclusion [] foreign fits)
  have facts : resumed.1 = .run "a.lua" ∧ resumed.2.workspace.watch.registered.isEmpty = true ∧
      (resumedEdit.think 1000).2.ran = [] ∧ (resumedEdit.think 1000).2.diagnostics.length = 0 := by
    rw [resumedEdit, taken]
    decide +kernel
  obtain ⟨told, unwatched, idle, silent⟩ := facts
  refine ⟨told, ?_, ?_⟩
  · rintro ⟨path, _, watched⟩
    rw [Std.ExtTreeMap.isEmpty_iff.mp unwatched] at watched
    exact absurd watched Std.ExtTreeMap.not_mem_empty
  · rintro (⟨more, ran, member⟩ | ⟨_, more, _, reported, member⟩)
    · simp [(List.append_eq_nil_iff.mp (ran.symm.trans idle)).2] at member
    · have none := reported.symm.trans (List.eq_nil_of_length_eq_zero silent)
      simp [(List.append_eq_nil_iff.mp none).2] at member

end Realm

end DialectLoader
