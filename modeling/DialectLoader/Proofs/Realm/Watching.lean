import DialectLoader.Proofs.Realm.Run

/-!
# Watching included scripts

A script that is included is watched if it was watched before or had to be compiled. An artifact
that is fresh is reused without its source being read, so the question is what is known of a fresh
artifact. If it was compiled by the realm itself, its source was read and is watched. If it came
from a manifest, nothing watches its source. While no file is removed, a realm that takes over no
artifact that is fresh or can become so watches every script that it lets the host run.

To be watched means to be in the registry of the realm. The watcher of the operating system, which
has to be told about directories and may fail at it, is not part of the model.
-/

namespace DialectLoader

open DialectLoader.Path (Normal)

namespace Realm

variable {config : Config} {backends : Backends} {realm later : Realm MemoryFiles}
    {logical output : String}

/-- Whether the file that a script resolves to is watched, under whatever name. -/
def Watches (realm : Realm MemoryFiles) (logical : String) : Prop :=
  ∃ path, Logical.resolve? realm.workspace.store realm.config.searchPaths logical
      realm.config.searchPath = some path ∧
    Watch.key realm.workspace.store (FileStore.absolute realm.workspace.store path) ∈
      realm.workspace.watch.registered

/-- Whether a script has to be compiled before it can run: it has no artifact, or the file behind it
is newer. -/
def IsDue (realm : Realm MemoryFiles) (logical : String) : Prop :=
  ∃ signal,
    Logical.modified realm.workspace.store realm.config.searchPaths logical
      realm.config.searchPath = .ok signal ∧
    realm.workspace.cache.isStale logical signal = true

/-- Including a script that can be found notes it and serves it; one that cannot be found is passed
through. -/
theorem prepare_inclusion (script : (Dialect.ofPath? logical).isSome = true) :
    realm.prepare logical .inclusion = if realm.hasScript logical then
      { realm with included := realm.included.insert (Path.normalize logical) }.serve logical
      else (.passThrough, realm) := by
  unfold prepare findSource
  rw [if_pos script]
  split <;> rename_i found
  · split at found <;> simp_all
  · split at found <;> simp_all

section Settings

variable (same : realm.pipeline = Pipeline.ofBackends config backends)

include same

theorem watches_iff :
    realm.Watches logical ↔
      ∃ path file, Pipeline.behind? config realm.workspace.store logical = some (path, file) ∧
      MemoryFiles.fileKey path ∈ realm.workspace.watch.registered := by
  simp only [Watches, Realm.config, same]
  simp only [Pipeline.ofBackends, Pipeline.resolve?_behind, MemoryFiles.key_eq,
    Option.map_eq_some_iff, Prod.exists, exists_and_right, exists_eq_right]

/-- A script is due when the file behind it is newer than its artifact, or it has none. -/
theorem isDue_iff :
    realm.IsDue logical ↔
      ∃ path file, Pipeline.behind? config realm.workspace.store logical = some (path, file) ∧
      realm.workspace.cache.isStale logical file.modified = true := by
  simp only [IsDue, Realm.config, same, Pipeline.ofBackends_config, Pipeline.modified_behind]
  cases Pipeline.behind? config realm.workspace.store logical with
  | none => simp
  | some entry =>
    obtain ⟨path, file⟩ := entry
    simp

theorem hasScript_iff :
    realm.hasScript logical = true ↔
      ∃ path file, Pipeline.behind? config realm.workspace.store logical = some (path, file) := by
  simp only [hasScript, Realm.config, same, Pipeline.ofBackends_config, Pipeline.resolve?_behind]
  cases Pipeline.behind? config realm.workspace.store logical with
  | none => simp
  | some entry =>
    obtain ⟨path, file⟩ := entry
    simp

/-- What serving a script comes to: its code is to be run, with the manifest written if it was
compiled, or the error is reported. -/
theorem serve_cases (source : String) :
    (∃ artifact changed, realm.serve source =
        (.run artifact.outputPath, { realm with
          workspace := (Pipeline.ofBackends config backends).persist changed }) ∧
      Pipeline.Effect config backends realm.workspace source false (.ok (artifact, true)) changed) ∨
    (∃ artifact changed,
      realm.serve source = (.run artifact.outputPath, { realm with workspace := changed }) ∧
      Pipeline.Effect config backends realm.workspace source false (.ok (artifact, false))
        changed) ∨
    ∃ error changed,
      realm.serve source = (.suppress, { realm with workspace := changed }.report [error]) ∧
      Pipeline.Effect config backends realm.workspace source false (.error error) changed := by
  unfold serve Realm.compile
  rw [same]
  rcases Pipeline.compile_cases realm.workspace source false with
    ⟨artifact, changed, done, effect⟩ | ⟨artifact, changed, done, effect⟩ | ⟨error, changed,
      done, effect⟩
  · rw [done]
    exact .inl ⟨artifact, changed, rfl, effect⟩
  · rw [done]
    exact .inr (.inl ⟨artifact, changed, rfl, effect⟩)
  · rw [done]
    exact .inr (.inr ⟨error, changed, rfl, effect⟩)

/-- A script that is served is watched afterwards exactly if it was watched before or was due. Only
reading a source makes it watched. -/
theorem watches_serve_iff (script : (Dialect.ofPath? logical).isSome = true)
    (served : realm.serve logical = (.run output, later)) :
    later.Watches logical ↔ realm.Watches logical ∨ realm.IsDue logical := by
  rcases serve_cases same logical with
    ⟨artifact, changed, done, effect⟩ | ⟨artifact, changed, done, effect⟩ | ⟨error, changed,
      done, effect⟩
  · obtain ⟨-, rfl⟩ := Prod.mk.inj (done.symm.trans served)
    have unchanged := (Pipeline.behind?_of_spares config
        (Pipeline.sparesScripts_persist (Pipeline.ofBackends config backends) changed) script).trans
      (Pipeline.behind?_of_spares config effect.sparesScripts script)
    cases effect with
    | compiled _ behind due _ _ _ _ =>
      have stale := due.resolve_left Bool.false_ne_true
      refine ⟨fun _ => .inr ((isDue_iff same).mpr ⟨_, _, behind, stale⟩), fun _ => ?_⟩
      apply (watches_iff (by exact same)).mpr
      refine ⟨_, _, unchanged.trans behind, ?_⟩
      rw [Pipeline.persist_eq]
      exact Pipeline.watching_here behind
  · obtain ⟨-, rfl⟩ := Prod.mk.inj (done.symm.trans served)
    cases effect with
    | reused _ behind _ found fresh =>
      rw [isDue_iff same]
      constructor
      · exact .inl
      · rintro (watched | ⟨path, file, there, stale⟩)
        · exact watched
        · rw [behind] at there
          cases there
          simp [Cache.isStale, found, fresh] at stale
  · rw [done] at served
    cases served

/-- An included script that the host is told to run is watched afterwards exactly if it was watched
before or was due. Nothing is assumed of the realm but its settings. -/
theorem watches_prepare_iff (script : (Dialect.ofPath? logical).isSome = true)
    (answered : realm.prepare logical .inclusion = (.run output, later)) :
    later.Watches logical ↔ realm.Watches logical ∨ realm.IsDue logical := by
  rw [prepare_inclusion script] at answered
  split at answered
  · have noted := watches_serve_iff (by exact same) script answered
    exact noted
  · cases answered

end Settings

end Realm

namespace Pipeline

variable {config : Config} {backends : Backends}

/-- What is known of the artifacts of a workspace whose realm watches what it runs: each is older
than the next change, and the file behind its script is newer or watched. -/
structure Covers (config : Config) (workspace : Workspace MemoryFiles) : Prop where
  debounce : workspace.watch.debounceMs = config.debounceMs
  consistent : workspace.cache.Consistent
  dated : workspace.store.Dated
  past : ∀ {logical : String} {artifact : Artifact}, Normal logical →
    (Dialect.ofPath? logical).isSome = true → workspace.cache.lookup logical = some artifact →
    config.searchPaths.directories config.searchPath ≠ [] →
    artifact.signal.seconds ≤ workspace.store.clock
  watched : ∀ {logical path : String} {artifact : Artifact} {file : StoredFile}, Normal logical →
    (Dialect.ofPath? logical).isSome = true → workspace.cache.lookup logical = some artifact →
    behind? config workspace.store logical = some (path, file) →
    file.modified.later artifact.signal = true ∨
      (MemoryFiles.fileKey path ∈ workspace.watch.registered ∧
        artifact.outputPath = Path.output logical)

/-- What a cache finds after an artifact was stored is that artifact or was there before. -/
theorem lookup_insert {cache : Cache} (consistent : cache.Consistent) {artifact found : Artifact}
    {logical : String} (normal : Normal logical)
    (there : (cache.insert artifact).lookup logical = some found) :
    (found = artifact ∧ artifact.sourceKey = logical) ∨ cache.lookup logical = some found := by
  rw [Cache.lookup, normal.fixed] at there ⊢
  rcases (Cache.bySource_insert_eq_some_iff consistent).mp there with ⟨key, same⟩ | ⟨_, kept, _⟩
  · exact .inl ⟨same, key.symm⟩
  · exact .inr kept

/-- A later state of the files keeps what is known of the artifacts: a file that has come since is
newer than all of them. -/
theorem Covers.of_forward {workspace : Workspace MemoryFiles} (covers : Covers config workspace)
    {changed : MemoryFiles} (forward : MemoryFiles.Forward workspace.store changed) :
    Covers config { workspace with store := changed } where
  debounce := covers.debounce
  consistent := covers.consistent
  dated := forward.dated covers.dated
  past normal script found some := Nat.le_trans (covers.past normal script found some) forward.clock
  watched := by
    intro logical path artifact file normal script found behind
    rcases forward.behind config.searchPaths logical config.searchPath
      with same | ⟨other, newest, now, time⟩
    · exact covers.watched normal script found (same.symm.trans behind)
    · have there : (other, newest) = (path, file) := Option.some.inj (now.symm.trans behind)
      cases there
      have some : config.searchPaths.directories config.searchPath ≠ [] := by
        obtain ⟨directory, member, _⟩ := (MemoryFiles.behind?_spec now).2
        exact List.ne_nil_of_mem member
      exact .inl
        (Signal.later_of_seconds (Nat.lt_of_le_of_lt (covers.past normal script found some) time))

/-- Watching more keeps what is known of the artifacts, as no file is given up. -/
theorem Covers.of_watch {workspace : Workspace MemoryFiles} (covers : Covers config workspace)
    {watch : Watch} {calls : CallCounts}
    (grown : ∀ key ∈ workspace.watch.registered, key ∈ watch.registered)
    (rest : watch.debounceMs = workspace.watch.debounceMs) :
    Covers config { workspace with watch, calls } where
  debounce := rest.trans covers.debounce
  consistent := covers.consistent
  dated := covers.dated
  past := covers.past
  watched normal script found behind :=
    (covers.watched normal script found behind).imp_right fun known => ⟨grown _ known.1, known.2⟩

/-- Compiling a script keeps what is known of the artifacts. The one that is stored has the time of
a file that is watched by now, and the others are as they were; a compilation that fails only
watches more. -/
theorem Covers.effect {workspace changed : Workspace MemoryFiles} (covers : Covers config workspace)
    {logical : String} {force : Bool} {result : Except CompileError (Artifact × Bool)}
    (normal : Normal logical)
    (effect : Effect config backends workspace logical force result changed) :
    Covers config changed := by
  cases effect with
  | refused => exact covers
  | reused => exact covers
  | failed _ _ _ _ _ _ unwritten =>
    exact (covers.of_forward unwritten.forward).of_watch
      (fun _ known => mem_watching known) watching_debounceMs
  | compiled script behind due readable success written still =>
    have dated := written.ticked.dated covers.dated
    constructor
    · exact watching_debounceMs.trans covers.debounce
    · exact covers.consistent.insert _
    · exact dated
    · intro other artifact otherNormal otherScript found some
      rcases lookup_insert covers.consistent otherNormal found with ⟨rfl, _⟩ | kept
      · exact dated _ _ (MemoryFiles.behind?_spec still).1
      · rw [written.clock]
        exact Nat.le_succ_of_le (covers.past otherNormal otherScript kept some)
    · intro other path artifact file otherNormal otherScript found there
      rcases lookup_insert covers.consistent otherNormal found with ⟨rfl, key⟩ | kept
      · have named : logical = other := normal.fixed.symm.trans key
        subst named
        rw [still] at there
        cases there
        exact .inr ⟨watching_here behind, rfl⟩
      · have unchanged :=
          written.ticked.behind?_script (ofPath?_target _ logical) config.searchPaths
          (Option.isSome_iff_ne_none.mp otherScript) config.searchPath
        rcases covers.watched otherNormal otherScript kept (unchanged.symm.trans there)
          with newer | ⟨known, output⟩
        · exact .inl newer
        · exact .inr ⟨mem_watching known, output⟩

/-- Writing the manifest keeps what is known of the artifacts, since it is no script. -/
theorem Covers.persist {workspace : Workspace MemoryFiles} (covers : Covers config workspace) :
    Covers config ((ofBackends config backends).persist workspace) := by
  rw [persist_eq]
  exact covers.of_forward (sparesScripts_persist _ _).forward

/-- The operations of a pipeline keep what is known of the artifacts, together with tidiness. The
search directories are tidy, so that only normal paths are compiled. -/
theorem kept_covers (directories : config.TidyDirectories) :
    Kept config backends fun workspace => workspace.Tidy ∧ Covers config workspace :=
  (Stable.of_tidy (Q := Covers config) (fun covers normal effect => covers.effect normal effect)
    Covers.persist).kept directories

/-- Reports and ticks change the queue of the watch, and what is known of the artifacts does not
mention it. -/
theorem ignoresEvents_covers :
    IgnoresEvents fun workspace => workspace.Tidy ∧ Covers config workspace :=
  IgnoresEvents.and_tidy fun covers same =>
    covers.of_watch (fun _ known => same.registered ▸ known) same.debounceMs

end Pipeline

namespace Realm

variable {config : Config} {backends : Backends}

/-- An event in the life of one realm in which paths are normal and nothing is removed. A restart is
none. -/
def Event.IsOrdinary : Event → Prop
  | change made => made.IsTidy ∧ made.Keeps
  | request made => made.IsNormal
  | restart => False

instance : DecidablePred Event.IsOrdinary
  | .change _ => inferInstanceAs (Decidable (_ ∧ _))
  | .request made => inferInstanceAs (Decidable made.IsNormal)
  | .restart => inferInstanceAs (Decidable False)

/-- Of the artifacts that a realm holds none is fresh, and none is from a time that the clock has
still to reach, so that it could become fresh. -/
def NothingFresh (realm : Realm MemoryFiles) : Prop :=
  ∀ (logical : String) (artifact : Artifact), Normal logical →
    (Dialect.ofPath? logical).isSome = true → realm.workspace.cache.lookup logical = some artifact →
    (realm.hasScript logical = true → realm.IsDue logical) ∧
      (realm.config.searchPaths.directories realm.config.searchPath ≠ [] →
        artifact.signal.seconds ≤ realm.workspace.store.clock)

/-- A realm that starts with nothing fresh watches what it runs so far. It watches nothing yet, so
every artifact has to be older than the file behind its script. -/
theorem covers_start {host : Host} {store : MemoryFiles} (dated : store.Dated)
    (nothing : (start (Pipeline.ofBackends config backends) host store).NothingFresh) :
    Pipeline.Covers config (start (Pipeline.ofBackends config backends) host store).workspace where
  debounce := congrArg Watch.debounceMs (start_spec _ host store).2.1
  consistent := (start_spec _ host store).2.2.1
  dated := by
    intro path file found
    rw [start_clock]
    exact dated path file (start_files found)
  past := fun normal script found some => (nothing _ _ normal script found).2 some
  watched := by
    intro logical path artifact file normal script found behind
    left
    have due := (nothing _ _ normal script found).1 ((hasScript_iff rfl).mpr ⟨path, file, behind⟩)
    obtain ⟨other, newest, there, stale⟩ := (isDue_iff (by rfl)).mp due
    have same : (other, newest) = (path, file) := Option.some.inj (there.symm.trans behind)
    cases same
    simpa [Cache.isStale, found] using stale

section Runs

variable {realm : Realm MemoryFiles} (same : realm.pipeline = Pipeline.ofBackends config backends)
  {events : List Event} (ordinary : ∀ event ∈ events, event.IsOrdinary)

include same ordinary

/-- What the operations of a pipeline, changes that remove nothing and reports keep is kept by
ordinary runs, if ticks keep it as far as there are any. This is the induction over the events of a
run; nothing is assumed about their order, and that the property says something about ticks is asked
only of runs that have some. -/
theorem leads_run {P : Workspace MemoryFiles → Prop} (kept : Pipeline.Kept config backends P)
    (holds : P realm.workspace)
    (changes : ∀ {workspace : Workspace MemoryFiles} {change : Change}, P workspace →
      change.IsTidy → change.Keeps → P { workspace with store := change.apply workspace.store })
    (reports : ∀ {workspace : Workspace MemoryFiles} {absolute : String}, P workspace →
      P { workspace with watch := workspace.watch.modified workspace.store absolute })
    (ticks : ∀ now, Event.request (.think now) ∈ events → Pipeline.IgnoresEvents P) :
    Leads P realm (realm.run events) := by
  refine run_induction (H := Leads P realm) ⟨.refl realm, holds⟩
    fun before event start earlier => ?_
  have member : event ∈ events := start.subset (List.mem_append_right before List.mem_cons_self)
  have admitted := ordinary event member
  cases event with
  | change made =>
    exact ⟨earlier.extended.trans
      ⟨rfl, rfl, fun _ known => known, List.prefix_rfl, List.prefix_rfl⟩,
      changes earlier.holds admitted.1 admitted.2⟩
  | request made =>
    have next :=
      leads_request_of kept _ (earlier.extended.pipeline.trans same) earlier.holds admitted
      (fun _ _ => reports earlier.holds) (fun now asked => ticks now (asked ▸ member))
    exact ⟨earlier.extended.trans next.extended, next.holds⟩
  | restart => exact admitted.elim

/-- Ordinary runs keep what is known of the artifacts, whatever order their events come in. -/
theorem covers_run (directories : config.TidyDirectories) (tidy : realm.workspace.Tidy)
    (covers : Pipeline.Covers config realm.workspace) :
    Leads (fun workspace => workspace.Tidy ∧ Pipeline.Covers config workspace) realm
      (realm.run events) :=
  leads_run same ordinary (Pipeline.kept_covers directories) ⟨tidy, covers⟩
    (fun holds tidy keeps =>
      ⟨Change.tidy tidy holds.1, holds.2.of_forward (Change.forward keeps _)⟩)
    (fun holds => Pipeline.ignoresEvents_covers holds ⟨rfl, rfl⟩) fun _ _ =>
      Pipeline.ignoresEvents_covers

end Runs

section Settings

variable {realm later : Realm MemoryFiles}
  (same : realm.pipeline = Pipeline.ofBackends config backends)
  {logical output path : String} {file : StoredFile} {artifact : Artifact}
  (script : (Dialect.ofPath? logical).isSome = true)

include same script

/-- Once a realm watches what it runs, an included script that is to be run is watched: it was due,
or its file was watched already. -/
theorem watches_of_covers (covers : Pipeline.Covers config realm.workspace)
    (normal : Normal logical) (answered : realm.prepare logical .inclusion = (.run output, later)) :
    later.Watches logical := by
  rw [watches_prepare_iff same script answered]
  have found : realm.hasScript logical = true := by
    rw [prepare_inclusion script] at answered
    split at answered
    · assumption
    · cases answered
  obtain ⟨path, file, behind⟩ := (hasScript_iff same).mp found
  cases known : realm.workspace.cache.lookup logical with
  | none => exact .inr ((isDue_iff same).mpr ⟨path, file, behind, by simp [Cache.isStale, known]⟩)
  | some artifact =>
    rcases covers.watched normal script known behind with newer | ⟨registered, _⟩
    · exact .inr ((isDue_iff same).mpr ⟨path, file, behind, by simp [Cache.isStale, known, newer]⟩)
    · exact .inl ((watches_iff same).mpr ⟨path, file, behind, registered⟩)

section Fresh

variable (behind : Pipeline.behind? config realm.workspace.store logical = some (path, file))
  (known : realm.workspace.cache.lookup logical = some artifact)
  (fresh : file.modified.later artifact.signal = false)

include behind known fresh

/-- Serving a script with a fresh artifact changes nothing, so in particular its file is not
watched. -/
theorem serve_of_fresh : realm.serve logical = (.run artifact.outputPath, realm) := by
  rcases serve_cases same logical with
    ⟨_, changed, done, effect⟩ | ⟨_, changed, done, effect⟩ | ⟨_, changed, done, effect⟩
  · cases (effect.of_fresh script behind known fresh).1
  · obtain ⟨result, rfl⟩ := effect.of_fresh script behind known fresh
    cases result
    exact done
  · cases (effect.of_fresh script behind known fresh).1

/-- A script with a fresh artifact is watched after its inclusion only if it was watched before. -/
theorem watches_of_fresh
    (promise : ∀ output later, realm.prepare logical .inclusion = (.run output, later) →
      later.Watches logical) :
    realm.Watches logical := by
  have answered : realm.prepare logical .inclusion = (.run artifact.outputPath,
      { realm with included := realm.included.insert (Path.normalize logical) }) := by
    rw [prepare_inclusion script, if_pos ((hasScript_iff same).mpr ⟨path, file, behind⟩)]
    exact serve_of_fresh (by exact same) script behind known fresh
  have watched := promise _ _ answered
  exact watched

end Fresh

variable (realm) in
/-- If nothing is watched and yet every included script that is to be run will be, artifacts are
older than the files behind their scripts. -/
theorem later_of_promise (unwatched : realm.workspace.watch.registered = ∅)
    (behind : Pipeline.behind? config realm.workspace.store logical = some (path, file))
    (known : realm.workspace.cache.lookup logical = some artifact)
    (promise : ∀ output later, realm.prepare logical .inclusion = (.run output, later) →
      later.Watches logical) :
    file.modified.later artifact.signal = true := by
  cases fresh : file.modified.later artifact.signal with
  | true => rfl
  | false =>
    obtain ⟨_, _, _, watched⟩ :=
      (watches_iff same).mp (watches_of_fresh same script behind known fresh promise)
    rw [unwatched] at watched
    exact absurd watched Std.ExtTreeMap.not_mem_empty

end Settings

/-- A file added to the first directory of the search path is behind its logical path, whatever the
other directories have. -/
theorem behind?_addFile {directory logical : String} {rest : List String}
    (first : config.searchPaths.directories config.searchPath = directory :: rest)
    (store : MemoryFiles) (contents : Bytes) :
    Pipeline.behind? config (store.addFile (Path.join directory logical) contents) logical =
      some (Path.join directory logical, ⟨contents, store.nextTime⟩) := by
  simp [Pipeline.behind?, MemoryFiles.behind?, first, MemoryFiles.addFile]

/-- A realm that watches every script that it lets the host run upon its inclusion, whatever
ordinary run came before. -/
def WatchesInclusions (realm : Realm MemoryFiles) : Prop :=
  ∀ events : List Event, (∀ event ∈ events, event.IsOrdinary) →
    ∀ (logical output : String) (later : Realm MemoryFiles), Normal logical →
      (Dialect.ofPath? logical).isSome = true →
      (realm.run events).prepare logical .inclusion = (.run output, later) → later.Watches logical

/-- A realm watches every script that is included exactly if it started with nothing fresh. A fresh
artifact, or one that a new file would not make stale, is served without being watched. -/
theorem watchesInclusions_iff (directories : config.TidyDirectories) (host : Host)
    {store : MemoryFiles} (scripts : store.TidyScripts) (dated : store.Dated) :
    (start (Pipeline.ofBackends config backends) host store).WatchesInclusions ↔
      (start (Pipeline.ofBackends config backends) host store).NothingFresh := by
  have tidy := start_tidy (Pipeline.ofBackends config backends) host scripts
  obtain ⟨same, watch, _⟩ := start_spec (Pipeline.ofBackends config backends) host store
  have unwatched :
      (start (Pipeline.ofBackends config backends) host store).workspace.watch.registered = ∅ :=
    congrArg Watch.registered watch
  constructor
  · intro promise logical artifact normal script known
    constructor
    · intro found
      obtain ⟨path, file, behind⟩ := (hasScript_iff same).mp found
      have newer := later_of_promise _ same script unwatched behind known
        fun output later => promise [] (by simp) logical output later normal script
      exact (isDue_iff same).mpr ⟨path, file, behind, by simp [Cache.isStale, known, newer]⟩
    -- A file added to the first directory is from the next second. An artifact that it does not
    -- make stale is served unwatched.
    · intro some
      obtain ⟨directory, rest, first⟩ := List.exists_cons_of_ne_nil some
      have outer := directories directory (first ▸ List.mem_cons_self)
      have newer := later_of_promise ((start (Pipeline.ofBackends config backends) host store).run
          [.change (.addFile (Path.join directory logical) [])])
        same script unwatched (behind?_addFile first _ []) known fun output later =>
          promise _ (by simp [Event.IsOrdinary, Change.IsTidy, Change.Keeps, outer.join normal])
            logical output
            later normal script
      exact Signal.seconds_le_of_nextTime newer
  · intro nothing events ordinary logical output later normal script answered
    have reached := covers_run rfl ordinary directories tidy (covers_start dated nothing)
    exact watches_of_covers reached.extended.pipeline script reached.holds.2 normal answered

end Realm

end DialectLoader
