import Mathlib.Data.List.Nodup
import DialectLoader.Proofs.Pipeline.Batch

/-!
# Compiling a second time

A pass over some scripts leaves everything so that each of them comes to the same again, unless its
artifact is displaced in the pass. A script that failed fails again in the same way: its source is
the same, it is still due, and its file is watched by now. A script with an artifact has it reused,
if the artifact is still there. `Onward` says what a script finds unchanged when others were
compiled after it.

So a second pass over a directory repeats the first one exactly if every artifact that the first one
reports has stayed in the cache. Artifacts of scripts whose code has different names stay if the
program has made them all. An artifact that says that its code is where that of another script
belongs is displaced when that script is compiled.

Nothing else happens between the two passes, and within a pass the scripts are compiled one after
another. The order may be another one in the second pass.
-/

namespace DialectLoader

theorem Signal.later_self (time : Signal) : time.later time = false := by
  simp [later]

/-- The artifact of a source stays or is displaced when one of another source is stored. It is
displaced if their code is in one place. -/
theorem Cache.lookup_insert_of_ne (cache : Cache) {artifact : Artifact} {source : String}
    (other : artifact.sourceKey ≠ Path.normalize source) :
    (cache.insert artifact).lookup source = cache.lookup source ∨
    (cache.insert artifact).lookup source = none := by
  have kept : (cache.insert artifact).lookup source =
      (cache.withoutOwner artifact.outputKey artifact.sourceKey)[Path.normalize source]? := by
    simp [lookup, insert, upsert, Std.ExtTreeMap.getElem?_insert, other]
  rw [kept, withoutOwner]
  split
  · split
    · exact .inl rfl
    · rw [Std.ExtTreeMap.getElem?_erase]
      split
      · exact .inr rfl
      · exact .inl rfl
  · exact .inl rfl

namespace Pipeline

variable {config : Config} {backends : Backends} {script : String}
    {workspace before later : Workspace MemoryFiles} {artifact : Artifact}

section Onward

/-- A later workspace in which a script finds everything as it was, except that its artifact may
have been displaced. -/
structure Onward (config : Config) (script : String) (workspace later : Workspace MemoryFiles) :
    Prop where
  behind : behind? config later.store script = behind? config workspace.store script
  readOnly : later.store.readOnly = workspace.store.readOnly
  known : later.cache.lookup script = workspace.cache.lookup script ∨
    later.cache.lookup script = none
  registered : ∀ key ∈ workspace.watch.registered, key ∈ later.watch.registered

theorem Onward.refl (config : Config) (script : String) (workspace : Workspace MemoryFiles) :
    Onward config script workspace workspace :=
  ⟨rfl, rfl, .inl rfl, fun _ known => known⟩

/-- What a script finds unchanged twice it finds unchanged in the end, and an artifact that was
displaced stays so. -/
theorem Onward.trans {last : Workspace MemoryFiles} (first : Onward config script workspace later)
    (second : Onward config script later last) : Onward config script workspace last where
  behind := second.behind.trans first.behind
  readOnly := second.readOnly.trans first.readOnly
  known := by
    rcases second.known with same | gone
    · rw [same]
      exact first.known
    · exact .inr gone
  registered key known := second.registered key (first.registered key known)

/-- Compiling another script leaves all unchanged for a script, except that its artifact may be
displaced. -/
theorem onward_alone (backends : Backends) (workspace : Workspace MemoryFiles)
    (known : (Dialect.ofPath? script).isSome = true) (normal : Path.Normal script) {other : String}
    (otherNormal : Path.Normal other) (different : other ≠ script) :
    Onward config script workspace (alone config backends workspace other).2 := by
  have effect := alone_effect config backends workspace other
  refine ⟨behind?_of_spares config effect.sparesScripts known, effect.readOnly, ?_, ?_⟩
  · rw [effect.cache_eq]
    cases recorded : recorded? (alone config backends workspace other).1 with
    | none => exact .inl rfl
    | some artifact =>
      apply Cache.lookup_insert_of_ne
      rw [Artifact.sourceKey, (effect.of_recorded recorded).1, otherNormal.fixed, normal.fixed]
      exact different
  · intro key watched
    rw [Std.ExtTreeMap.mem_iff_isSome_getElem?] at watched ⊢
    obtain ⟨name, found⟩ := Option.isSome_iff_exists.mp watched
    rw [effect.registered found]
    rfl

/-- Compiling other scripts one after another leaves all unchanged for a script, except that its
artifact may be displaced. -/
theorem onward_compileEach (backends : Backends) (known : (Dialect.ofPath? script).isSome = true)
    (normal : Path.Normal script) {others : List String}
    (othersNormal : ∀ other ∈ others, Path.Normal other) (absent : script ∉ others)
    (workspace : Workspace MemoryFiles) :
    Onward config script workspace
      ((ofBackends config backends).compileEach workspace others).2 := by
  refine holds_compileEach (P := Onward config script workspace) (fun onward other member => ?_)
    (.refl _ _ _)
  have different : other ≠ script := by
    rintro rfl
    exact absent member
  exact onward.trans (onward_alone backends _ known normal (othersNormal other member) different)

theorem onward_persist (pipeline : Pipeline MemoryFiles)
    (known : (Dialect.ofPath? script).isSome = true) (workspace : Workspace MemoryFiles) :
    Onward config script workspace (pipeline.persist workspace) where
  behind := behind?_of_spares config (sparesScripts_persist pipeline workspace) known
  readOnly := by
    obtain ⟨changed, done, written | unwritten⟩ := pipeline.persist_cases workspace
    · rw [done]
      exact written.readOnly
    · rw [done]
      exact unwritten.readOnly
  known := by
    rw [persist_cache]
    exact .inl rfl
  registered key watched := by
    rw [persist_eq]
    exact watched

end Onward

section Again

/-- The artifact that is reported with a result, whether it was made or reused. -/
def reported? : Except CompileError (Artifact × Bool) → Option Artifact
  | .ok (artifact, _) => some artifact
  | .error _ => none

theorem reported?_of_recorded {result : Except CompileError (Artifact × Bool)}
    (recorded : recorded? result = some artifact) : reported? result = some artifact := by
  rcases result with _ | ⟨_, _ | _⟩
  · cases recorded
  · cases recorded
  · exact recorded

/-- The result of a script that comes to the same again, now without its code being written. -/
def repeated (result : Except CompileError (Artifact × Bool)) :
    Except CompileError (Artifact × Bool) :=
  result.map fun done => (done.1, false)

theorem Effect.lookup_of_reported {changed : Workspace MemoryFiles}
    {result : Except CompileError (Artifact × Bool)}
    (effect : Effect config backends workspace script false result changed)
    (consistent : workspace.cache.Consistent) (reported : reported? result = some artifact) :
    changed.cache.lookup script = some artifact := by
  cases effect with
  | refused => cases reported
  | reused _ _ _ found _ =>
    cases reported
    exact found
  | failed => cases reported
  | compiled =>
    cases reported
    exact (Cache.bySource_insert_eq_some_iff consistent).mpr (.inl ⟨rfl, rfl⟩)

/-- The artifact that was reported for a script is reused if it is still there: it is not older than
the file behind the script. -/
theorem alone_again_of_ok {compiled : Bool}
    (done : (alone config backends before script).1 = .ok (artifact, compiled))
    (onward : Onward config script (alone config backends before script).2 later)
    (known : (Dialect.ofPath? script).isSome = true)
    (kept : later.cache.lookup script = some artifact) :
    alone config backends later script = (.ok (artifact, false), later) := by
  have effect := alone_effect config backends before script
  have here := onward.behind.trans (behind?_of_spares config effect.sparesScripts known)
  obtain ⟨path, file, behind, fresh⟩ : ∃ path file,
      behind? config before.store script = some (path, file) ∧
      file.modified.later artifact.signal = false := by
    rw [done] at effect
    generalize (alone config backends before script).2 = changed at effect
    cases effect with
    | reused _ behind _ _ fresh => exact ⟨_, _, behind, fresh⟩
    | compiled _ behind => exact ⟨_, _, behind, Signal.later_self _⟩
  obtain ⟨result, same⟩ :=
    (alone_effect config backends later script).of_fresh known (here.trans behind) kept fresh
  exact Prod.ext result same

/-- A compilation of a script with a normal path that failed leaves the files alone. The backend was
asked after the source was watched. -/
theorem recompile_eq_error {changed : Workspace MemoryFiles} {dialect : Dialect} {signal : Signal}
    {error : CompileError} (normal : Path.Normal script)
    (failed : (ofBackends config backends).recompile workspace script dialect signal =
      (.error error, changed)) :
    ∃ calls, changed = { workspace with
      watch := if asked (.error error) then watching config workspace script else workspace.watch
      calls } := by
  unfold recompile at failed
  split at failed
  · rename_i read
    cases failed
    obtain ⟨cause, rfl⟩ := readSource_eq_error read
    exact ⟨workspace.calls, rfl⟩
  · rename_i source _
    have compiled : (ofBackends config backends).compiler.compile dialect source
        (ofBackends config backends).config.compileOptions workspace.store =
          (backends.compile dialect source config.compileOptions, workspace.store) := rfl
    cases outcome : backends.compile dialect source config.compileOptions with
    | failure message display position =>
      simp only [compiled, outcome] at failed
      cases failed
      exact ⟨_, rfl⟩
    | success code lineMap =>
      simp only [compiled, outcome] at failed
      cases readOnly : workspace.store.readOnly with
      | true =>
        rw [writeCode_of_readOnly _ readOnly] at failed
        cases failed
        exact ⟨_, rfl⟩
      | false =>
        obtain ⟨written, done⟩ :=
          writeCode_of_writable (ofBackends config backends) readOnly normal code
        rw [done] at failed
        cases failed

/-- A script with a normal path that failed, be it before it was read or later, leaves the files
alone. -/
theorem alone_eq_error {changed : Workspace MemoryFiles} {error : CompileError}
    (normal : Path.Normal script)
    (failed : alone config backends workspace script = (.error error, changed)) :
    ∃ calls, changed = { workspace with
      watch := if asked (.error error) then watching config workspace script else workspace.watch
      calls } := by
  unfold alone compileUnsaved at failed
  split at failed
  · cases failed
    exact ⟨workspace.calls, rfl⟩
  · split at failed
    · cases failed
      exact ⟨workspace.calls, rfl⟩
    · dsimp only at failed
      split at failed
      · cases failed
      · split at failed
        · cases failed
        · rename_i again
          cases failed
          exact recompile_eq_error normal again

theorem watching_of_registered
    (registered : ∀ path file, behind? config workspace.store script = some (path, file) →
      MemoryFiles.fileKey path ∈ workspace.watch.registered) :
    watching config workspace script = workspace.watch := by
  cases behind : behind? config workspace.store script with
  | none => simp only [watching, Watch.register, resolve?_behind, behind, Option.map_none]
  | some entry =>
    obtain ⟨path, file⟩ := entry
    have watched := registered path file behind
    have same : workspace.watch.registered.insertIfNew (MemoryFiles.fileKey path) script =
        workspace.watch.registered := by
      refine Std.ExtTreeMap.ext_getElem? fun key => ?_
      rw [Std.ExtTreeMap.getElem?_insertIfNew, if_neg fun fresh => fresh.2 watched]
    rw [watching_eq behind, same]

/-- A script that failed fails again with the same error. Its file is watched by now, so only the
count of calls may grow. -/
theorem alone_again_of_error {error : CompileError}
    (failed : (alone config backends before script).1 = .error error)
    (onward : Onward config script (alone config backends before script).2 later)
    (known : (Dialect.ofPath? script).isSome = true) (normal : Path.Normal script) :
    ∃ calls, alone config backends later script = (.error error, { later with calls }) := by
  have effect := alone_effect config backends before script
  have behind := onward.behind.trans (behind?_of_spares config effect.sparesScripts known)
  have cache : (alone config backends before script).2.cache = before.cache := by
    rw [effect.cache_eq, failed]
    rfl
  -- Nothing was there to be reused, so nothing is there now.
  have due {path : String} {file : StoredFile}
      (found : behind? config before.store script = some (path, file)) :
      before.cache.fresh? script file.modified = none := by
    unfold Cache.fresh?
    split
    · rfl
    · rename_i current
      cases lookup : before.cache.lookup script with
      | none => rfl
      | some artifact =>
        have fresh : file.modified.later artifact.signal = false := by
          simpa [Cache.isStale, lookup] using current
        have reused := (effect.of_fresh known found lookup fresh).1
        rw [failed] at reused
        cases reused
  have fresh (path : String) (file : StoredFile)
      (found : behind? config before.store script = some (path, file)) :
      later.cache.fresh? script file.modified = before.cache.fresh? script file.modified := by
    rcases onward.known with same | gone
    · rw [cache] at same
      exact Cache.fresh?_congr same _
    · rw [due found]
      simp [Cache.fresh?, gone]
  have result := result_congr backends behind (onward.readOnly.trans effect.readOnly) normal fresh
  rw [failed] at result
  rcases again : alone config backends later script with ⟨_, changed⟩
  rw [again] at result
  cases result
  obtain ⟨calls, rfl⟩ := alone_eq_error normal again
  refine ⟨calls, ?_⟩
  split
  · rename_i asking
    rw [watching_of_registered]
    intro path file found
    apply onward.registered
    rw [mem_registered_iff, failed]
    exact .inr ⟨asking, path, file, behind.symm.trans found, rfl⟩
  · rfl

/-- A script comes to the same again if its artifact is still there, and nothing is different
afterwards but the count of calls. -/
theorem alone_again (onward : Onward config script (alone config backends before script).2 later)
    (known : (Dialect.ofPath? script).isSome = true) (normal : Path.Normal script)
    (kept : ∀ artifact, reported? (alone config backends before script).1 = some artifact →
      later.cache.lookup script = some artifact) :
    ∃ calls, alone config backends later script =
      (repeated (alone config backends before script).1, { later with calls }) := by
  rcases done : (alone config backends before script).1 with error | ⟨artifact, compiled⟩
  · exact alone_again_of_error done onward known normal
  · exact ⟨later.calls, alone_again_of_ok done onward known (kept artifact (by rw [done]; rfl))⟩

/-- Scripts each of which comes to the same again do so one after another, since nothing that they
look at changes in between. -/
theorem compileEach_again {result : String → Except CompileError (Artifact × Bool)}
    {scripts : List String}
    (each : ∀ script ∈ scripts, ∀ calls, ∃ counted,
      alone config backends { workspace with calls } script =
        (repeated (result script), { workspace with calls := counted }))
    (calls : CallCounts) :
    ∃ counted, (ofBackends config backends).compileEach { workspace with calls } scripts =
      (scripts.map fun script => repeated (result script),
        { workspace with calls := counted }) := by
  induction scripts generalizing calls with
  | nil => exact ⟨calls, rfl⟩
  | cons script rest ih =>
    obtain ⟨counted, first⟩ := each script List.mem_cons_self calls
    obtain ⟨total, others⟩ := ih
      (fun other member => each other (List.mem_cons_of_mem _ member)) counted
    refine ⟨total, ?_⟩
    unfold alone at first
    simp only [compileEach, first, others, List.map_cons]

end Again

section Pass

variable {scripts order again : List String} {directory : String}

theorem Batch.nodup (batch : Batch scripts) : scripts.Nodup :=
  List.Nodup.of_map _ batch.distinct

theorem Batch.output_ne (batch : Batch scripts) {other : String} (member : script ∈ scripts)
    (otherMember : other ∈ scripts) (different : script ≠ other) :
    Path.output script ≠ Path.output other := by
  intro same
  exact different (List.inj_on_of_nodup_map batch.distinct member otherMember (by rw [same]))

/-- What a script came to in a pass it came to in some workspace, and it finds everything at the end
as it was then. -/
theorem exists_alone_of_mem (config : Config) (backends : Backends) (batch : Batch order)
    {workspace : Workspace MemoryFiles} (consistent : workspace.cache.Consistent)
    (member : script ∈ order) :
    let done := (ofBackends config backends).compileEach workspace order
    ∃ before, before.cache.Consistent ∧
      (order.zip done.1).lookup script = some (alone config backends before script).1 ∧
      Onward config script (alone config backends before script).2 done.2 := by
  induction order generalizing workspace with
  | nil => cases member
  | cons first rest ih =>
    have fresh : first ∉ rest := (List.nodup_cons.mp batch.nodup).1
    by_cases here : script = first
    · subst here
      refine ⟨workspace, consistent, by simp [compileEach, alone], ?_⟩
      exact onward_compileEach backends (batch.known script List.mem_cons_self)
        (batch.normal script List.mem_cons_self) batch.tail.normal fresh _
    · obtain ⟨before, known, found, onward⟩ := ih batch.tail
        ((alone_effect config backends workspace first).consistent consistent)
        ((List.mem_cons.mp member).resolve_left here)
      refine ⟨before, known, ?_, onward⟩
      rw [← found]
      simp only [compileEach, List.zip_cons_cons, List.lookup_cons, beq_eq_false_iff_ne.mpr here]
      rfl

/-- The report lists the artifacts of the results, of those that were reused as well. -/
theorem mem_compiled_iff {results : List (Except CompileError (Artifact × Bool))} :
    artifact ∈ (Report.of results).compiled ↔ ∃ result ∈ results,
    reported? result = some artifact := by
  simp only [Report.of, List.mem_filterMap]
  refine exists_congr fun result => and_congr_right fun _ => ?_
  rcases result with _ | ⟨_, _⟩ <;> rfl

/-- The report does not tell whether code was written, so results that are repeated give the same
report. -/
theorem Report.of_repeated (results : List (Except CompileError (Artifact × Bool))) :
    Report.of (results.map repeated) = Report.of results := by
  simp only [Report.of, List.filterMap_map]
  congr 1 <;>
  · refine List.filterMap_congr fun result _ => ?_
    rcases result with _ | ⟨_, _⟩ <;> rfl

/-- A second pass that repeats the first one: it reports the same, and leaves everything as it was
except the number of calls. -/
structure Repeats (first second : Report × Workspace MemoryFiles) : Prop where
  report : second.1 = first.1
  workspace : second.2 = { first.2 with calls := second.2.calls }

/-- The workspace of a pass is left by the scripts, and the manifest may have been written at the
end. -/
theorem precacheInOrder_cases (pipeline : Pipeline MemoryFiles) (workspace : Workspace MemoryFiles)
    (directory : String) (order : List String) :
    (pipeline.precacheInOrder workspace directory order).2 =
      (pipeline.compileEach workspace order).2 ∨
      (pipeline.precacheInOrder workspace directory order).2 =
        pipeline.persist (pipeline.compileEach workspace order).2 := by
  unfold precacheInOrder
  dsimp only
  split
  · exact .inr rfl
  · exact .inl rfl

theorem precacheInOrder_cache (pipeline : Pipeline MemoryFiles) (workspace : Workspace MemoryFiles)
    (directory : String) (order : List String) :
    (pipeline.precacheInOrder workspace directory order).2.cache =
      (pipeline.compileEach workspace order).2.cache := by
  rcases pipeline.precacheInOrder_cases workspace directory order with plain | persisted
  · rw [plain]
  · rw [persisted, persist_cache]

theorem consistent_compileEach (config : Config) (backends : Backends) (scripts : List String)
    {workspace : Workspace MemoryFiles} (consistent : workspace.cache.Consistent) :
    ((ofBackends config backends).compileEach workspace scripts).2.cache.Consistent :=
  holds_compileEach (P := fun workspace => workspace.cache.Consistent)
    (fun consistent script _ => (alone_effect config backends _ script).consistent consistent)
      consistent

/-- After a pass every script comes to the same again whose artifact is still there, with the
manifest written or not. -/
theorem alone_after_pass (backends : Backends) (batch : Batch order)
    (consistent : workspace.cache.Consistent) (member : script ∈ order)
    {result : Except CompileError (Artifact × Bool)}
    (found : (order.zip ((ofBackends config backends).compileEach workspace order).1).lookup
      script = some result)
    (passed : later = ((ofBackends config backends).compileEach workspace order).2 ∨
      later = (ofBackends config backends).persist
      ((ofBackends config backends).compileEach workspace order).2)
    (kept : ∀ artifact, reported? result = some artifact → artifact ∈ later.cache.artifacts)
    (calls : CallCounts) :
    ∃ counted, alone config backends { later with calls } script =
      (repeated result, { later with calls := counted }) := by
  obtain ⟨before, earlier, there, onward⟩ :=
    exists_alone_of_mem config backends batch consistent member
  cases there.symm.trans found
  have known := batch.known script member
  have normal := batch.normal script member
  have final := consistent_compileEach config backends order consistent
  have here : Onward config script (alone config backends before script).2 later ∧
      later.cache.Consistent := by
    rcases passed with rfl | rfl
    · exact ⟨onward, final⟩
    · exact ⟨onward.trans (onward_persist _ known _), by rw [persist_cache]; exact final⟩
  obtain ⟨here, laterConsistent⟩ := here
  have counting : Onward config script (alone config backends before script).2
      { later with calls } :=
    ⟨here.behind, here.readOnly, here.known, here.registered⟩
  refine alone_again counting known normal fun artifact reported => ?_
  have effect := alone_effect config backends before script
  have stored := effect.lookup_of_reported earlier reported
  obtain ⟨key, live⟩ := Cache.mem_artifacts.mp (kept artifact reported)
  have keyed := ((effect.consistent earlier).keyed stored).symm.trans (laterConsistent.keyed live)
  change later.cache.bySource[Path.normalize script]? = some artifact
  rw [keyed]
  exact live

/-- A second pass repeats the first one if the artifacts that were reported are still there. The
orders of the two passes need not be the same. -/
theorem repeats_of_kept (backends : Backends) (batch : Batch scripts)
    (consistent : workspace.cache.Consistent) (same : order.Perm scripts)
    (sameAgain : again.Perm scripts)
    (listed : (ofBackends config backends).scriptsBelow workspace.store directory = scripts)
    (still : (ofBackends config backends).scriptsBelow
      ((ofBackends config backends).precacheInOrder workspace directory order).2.store directory =
        scripts)
    (kept : ∀ artifact ∈
      ((ofBackends config backends).precacheInOrder workspace directory order).1.compiled,
      artifact ∈ ((ofBackends config backends).precacheInOrder workspace directory
        order).2.cache.artifacts) :
    Repeats ((ofBackends config backends).precacheInOrder workspace directory order)
      ((ofBackends config backends).precacheInOrder
        ((ofBackends config backends).precacheInOrder workspace directory order).2
        directory again) := by
  have ordered := batch.perm same.symm
  have passed := (ofBackends config backends).precacheInOrder_cases workspace directory order
  -- What each script came to, by its name.
  let results := order.zip ((ofBackends config backends).compileEach workspace order).1
  let result (script : String) := (results.lookup script).getD (.error (.unsupportedDialect script))
  have found (script : String) (member : script ∈ scripts) :
      results.lookup script = some (result script) := by
    obtain ⟨_, _, there, _⟩ :=
      exists_alone_of_mem config backends ordered consistent (same.mem_iff.mpr member)
    simp only [result, results, there, Option.getD_some]
  have report : ((ofBackends config backends).precacheInOrder workspace directory order).1 =
      .of (scripts.map result) := by
    have gathered : scripts.filterMap (fun script => results.lookup script) = scripts.map result :=
      (List.filterMap_congr found).trans (congrFun List.filterMap_eq_map scripts)
    rw [← gathered, ← listed]
    rfl
  rw [report] at kept
  generalize (ofBackends config backends).precacheInOrder workspace directory order = first at *
  have each (script : String) (member : script ∈ again) (calls : CallCounts) :
      ∃ counted, alone config backends { first.2 with calls } script =
        (repeated (result script), { first.2 with calls := counted }) := by
    have here := sameAgain.mem_iff.mp member
    refine alone_after_pass backends ordered consistent (same.mem_iff.mpr here)
      (found script here) passed ?_ calls
    intro artifact reported
    exact kept artifact (mem_compiled_iff.mpr ⟨_, List.mem_map_of_mem here, reported⟩)
  obtain ⟨counted, repeating⟩ := compileEach_again each first.2.calls
  have idle : ((scripts.map fun script => repeated (result script)).any wroteCode) = false := by
    rw [List.any_eq_false]
    intro other member
    obtain ⟨script, _, rfl⟩ := List.mem_map.mp member
    rcases result script with _ | ⟨_, _⟩ <;> simp [repeated, Except.map, wroteCode]
  have second : (ofBackends config backends).precacheInOrder first.2 directory again =
      (.of (scripts.map fun script => repeated (result script)),
        { first.2 with calls := counted }) := by
    rw [precacheInOrder, repeating, still,
      filterMap_lookup_zip _ fun script member => sameAgain.mem_iff.mpr member, idle]
    rfl
  refine ⟨?_, by rw [second]⟩
  rw [second, report, ← Report.of_repeated (scripts.map result), List.map_map]
  rfl

/-- Writing code takes time: the clock never goes back in a pass, and it moves on if a result says
that code was written. -/
theorem clock_compileEach (config : Config) (backends : Backends)
    (workspace : Workspace MemoryFiles) (scripts : List String) :
    let done := (ofBackends config backends).compileEach workspace scripts
    workspace.store.clock ≤ done.2.store.clock ∧
      (done.1.any wroteCode = true → workspace.store.clock < done.2.store.clock) := by
  induction scripts generalizing workspace with
  | nil => exact ⟨Nat.le_refl _, by simp [compileEach]⟩
  | cons script rest ih =>
    have effect := alone_effect config backends workspace script
    have passing := effect.sparesScripts.aged.clock
    obtain ⟨later, writing⟩ := ih (alone config backends workspace script).2
    refine ⟨Nat.le_trans passing later, fun wrote => ?_⟩
    rcases Bool.or_eq_true_iff.mp wrote with here | there
    · refine Nat.lt_of_lt_of_le ?_ later
      change wroteCode (alone config backends workspace script).1 = true at here
      generalize alone config backends workspace script = done at effect here
      obtain ⟨result, changed⟩ := done
      cases effect with
      | refused => cases here
      | reused => cases here
      | failed => cases here
      | compiled _ _ _ _ _ written _ => exact written.clock ▸ Nat.lt_succ_self _
    · exact Nat.lt_of_le_of_lt passing (writing there)

/-- Artifacts that are reported without code being written were there before, because they were
reused. -/
theorem mem_artifacts_of_idle {result : Except CompileError (Artifact × Bool)}
    (reported : reported? result = some artifact)
    (idle : ((ofBackends config backends).compileEach workspace scripts).1.any wroteCode = false)
    (member : result ∈ ((ofBackends config backends).compileEach workspace scripts).1) :
    artifact ∈ workspace.cache.artifacts := by
  induction scripts generalizing workspace with
  | nil => cases member
  | cons script rest ih =>
    have effect := alone_effect config backends workspace script
    obtain ⟨here, later⟩ := Bool.or_eq_false_iff.mp idle
    change wroteCode (alone config backends workspace script).1 = false at here
    have cache : (alone config backends workspace script).2.cache = workspace.cache := by
      rw [effect.cache_eq]
      generalize (alone config backends workspace script).1 = first at here
      rcases first with _ | ⟨_, _ | _⟩
      · rfl
      · rfl
      · cases here
    rcases List.mem_cons.mp member with rfl | behind
    · change reported? (alone config backends workspace script).1 = some artifact at reported
      generalize alone config backends workspace script = done at effect here reported
      obtain ⟨result, changed⟩ := done
      cases effect with
      | refused => cases reported
      | reused _ _ _ found _ =>
        cases reported
        exact Cache.mem_artifacts.mpr ⟨_, found⟩
      | failed => cases reported
      | compiled => cases here
    · rw [← cache]
      exact ih later behind

/-- What a pass that takes no time reports was in the cache, since no code can have been written. -/
theorem mem_artifacts_of_clock
    (timeless :
      ((ofBackends config backends).precacheInOrder workspace directory order).2.store.clock =
        workspace.store.clock)
    (reported : artifact ∈
      ((ofBackends config backends).precacheInOrder workspace directory order).1.compiled) :
    artifact ∈ workspace.cache.artifacts := by
  obtain ⟨_, writing⟩ := clock_compileEach config backends workspace order
  have idle : ((ofBackends config backends).compileEach workspace order).1.any wroteCode =
      false := by
    rw [← Bool.not_eq_true]
    intro wrote
    have passing := writing wrote
    rcases (ofBackends config backends).precacheInOrder_cases workspace directory order
      with plain | persisted
    · rw [plain] at timeless
      omega
    · have saving := (sparesScripts_persist (ofBackends config backends)
        ((ofBackends config backends).compileEach workspace order).2).aged.clock
      rw [persisted] at timeless
      omega
  obtain ⟨result, member, reported⟩ := mem_compiled_iff.mp reported
  obtain ⟨script, _, found⟩ := List.mem_filterMap.mp member
  obtain ⟨_, _, split, _⟩ := List.lookup_eq_some_iff.mp found
  have listed : (script, result) ∈
      order.zip ((ofBackends config backends).compileEach workspace order).1 := by
    rw [split]
    exact List.mem_append_right _ List.mem_cons_self
  exact mem_artifacts_of_idle reported idle (List.of_mem_zip listed).2

/-- A second pass repeats the first one exactly if the artifacts that were reported are still there.
One that is gone is made again, which takes time. -/
theorem repeats_iff_kept (backends : Backends) (batch : Batch scripts)
    (consistent : workspace.cache.Consistent) (same : order.Perm scripts)
    (sameAgain : again.Perm scripts)
    (listed : (ofBackends config backends).scriptsBelow workspace.store directory = scripts)
    (still : (ofBackends config backends).scriptsBelow
      ((ofBackends config backends).precacheInOrder workspace directory order).2.store directory =
        scripts) :
    Repeats ((ofBackends config backends).precacheInOrder workspace directory order)
        ((ofBackends config backends).precacheInOrder
          ((ofBackends config backends).precacheInOrder workspace directory order).2
          directory again) ↔
      ∀ artifact ∈
        ((ofBackends config backends).precacheInOrder workspace directory order).1.compiled,
        artifact ∈ ((ofBackends config backends).precacheInOrder workspace directory
          order).2.cache.artifacts := by
  constructor
  · intro repeats artifact reported
    rw [← repeats.report] at reported
    exact mem_artifacts_of_clock (by rw [repeats.workspace]) reported
  · exact repeats_of_kept backends batch consistent same sameAgain listed still

/-- The artifacts that are reported in a pass stay in a cache that the program has filled: their
code and that of the other scripts have different paths. -/
theorem mem_artifacts_of_identified (backends : Backends)
    (relative : HostPath.isAbsolute config.cacheRoot = false)
    (identified : Identified MemoryFiles config workspace.cache) (batch : Batch scripts)
    (same : order.Perm scripts)
    (listed : (ofBackends config backends).scriptsBelow workspace.store directory = scripts)
    (reported : artifact ∈
      ((ofBackends config backends).precacheInOrder workspace directory order).1.compiled) :
    artifact ∈ ((ofBackends config backends).precacheInOrder workspace directory
      order).2.cache.artifacts := by
  have ordered := batch.perm same.symm
  have separate := compileEach_separate backends relative ordered identified
  obtain ⟨script, member, found⟩ : ∃ script ∈ order,
      reported? (alone config backends workspace script).1 = some artifact := by
    obtain ⟨result, gathered, reported⟩ := mem_compiled_iff.mp reported
    rw [listed, separate.results,
      filterMap_lookup_zip _ fun script member => same.mem_iff.mpr member] at gathered
    obtain ⟨script, member, rfl⟩ := List.mem_map.mp gathered
    exact ⟨script, same.mem_iff.mpr member, reported⟩
  have apart := ordered.pairwise_recorded backends relative workspace
  obtain ⟨_, stored⟩ := Cache.foldl_insert_eq_some_iff identified.consistent apart
  have effect := alone_effect config backends workspace script
  rw [precacheInOrder_cache, separate.cache]
  cases recorded : recorded? (alone config backends workspace script).1 with
  | some own =>
    cases (reported?_of_recorded recorded).symm.trans found
    exact Cache.mem_artifacts.mpr
      ⟨_, (stored _ _).mpr (.inr ⟨List.mem_filterMap.mpr ⟨script, member, recorded⟩, rfl⟩)⟩
  | none =>
    -- The artifact was reused, so it was in the cache before the pass.
    have kept : workspace.cache.bySource[Path.normalize script]? = some artifact := by
      have there := effect.lookup_of_reported identified.consistent found
      rw [effect.cache_eq, recorded] at there
      exact there
    have normal := ordered.normal script member
    have spelled := identified.spelled artifact (Cache.mem_artifacts.mpr ⟨_, kept⟩)
    refine Cache.mem_artifacts.mpr ⟨_, (stored _ _).mpr (.inl ⟨kept, fun other otherStored => ?_⟩)⟩
    obtain ⟨rival, rivalMember, rivalRecorded⟩ := List.mem_filterMap.mp otherStored
    have different : script ≠ rival := by
      rintro rfl
      rw [recorded] at rivalRecorded
      cases rivalRecorded
    have keyed := identified.consistent.keyed kept
    rw [normal.fixed] at keyed
    exact apart_of_output_ne relative normal (ordered.normal rival rivalMember)
      (ordered.output_ne member rivalMember different) keyed spelled.script spelled.fullOutputPath
      ((alone_effect config backends workspace rival).of_recorded rivalRecorded)

end Pass

end Pipeline

end DialectLoader
