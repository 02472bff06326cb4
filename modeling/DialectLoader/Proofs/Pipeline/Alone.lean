import DialectLoader.Proofs.Pipeline.Built
import DialectLoader.Proofs.Pipeline.Failure

/-!
# What a script can tell of a workspace

What compiling a script comes to depends on the file behind it, on its artifact in the cache and on
whether files can be written, provided that its path is normal: then its code can be written
wherever anything can. `SameFor` relates workspaces that agree on the three. They give the same
result, write the same code and watch the same file.

What is left behind follows from the result alone. The cache gains the artifact if one is recorded,
the code is written in the same case, and the file behind the script is watched if the backend was
asked.

A compilation is one step here: no other one gets in between its reading and its writing. The
backend is a function of the source and the options. How often it was asked is counted but not
compared.
-/

namespace DialectLoader

namespace MemoryFiles

/-- The bytes of a file, whenever it was written. Passes in different orders agree on these and not
on times. -/
def contents? (store : MemoryFiles) (path : String) : Option Bytes :=
  store.files[path]?.map (·.contents)

/-- Putting a file into its own directory changes the contents of that file alone, if files can be
written, and nothing at all if not. -/
theorem put_contents {directory path : String} (own : Path.parent path = Path.trimEnd directory)
    (store : MemoryFiles) (bytes : Bytes) :
    (store.put directory path bytes).2.readOnly = store.readOnly ∧
      ∀ other, (store.put directory path bytes).2.contents? other =
        if store.readOnly = false ∧ other = path then some bytes else store.contents? other := by
  cases readOnly : store.readOnly with
  | true => simp [put, createDirectories, readOnly]
  | false =>
    obtain ⟨_, succeeds⟩ := put_of_writable readOnly own bytes
    rcases store.put_cases directory path bytes
      with ⟨changed, done, written, _⟩ | ⟨cause, changed, done, _⟩
    · rw [done]
      refine ⟨written.readOnly.trans readOnly, fun other => ?_⟩
      by_cases here : other = path
      · rw [if_pos ⟨rfl, here⟩, here, contents?, written.here]
        rfl
      · rw [if_neg fun both => here both.2, contents?, written.elsewhere here, ← contents?]
    · rw [succeeds] at done
      cases done

end MemoryFiles

/-- The artifact of a source that was modified at a given time, if it need not be compiled again. -/
def Cache.fresh? (cache : Cache) (source : String) (current : Signal) : Option Artifact :=
  if cache.isStale source current then none else cache.lookup source

/-- Whether an artifact is reused depends on the one that is found and on nothing else in the
cache. -/
theorem Cache.fresh?_congr {left right : Cache} {source : String}
    (same : left.lookup source = right.lookup source) (current : Signal) :
    left.fresh? source current = right.fresh? source current := by
  have stale : left.isStale source current = right.isStale source current := by
    simp only [isStale, same]
  rw [fresh?, fresh?, stale, same]

namespace Pipeline

variable {config : Config} {backends : Backends} {script : String}

/-- What compiling a script comes to if nothing else is compiled before it. The manifest is not
written. -/
def alone (config : Config) (backends : Backends) (workspace : Workspace MemoryFiles)
    (script : String) : Except CompileError (Artifact × Bool) × Workspace MemoryFiles :=
  (ofBackends config backends).compileUnsaved workspace script false

/-- What a script comes to alone is one of the effects of compiling, so all that is known of these
is known of it. -/
theorem alone_effect (config : Config) (backends : Backends) (workspace : Workspace MemoryFiles)
    (script : String) :
    Effect config backends workspace script false (alone config backends workspace script).1
      (alone config backends workspace script).2 :=
  compileUnsaved_effect workspace script false

section Result

/-- Two workspaces that a script cannot tell apart: the file behind it, its artifact and the right
to write are the same. -/
structure SameFor (config : Config) (script : String) (first second : Workspace MemoryFiles) :
    Prop where
  behind : behind? config first.store script = behind? config second.store script
  known : first.cache.lookup script = second.cache.lookup script
  readOnly : first.store.readOnly = second.store.readOnly

variable {first second : Workspace MemoryFiles}

/-- The text of a script is that of the file behind it, so other files have no part in it. -/
theorem readSource_congr (backends : Backends)
    (behind : behind? config first.store script = behind? config second.store script) :
    (ofBackends config backends).readSource first.store script =
      (ofBackends config backends).readSource second.store script := by
  simp only [readSource, ofBackends_config, read_behind, behind]

/-- The artifact of a script names the file behind it and the place of its code, which the
configuration settles. -/
theorem artifact_congr (backends : Backends) {left right : MemoryFiles}
    (behind : behind? config left script = behind? config right script) (dialect : Dialect)
    (signal : Signal) (lineMap : LineMap) :
    (ofBackends config backends).artifact left script dialect signal lineMap =
      (ofBackends config backends).artifact right script dialect signal lineMap := by
  simp only [artifact, ofBackends_config, resolve?_behind, behind]
  rfl

/-- Writing code changes no file behind a script, because code is never named like one. -/
theorem behind?_writeCode (pipeline : Pipeline MemoryFiles) (store : MemoryFiles)
    (logical code : String) (known : (Dialect.ofPath? script).isSome = true) :
    behind? config (pipeline.writeCode store logical code).2 script =
      behind? config store script := by
  apply behind?_of_spares config _ known
  rcases pipeline.writeCode_cases store logical code with
    ⟨changed, done, written⟩ | ⟨error, changed, done, _, unwritten⟩
  · rw [done]
    exact .inr ⟨_, _, written, ofPath?_target pipeline logical⟩
  · rw [done]
    exact .inl unwritten

/-- On a store that cannot be written to no directory is made for the code, and the store stays as
it is. -/
theorem writeCode_of_readOnly (pipeline : Pipeline MemoryFiles) {store : MemoryFiles}
    (readOnly : store.readOnly = true) (logical code : String) :
    pipeline.writeCode store logical code = (.error (.writeFailed (pipeline.target logical)
      (.refused (Path.join pipeline.config.outputRoot (Path.parent (Path.output logical))))),
      store) := by
  simp [writeCode_eq, MemoryFiles.put, MemoryFiles.createDirectories, readOnly]

/-- What becomes of a script that is due depends on the file behind it and on whether its code can
be written. Its path is normal, so nothing but the store can keep its code from being written. -/
theorem recompile_congr (backends : Backends)
    (behind : behind? config first.store script = behind? config second.store script)
    (readOnly : first.store.readOnly = second.store.readOnly) (normal : Path.Normal script)
    {dialect : Dialect} (known : Dialect.ofPath? script = some dialect) (signal : Signal) :
    ((ofBackends config backends).recompile first script dialect signal).1 =
      ((ofBackends config backends).recompile second script dialect signal).1 := by
  unfold recompile
  rw [readSource_congr backends behind]
  cases (ofBackends config backends).readSource second.store script with
  | error error => rfl
  | ok source =>
    have compiled (store : MemoryFiles) : (ofBackends config backends).compiler.compile
        dialect source
        (ofBackends config backends).config.compileOptions store =
          (backends.compile dialect source config.compileOptions, store) := rfl
    simp only [compiled]
    cases backends.compile dialect source config.compileOptions with
    | failure message display position => rfl
    | success code lineMap =>
      dsimp only
      cases refused : second.store.readOnly with
      | true =>
        rw [writeCode_of_readOnly _ refused, writeCode_of_readOnly _ (readOnly.trans refused)]
      | false =>
        obtain ⟨changed, done⟩ :=
          writeCode_of_writable (ofBackends config backends) (readOnly.trans refused)
          normal code
        obtain ⟨other, again⟩ :=
          writeCode_of_writable (ofBackends config backends) refused normal code
        have left : behind? config changed script = behind? config first.store script := by
          rw [← behind?_writeCode (ofBackends config backends) first.store script code
            (by simp [known]), done]
        have right : behind? config other script = behind? config second.store script := by
          rw [← behind?_writeCode (ofBackends config backends) second.store script code
            (by simp [known]), again]
        simp only [done, again]
        rw [artifact_congr backends (left.trans (behind.trans right.symm))]

/-- What becomes of a script depends on the file behind it, on whether code can be written, and on
whether there is an artifact to be reused. -/
theorem result_congr (backends : Backends)
    (behind : behind? config first.store script = behind? config second.store script)
    (readOnly : first.store.readOnly = second.store.readOnly) (normal : Path.Normal script)
    (fresh : ∀ path file, behind? config second.store script = some (path, file) →
      first.cache.fresh? script file.modified = second.cache.fresh? script file.modified) :
    (alone config backends first script).1 = (alone config backends second script).1 := by
  unfold alone compileUnsaved
  cases known : Dialect.ofPath? script with
  | none => rfl
  | some dialect =>
    simp only [ofBackends_config, modified_behind, behind]
    cases found : behind? config second.store script with
    | none => rfl
    | some entry =>
      obtain ⟨path, file⟩ := entry
      have again := recompile_congr backends behind readOnly normal known file.modified
      have reused := fresh path file found
      simp only [Cache.fresh?] at reused
      simp only [Bool.false_or, reused]
      generalize (if second.cache.isStale script file.modified = true then none
        else second.cache.lookup script) = artifact?
      cases artifact? with
      | some artifact => rfl
      | none =>
        generalize (ofBackends config backends).recompile first script dialect file.modified =
          left at again
        generalize (ofBackends config backends).recompile second script dialect file.modified =
          right at again
        obtain ⟨result, _⟩ := left
        obtain ⟨_, _⟩ := right
        cases again
        cases result <;> rfl

/-- What becomes of a script depends on nothing but what it can tell of the workspace. -/
theorem SameFor.result_eq (backends : Backends) (same : SameFor config script first second)
    (normal : Path.Normal script) :
    (alone config backends first script).1 = (alone config backends second script).1 :=
  result_congr backends same.behind same.readOnly normal fun _ _ _ =>
    Cache.fresh?_congr same.known _

end Result

section Change

/-- The artifact that is recorded with a result: none if it failed or reused one. -/
def recorded? : Except CompileError (Artifact × Bool) → Option Artifact
  | .ok (artifact, true) => some artifact
  | _ => none

/-- Whether the backend was asked for a result. Errors tell by their kind whether they came before
that. -/
def asked : Except CompileError (Artifact × Bool) → Bool
  | .ok (_, compiled) => compiled
  | .error (.transpileFailed _ _ _ _) => true
  | .error (.writeFailed _ _) => true
  | .error _ => false

/-- The bytes of the code that the backend makes of a script, if there is a source and it can be
compiled. -/
def code? (config : Config) (backends : Backends) (store : MemoryFiles) (script : String) :
    Option Bytes := do
  let dialect ← Dialect.ofPath? script
  let entry ← behind? config store script
  let source ← entry.2.source?
  match backends.compile dialect source config.compileOptions with
  | .success code _ => some (Text.utf8 code)
  | .failure _ _ _ => none

variable {workspace changed : Workspace MemoryFiles}
    {result : Except CompileError (Artifact × Bool)}

/-- The cache holds what was recorded besides what was there, less what that displaces. -/
theorem Effect.cache_eq (effect : Effect config backends workspace script false result changed) :
    changed.cache = (recorded? result).elim workspace.cache workspace.cache.insert := by
  cases effect <;> rfl

/-- An artifact that is recorded is of the script, and says where its code is. -/
theorem Effect.of_recorded (effect : Effect config backends workspace script false result changed)
    {artifact : Artifact} (recorded : recorded? result = some artifact) :
    artifact.sourcePath = script ∧ artifact.fullOutputPath = codePath config script := by
  cases effect with
  | refused => cases recorded
  | reused => cases recorded
  | failed => cases recorded
  | compiled =>
    cases recorded
    exact ⟨rfl, artifact_fullOutputPath _ _ _ _ _ _⟩

/-- The code of a script is the only file whose contents change, and only if code was written.
Directories that were made are not files. -/
theorem Effect.contents_eq (effect : Effect config backends workspace script false result changed)
    (path : String) :
    changed.store.contents? path =
      if wroteCode result = true ∧ path = (ofBackends config backends).target script then
        code? config backends workspace.store script
      else workspace.store.contents? path := by
  cases effect with
  | refused => rfl
  | reused => rfl
  | failed _ _ _ _ _ _ unwritten =>
    rw [if_neg (by simp [wroteCode]), MemoryFiles.contents?, unwritten.files,
      ← MemoryFiles.contents?]
  | compiled known behind _ readable success written _ =>
    by_cases here : path = (ofBackends config backends).target script
    · rw [if_pos ⟨rfl, here⟩, here, MemoryFiles.contents?, written.here]
      simp [code?, known, behind, readable, success]
    · rw [if_neg fun both => here both.2, MemoryFiles.contents?, written.elsewhere here,
        ← MemoryFiles.contents?]

/-- The file behind a script is newly watched exactly if the backend was asked, and no other file
ever is. -/
theorem mem_registered_iff (backends : Backends) (workspace : Workspace MemoryFiles)
    (script : String) (key : List String) :
    key ∈ (alone config backends workspace script).2.watch.registered ↔
      key ∈ workspace.watch.registered ∨ asked (alone config backends workspace script).1 = true ∧
        ∃ path file, behind? config workspace.store script = some (path, file) ∧
        key = MemoryFiles.fileKey path := by
  have watched {path : String} {file : StoredFile}
      (behind : behind? config workspace.store script = some (path, file)) :
      key ∈ (watching config workspace script).registered ↔ key ∈ workspace.watch.registered ∨
        ∃ path file, behind? config workspace.store script = some (path, file) ∧
          key = MemoryFiles.fileKey path := by
    rw [watching_eq behind, behind, Std.ExtTreeMap.mem_insertIfNew,
      Std.LawfulEqCmp.compare_eq_iff_eq, or_comm, eq_comm]
    simp
  have effect := alone_effect config backends workspace script
  rcases done : alone config backends workspace script with ⟨result, changed⟩
  rw [done] at effect
  cases result with
  | error error =>
    cases compileUnsaved_failure done with
    | unsupported => simp [asked]
    | unreadable => simp [asked]
    | untranspiled behind => simp [asked, watched behind]
    | unwritten behind => simp [asked, watched behind]
  | ok pair =>
    cases effect with
    | reused => simp [asked]
    | compiled _ behind => simp [asked, watched behind]

end Change

/-- Two workspaces that a script cannot tell apart have the same contents of a file afterwards if
they had before. -/
theorem SameFor.contents_eq (backends : Backends) {first second : Workspace MemoryFiles}
    (same : SameFor config script first second) (normal : Path.Normal script) {path : String}
    (before : first.store.contents? path = second.store.contents? path) :
    (alone config backends first script).2.store.contents? path =
      (alone config backends second script).2.store.contents? path := by
  have code : code? config backends first.store script =
      code? config backends second.store script := by
    rw [code?, code?, same.behind]
  rw [(alone_effect config backends first script).contents_eq,
    (alone_effect config backends second script).contents_eq, same.result_eq backends normal, code,
    before]

/-- In two workspaces that a script cannot tell apart the same files are newly watched. Only the
membership is compared, as names may differ. -/
theorem SameFor.mem_registered_iff (backends : Backends) {first second : Workspace MemoryFiles}
    (same : SameFor config script first second) (normal : Path.Normal script) {key : List String}
    (before : key ∈ second.watch.registered → key ∈ first.watch.registered) :
    key ∈ (alone config backends first script).2.watch.registered ↔
      key ∈ first.watch.registered ∨
      key ∈ (alone config backends second script).2.watch.registered := by
  rw [Pipeline.mem_registered_iff, Pipeline.mem_registered_iff, same.result_eq backends normal,
    same.behind]
  constructor
  · rintro (old | newly)
    · exact .inl old
    · exact .inr (.inr newly)
  · rintro (old | old | newly)
    · exact .inl old
    · exact .inl (before old)
    · exact .inr newly

end Pipeline

end DialectLoader
