import DialectLoader.Proofs.Pipeline.Alone
import DialectLoader.Proofs.Pipeline.Identity

/-!
# Compiling in any order

Scripts whose code has different names do not get in each other's way. Compiling one of them changes
nothing that another one can tell: it writes no script, and the artifact that it stores displaces
only the one of its own source and those whose code was where its own code is now. So every script
of a batch comes to what it comes to alone, and what is left at the end is what all of them leave
together; `Separate` says so without mentioning an order. Only the modification times of generated
code and the names of watched files may tell one order from another.

An artifact in the cache may have been made under another spelling of the path of its script. Its
code then has another path as well, but one with the same segments up to the case of letters, and by
these the code of two scripts is told apart.

A pass that runs in parallel is taken as compilations one after another, in an order that nobody
chooses. Steps of two compilations that overlap are outside: while one script is compiled no other
one reads or writes. That they could overlap without harm would be another refinement.
-/

namespace DialectLoader

namespace Pipeline

variable {config : Config} {backends : Backends}

section Separation

/-- Code of artifacts that a pipeline has made is where the configuration puts it, in memory, where
spelling alone decides. -/
theorem Spelled.fullOutputPath {artifact : Artifact}
    (spelled : Spelled MemoryFiles config artifact) :
    artifact.fullOutputPath = codePath config artifact.sourcePath := by
  obtain ⟨store, code⟩ := spelled.code
  exact code

/-- Scripts whose code has different paths below the cache root have code at different paths, in
whatever spelling one of them was compiled. The cache root is relative, so that it is spelled alike
in both. -/
theorem normalize_codePath_ne (relative : HostPath.isAbsolute config.cacheRoot = false)
    {spelling script other : String} (spelled : Path.normalize spelling = script)
    (known : (Dialect.ofPath? spelling).isSome = true) (normal : Path.Normal script)
    (otherNormal : Path.Normal other) (distinct : Path.output script ≠ Path.output other) :
    Path.normalize (codePath config spelling) ≠ Path.normalize (codePath config other) := by
  intro same
  apply distinct
  obtain ⟨ext, named⟩ := Dialect.exists_extension known
  have code : Path.output script = Path.normalize (Path.output spelling) := by
    rw [← spelled, Path.output_normalize named]
  have segments := congrArg (fun path => Path.segments path.toList) same
  simp only [Path.segments_normalize, segments_codePath relative, List.map_append,
    List.append_cancel_left_eq]
    at segments
  apply normal.output.eq_of_segments otherNormal.output
  rw [code, ← otherNormal.output.fixed, Path.segments_normalize, Path.segments_normalize, segments]

/-- Artifacts of scripts with code of different names can be in a cache side by side, however the
script of one of them was spelled. -/
theorem apart_of_output_ne (relative : HostPath.isAbsolute config.cacheRoot = false)
    {left right : Artifact} {script other : String} (normal : Path.Normal script)
    (otherNormal : Path.Normal other) (distinct : Path.output script ≠ Path.output other)
    (keyed : left.sourceKey = script) (known : (Dialect.ofPath? left.sourcePath).isSome = true)
    (placed : left.fullOutputPath = codePath config left.sourcePath)
    (own : right.sourcePath = other ∧ right.fullOutputPath = codePath config other) :
    Cache.Apart left right := by
  constructor
  · rw [keyed, Artifact.sourceKey, own.1, otherNormal.fixed]
    rintro rfl
    exact distinct rfl
  · rw [Artifact.outputKey, Artifact.outputKey, placed, own.2]
    exact normalize_codePath_ne relative keyed known normal otherNormal distinct

variable {workspace : Workspace MemoryFiles}

/-- Compiling one script makes no difference to another one with other code: it cannot tell the
workspaces apart. This is the step of the induction over a batch. -/
theorem sameFor_after (backends : Backends)
    (relative : HostPath.isAbsolute config.cacheRoot = false)
    (identified : Identified MemoryFiles config workspace.cache) {script other : String}
    (known : (Dialect.ofPath? script).isSome = true) (normal : Path.Normal script)
    (otherNormal : Path.Normal other) (distinct : Path.output script ≠ Path.output other) :
    SameFor config script (alone config backends workspace other).2 workspace := by
  have effect := alone_effect config backends workspace other
  refine ⟨behind?_of_spares config effect.sparesScripts known, ?_, effect.readOnly⟩
  rw [effect.cache_eq]
  cases recorded : recorded? (alone config backends workspace other).1 with
  | none => rfl
  | some artifact =>
    have own := effect.of_recorded recorded
    apply Option.ext
    intro found
    change (workspace.cache.insert artifact).bySource[Path.normalize script]? = some found ↔
      workspace.cache.bySource[Path.normalize script]? = some found
    rw [Cache.bySource_insert_iff_apart identified.consistent, normal.fixed]
    constructor
    · rintro (⟨kept, _⟩ | ⟨rfl, keyed⟩)
      · exact kept
      · rw [Artifact.sourceKey, own.1, otherNormal.fixed] at keyed
        exact absurd (congrArg Path.output keyed.symm) distinct
    · intro kept
      have spelled := identified.spelled found (Cache.mem_artifacts.mpr ⟨script, kept⟩)
      have keyed := identified.consistent.keyed kept
      exact .inl ⟨kept, apart_of_output_ne relative normal otherNormal distinct keyed
        spelled.script spelled.fullOutputPath own⟩

/-- Scripts that can be compiled side by side: they have dialects, normal paths and code of
different names. -/
structure Batch (scripts : List String) : Prop where
  known : ∀ script ∈ scripts, (Dialect.ofPath? script).isSome = true
  normal : ∀ script ∈ scripts, Path.Normal script
  distinct : (scripts.map fun script => Path.normalize (Path.output script)).Nodup

theorem Batch.pairwise {scripts : List String} (batch : Batch scripts) :
    scripts.Pairwise fun script other => Path.output script ≠ Path.output other := by
  refine (List.pairwise_map.mp batch.distinct).imp fun differ same => differ ?_
  rw [same]

theorem Batch.perm {scripts order : List String} (batch : Batch scripts)
    (same : scripts.Perm order) : Batch order where
  known script member := batch.known script (same.mem_iff.mpr member)
  normal script member := batch.normal script (same.mem_iff.mpr member)
  distinct := (same.map _).nodup_iff.mp batch.distinct

theorem Batch.tail {script : String} {rest : List String} (batch : Batch (script :: rest)) :
    Batch rest where
  known other member := batch.known other (List.mem_cons_of_mem _ member)
  normal other member := batch.normal other (List.mem_cons_of_mem _ member)
  distinct := (List.nodup_cons.mp batch.distinct).2

/-- Every script came to what it comes to alone in the workspace from before, and what is left is
what all of them leave. No order is mentioned. -/
structure Separate (config : Config) (backends : Backends) (workspace : Workspace MemoryFiles)
    (scripts : List String) (results : List (Except CompileError (Artifact × Bool)))
    (changed : Workspace MemoryFiles) : Prop where
  results : results = scripts.map fun script => (alone config backends workspace script).1
  cache : changed.cache = (scripts.filterMap fun script =>
    recorded? (alone config backends workspace script).1).foldl Cache.insert workspace.cache
  readOnly : changed.store.readOnly = workspace.store.readOnly
  code : ∀ script ∈ scripts, changed.store.contents? ((ofBackends config backends).target script) =
    (alone config backends workspace script).2.store.contents?
      ((ofBackends config backends).target script)
  others : ∀ path, (∀ script ∈ scripts, path ≠ (ofBackends config backends).target script) →
    changed.store.contents? path = workspace.store.contents? path
  watched : ∀ key, key ∈ changed.watch.registered ↔ key ∈ workspace.watch.registered ∨
    ∃ script ∈ scripts, key ∈ (alone config backends workspace script).2.watch.registered

/-- Scripts with normal paths and code of different names have their code in different files. -/
theorem target_ne (pipeline : Pipeline MemoryFiles) {script other : String}
    (normal : Path.Normal script) (otherNormal : Path.Normal other)
    (distinct : Path.output script ≠ Path.output other) :
    pipeline.target script ≠ pipeline.target other := by
  intro same
  have closed : pipeline.config.outputRoot.toList.getLast? ≠ some '/' := Path.getLast?_trimEnd _
  exact distinct (Path.join_injective closed normal.output otherNormal.output same)

/-- A batch that came to what its scripts come to alone still does with another script before it.
The later ones cannot tell that it was compiled. -/
theorem Separate.cons (relative : HostPath.isAbsolute config.cacheRoot = false)
    (identified : Identified MemoryFiles config workspace.cache) {script : String}
    {rest : List String} (batch : Batch (script :: rest))
    {results : List (Except CompileError (Artifact × Bool))} {changed : Workspace MemoryFiles}
    (tail : Separate config backends (alone config backends workspace script).2 rest results
      changed) :
    Separate config backends workspace (script :: rest)
      ((alone config backends workspace script).1 :: results) changed := by
  have effect := alone_effect config backends workspace script
  have normal := batch.normal script List.mem_cons_self
  have others := batch.tail
  have apart := (List.pairwise_cons.mp batch.pairwise).1
  have same {other : String} (member : other ∈ rest) :=
    sameFor_after backends relative identified (others.known other member)
      (others.normal other member) normal
      (apart other member).symm
  have result {other : String} (member : other ∈ rest) :=
    (same member).result_eq backends (others.normal other member)
  have away {other : String} (member : other ∈ rest) :=
    target_ne (ofBackends config backends) (others.normal other member) normal
      (apart other member).symm
  have elsewhere {path : String} (outside : path ≠ (ofBackends config backends).target script) :
      (alone config backends workspace script).2.store.contents? path =
        workspace.store.contents? path := by
    rw [effect.contents_eq, if_neg fun both => outside both.2]
  constructor
  case results =>
    rw [List.map_cons, tail.results, List.map_congr_left fun other member => result member]
  case cache =>
    rw [tail.cache, List.filterMap_congr fun other member => congrArg recorded? (result member),
      effect.cache_eq, List.filterMap_cons]
    cases recorded? (alone config backends workspace script).1 <;> rfl
  case readOnly => exact tail.readOnly.trans effect.readOnly
  case code =>
    intro other member
    rcases List.mem_cons.mp member with rfl | member
    · exact tail.others _ fun later member => (away member).symm
    · rw [tail.code other member, (same member).contents_eq backends (others.normal other member)
        (elsewhere (away member))]
  case others =>
    intro path outside
    obtain ⟨here, later⟩ := List.forall_mem_cons.mp outside
    rw [tail.others path later, elsewhere here]
  case watched =>
    intro key
    have kept (old : key ∈ workspace.watch.registered) :
        key ∈ (alone config backends workspace script).2.watch.registered :=
      (mem_registered_iff backends workspace script key).mpr (.inl old)
    have newly {other : String} (member : other ∈ rest) :=
      (same member).mem_registered_iff backends (others.normal other member) kept
    rw [tail.watched, List.exists_mem_cons_iff]
    constructor
    · rintro (here | ⟨other, member, there⟩)
      · exact .inr (.inl here)
      · rcases (newly member).mp there with here | there
        · exact .inr (.inl here)
        · exact .inr (.inr ⟨other, member, there⟩)
    · rintro (old | here | ⟨other, member, there⟩)
      · exact .inl (kept old)
      · exact .inl here
      · exact .inr ⟨other, member, (newly member).mpr (.inr there)⟩

/-- In a batch every script comes to what it comes to alone, by induction over the scripts. -/
theorem compileEach_separate (backends : Backends)
    (relative : HostPath.isAbsolute config.cacheRoot = false) {scripts : List String}
    (batch : Batch scripts) (identified : Identified MemoryFiles config workspace.cache) :
    Separate config backends workspace scripts
      ((ofBackends config backends).compileEach workspace scripts).1
      ((ofBackends config backends).compileEach workspace scripts).2 := by
  induction scripts generalizing workspace with
  | nil => exact ⟨rfl, rfl, rfl, by simp, by simp [compileEach], by simp [compileEach]⟩
  | cons script rest ih =>
    exact .cons relative identified batch
      (ih batch.tail
        (identified.compileUnsaved (.ofBackends backends) script false))

end Separation

section Order

variable {workspace first second : Workspace MemoryFiles}

/-- Two workspaces with the same cache, the same bytes in every file and the same files watched.
Times, names of watched files and counts may differ. -/
structure Alike (first second : Workspace MemoryFiles) : Prop where
  cache : first.cache = second.cache
  contents : ∀ path, first.store.contents? path = second.store.contents? path
  watched : ∀ key, key ∈ first.watch.registered ↔ key ∈ second.watch.registered
  readOnly : first.store.readOnly = second.store.readOnly

/-- The artifacts that are recorded for a batch displace none of each other, so they enter the cache
in any order. -/
theorem Batch.pairwise_recorded (backends : Backends)
    (relative : HostPath.isAbsolute config.cacheRoot = false) {scripts : List String}
    (batch : Batch scripts) (workspace : Workspace MemoryFiles) :
    (scripts.filterMap fun script => recorded? (alone config backends workspace script).1).Pairwise
      Cache.Apart := by
  rw [List.pairwise_filterMap]
  refine batch.pairwise.imp_of_mem ?_
  intro script other member otherMember distinct left recorded right otherRecorded
  have own := (alone_effect config backends workspace script).of_recorded recorded
  have normal := batch.normal script member
  refine apart_of_output_ne relative normal (batch.normal other otherMember) distinct ?_ ?_ ?_
    ((alone_effect config backends workspace other).of_recorded otherRecorded)
  · rw [Artifact.sourceKey, own.1, normal.fixed]
  · rw [own.1]
    exact batch.known script member
  · rw [own.1, own.2]

/-- What the scripts of a batch come to alone does not depend on their order, hence neither does
what they leave. -/
theorem Separate.alike (relative : HostPath.isAbsolute config.cacheRoot = false)
    (identified : Identified MemoryFiles config workspace.cache) {scripts order : List String}
    (batch : Batch scripts) (same : scripts.Perm order)
    {results others : List (Except CompileError (Artifact × Bool))}
    (left : Separate config backends workspace scripts results first)
    (right : Separate config backends workspace order others second) : Alike first second where
  cache := by
    rw [left.cache, right.cache]
    exact identified.consistent.foldl_insert_perm
      (batch.pairwise_recorded backends relative workspace)
      (same.filterMap _)
  contents path := by
    by_cases code : ∃ script ∈ scripts, path = (ofBackends config backends).target script
    · obtain ⟨script, member, rfl⟩ := code
      rw [left.code script member, right.code script (same.mem_iff.mp member)]
    · have outside : ∀ script ∈ scripts, path ≠ (ofBackends config backends).target script :=
        fun script member here => code ⟨script, member, here⟩
      rw [left.others path outside,
        right.others path fun script member => outside script (same.mem_iff.mpr member)]
  watched key := by
    rw [left.watched, right.watched]
    simp only [same.mem_iff]
  readOnly := left.readOnly.trans right.readOnly.symm

/-- Writing the manifest keeps workspaces alike, since its bytes depend on the cache alone. -/
theorem Alike.persist (alike : Alike first second) (pipeline : Pipeline MemoryFiles) :
    Alike (pipeline.persist first) (pipeline.persist second) := by
  unfold Pipeline.persist
  split
  · have own := parent_manifest pipeline.config
    have bytes : pipeline.manifestBytes first = pipeline.manifestBytes second := by
      rw [manifestBytes, manifestBytes, alike.cache]
    obtain ⟨readOnly, contents⟩ :=
      MemoryFiles.put_contents own first.store (pipeline.manifestBytes first)
    obtain ⟨otherReadOnly, otherContents⟩ :=
      MemoryFiles.put_contents own second.store (pipeline.manifestBytes second)
    rw [saveManifest_eq, saveManifest_eq]
    refine ⟨alike.cache, fun path => ?_, alike.watched, ?_⟩
    · rw [contents, otherContents, bytes, alike.readOnly, alike.contents]
    · rw [readOnly, otherReadOnly, alike.readOnly]
  · exact alike

/-- Compiles the scripts of a directory in a given order, and reports on them in the order of the
directory. -/
def precacheInOrder {σ : Type} [FileStore σ] (pipeline : Pipeline σ) (workspace : Workspace σ)
    (directory : String) (order : List String) : Report × Workspace σ :=
  let done := pipeline.compileEach workspace order
  let results := (pipeline.scriptsBelow workspace.store directory).filterMap fun script =>
    (order.zip done.1).lookup script
  (.of results, if results.any wroteCode then pipeline.persist done.2 else done.2)

theorem lookup_zip_map {α : Type} (result : String → α) {order : List String} {script : String}
    (member : script ∈ order) :
    (order.zip (order.map result)).lookup script = some (result script) := by
  induction order with
  | nil => cases member
  | cons first rest ih =>
    rw [List.map_cons, List.zip_cons_cons, List.lookup_cons]
    by_cases here : script = first
    · simp [here]
    · have later := ih ((List.mem_cons.mp member).resolve_left here)
      simpa [beq_eq_false_iff_ne.mpr here] using later

/-- The results of some scripts are put into the order of these scripts, whatever order they were
obtained in. -/
theorem filterMap_lookup_zip {α : Type} (result : String → α) {scripts order : List String}
    (listed : ∀ script ∈ scripts, script ∈ order) :
    (scripts.filterMap fun script => (order.zip (order.map result)).lookup script) =
      scripts.map result :=
  (List.filterMap_congr fun script member => lookup_zip_map result (listed script member)).trans
    (congrFun List.filterMap_eq_map scripts)

/-- Scripts of one batch can be compiled in any order. Whatever the order, each of them has the
result that it has alone, and the cache, the contents of the files and the watched files are the
same in the end. So it does not matter either in which order the scripts of a directory are
compiled, as long as the report keeps to theirs. -/
theorem batch_in_any_order (built : Built config workspace.cache)
    (relative : HostPath.isAbsolute config.cacheRoot = false) {scripts order : List String}
    (batch : Batch scripts) (same : scripts.Perm order) :
    let pipeline := ofBackends config backends
    (pipeline.compileEach workspace scripts).1 =
        scripts.map (fun script => (pipeline.compileUnsaved workspace script false).1) ∧
      (pipeline.compileEach workspace order).1 =
        order.map (fun script => (pipeline.compileUnsaved workspace script false).1) ∧
      Alike (pipeline.compileEach workspace scripts).2 (pipeline.compileEach workspace order).2 ∧
      ∀ directory, pipeline.scriptsBelow workspace.store directory = scripts →
        (pipeline.precacheDirectory workspace directory).1 =
            (pipeline.precacheInOrder workspace directory order).1 ∧
          Alike (pipeline.precacheDirectory workspace directory).2
            (pipeline.precacheInOrder workspace directory order).2 := by
  intro pipeline
  have identified := built.identified
  have left := compileEach_separate backends relative batch identified
  have right := compileEach_separate backends relative (batch.perm same) identified
  have alike := left.alike relative identified batch same right
  refine ⟨left.results, right.results, alike, fun directory listed => ?_⟩
  have gathered : (scripts.filterMap fun script =>
      (order.zip (pipeline.compileEach workspace order).1).lookup script) =
        (pipeline.compileEach workspace scripts).1 := by
    rw [right.results, left.results]
    exact filterMap_lookup_zip _ fun script member => same.mem_iff.mp member
  have report : pipeline.precacheInOrder workspace directory order =
      (.of (pipeline.compileEach workspace scripts).1,
        if (pipeline.compileEach workspace scripts).1.any wroteCode then
          pipeline.persist (pipeline.compileEach workspace order).2
        else (pipeline.compileEach workspace order).2) := by
    rw [precacheInOrder, listed, gathered]
  rw [report, precacheDirectory_eq, listed]
  refine ⟨rfl, ?_⟩
  dsimp only
  split
  · exact alike.persist pipeline
  · exact alike

end Order

/-- The cache root is itself searched for scripts, so that generated code lies among them. -/
def nestedSearch : Config :=
  { cacheRoot := "c", searchPath := "p", searchPaths := .ofList [("p", ["c", "l"])] }

/-- Three scripts of one directory, of which the last cannot be compiled. The first was compiled
under another spelling, from a newer file. -/
def respelled : Workspace MemoryFiles :=
  let older := (({} : MemoryFiles).addFile "l/a/x.moon" (Text.utf8 "x")).addFile "l/./a/x.moon"
    (Text.utf8 "x")
  let files := (older.addFile "l/a/y.yue" (Text.utf8 "y")).addFile "c/a/z.moon" (Text.utf8 "!!")
  ((ofBackends nestedSearch ⟨Backend.moonEcho, Backend.yueEcho⟩).compile
    { store := files, watch := { debounceMs := 0 } } "./a/x.moon" false).2

/-- The artifact of the first script is found under its other spelling and reused, the second script
is compiled, and the third fails. It makes no difference if they are taken the other way round. -/
theorem batch_in_any_order_respelled :
    let pipeline := ofBackends nestedSearch ⟨Backend.moonEcho, Backend.yueEcho⟩
    let scripts := ["a/x.moon", "a/y.yue", "a/z.moon"]
    let done := pipeline.compileEach respelled scripts
    (done.1.map asked, done.1.map wroteCode) = ([false, true, true], [false, true, false]) ∧
      ((done.2.cache.lookup "a/x.moon").map (·.sourcePath)) = some "./a/x.moon" ∧
      Alike done.2 (pipeline.compileEach respelled scripts.reverse).2 ∧
      (pipeline.precacheDirectory respelled "a").1 =
        (pipeline.precacheInOrder respelled "a" scripts.reverse).1 := by
  intro pipeline scripts done
  have built : Built nestedSearch respelled.cache := by
    unfold respelled
    apply Built.compile
    exact .empty
  have batch : Batch scripts := ⟨by decide +kernel, by decide +kernel, by decide +kernel⟩
  have listed : pipeline.scriptsBelow respelled.store "a" = scripts := by decide +kernel
  obtain ⟨_, _, alike, directory⟩ :=
    batch_in_any_order built (by decide) batch (List.reverse_perm scripts).symm
  exact ⟨by decide +kernel, by decide +kernel, alike, (directory "a" listed).1⟩

end Pipeline

end DialectLoader
