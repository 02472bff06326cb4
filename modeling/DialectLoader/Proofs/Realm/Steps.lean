import DialectLoader.Proofs.Realm.Run

/-!
# Requests as steps of compiling

Apart from what it does to the queue of the watch, a request changes the workspace by compiling
scripts and by writing the manifest, any number of times and in any order. So it is enough to know
what one of these steps does.

Nothing is asked of the paths here. A step is a whole compilation: the steps of two requests do not
mix.
-/

namespace DialectLoader

namespace Pipeline

variable {config : Config} {backends : Backends} {workspace changed : Workspace MemoryFiles}

/-- Any number of compilations, and of manifests written, from one workspace to another. -/
inductive Steps (config : Config) (backends : Backends) (workspace : Workspace MemoryFiles) :
    Workspace MemoryFiles → Prop where
  | done : Steps config backends workspace workspace
  | effect {current changed : Workspace MemoryFiles} {logical : String} {force : Bool}
      {result : Except CompileError (Artifact × Bool)}
        (earlier : Steps config backends workspace current)
      (last : Effect config backends current logical force result changed) : Steps config backends
        workspace changed
  | persist {current : Workspace MemoryFiles} (earlier : Steps config backends workspace current) :
      Steps config backends workspace ((ofBackends config backends).persist current)

theorem Steps.trans {current : Workspace MemoryFiles}
    (first : Steps config backends workspace current)
    (second : Steps config backends current changed) : Steps config backends workspace changed := by
  induction second with
  | done => exact first
  | effect _ last ih => exact .effect ih last
  | persist _ ih => exact .persist ih

/-- Compiling a script takes a step, and another one if the manifest is written. -/
theorem steps_compile (workspace : Workspace MemoryFiles) (logical : String) (force : Bool) :
    Steps config backends workspace
      ((ofBackends config backends).compile workspace logical force).2 := by
  rcases compile_cases workspace logical force with
    ⟨_, _, compiled, effect⟩ | ⟨_, _, compiled, effect⟩ | ⟨_, _, compiled, effect⟩
  · rw [compiled]
    exact .persist (.effect .done effect)
  · rw [compiled]
    exact .effect .done effect
  · rw [compiled]
    exact .effect .done effect

/-- Precaching a directory takes a step for each script, and one for the manifest if code was
written. -/
theorem steps_precacheDirectory (workspace : Workspace MemoryFiles) (directory : String) :
    Steps config backends workspace
      ((ofBackends config backends).precacheDirectory workspace directory).2 := by
  refine holds_precacheDirectory (P := Steps config backends workspace) (fun steps logical _ => ?_)
    .persist .done
  exact .effect steps (compileUnsaved_effect _ logical false)

/-- What a compilation does to the watch is to watch more files: queue, times and debounce time are
left alone. -/
theorem Effect.watch_eq {logical : String} {force : Bool}
    {result : Except CompileError (Artifact × Bool)}
    (effect : Effect config backends workspace logical force result changed) :
    changed.watch = { workspace.watch with registered := changed.watch.registered } := by
  rcases effect.watch_cases with same | watched
  · rw [same]
  · rw [watched, watching, Watch.register]
    split <;> rfl

/-- What steps do to the watch is to watch more files. So only events change the queue. -/
theorem Steps.watch_eq (steps : Steps config backends workspace changed) :
    changed.watch = { workspace.watch with registered := changed.watch.registered } := by
  induction steps with
  | done => rfl
  | effect _ last ih => rw [last.watch_eq, ih]
  | persist _ ih =>
    rw [persist_eq]
    exact ih

end Pipeline

namespace Realm

open Pipeline (Steps)

variable {config : Config} {backends : Backends} {realm later : Realm MemoryFiles}

/-- A later state of a realm that has compiled scripts and perhaps reported errors or had code
run. -/
structure Compiles (config : Config) (backends : Backends) (realm later : Realm MemoryFiles) :
    Prop where
  pipeline : later.pipeline = realm.pipeline
  host : later.host = realm.host
  included : later.included = realm.included
  steps : Steps config backends realm.workspace later.workspace

theorem Compiles.refl (realm : Realm MemoryFiles) : Compiles config backends realm realm :=
  ⟨rfl, rfl, rfl, .done⟩

theorem Compiles.trans {last : Realm MemoryFiles} (first : Compiles config backends realm later)
    (second : Compiles config backends later last) : Compiles config backends realm last :=
  ⟨second.pipeline.trans first.pipeline, second.host.trans first.host,
    second.included.trans first.included, first.steps.trans second.steps⟩

/-- The realm once a request has noted the script that it finds, if it is an inclusion. Other
requests note nothing. -/
def noting (realm : Realm MemoryFiles) (file : String) : Reason → Realm MemoryFiles
  | .inclusion =>
    match realm.findSource file with
    | some source => { realm with included := realm.included.insert (Path.normalize source) }
    | none => realm
  | .startup | .hostReload | .ownReload => realm

@[simp]
theorem noting_pipeline (realm : Realm MemoryFiles) (file : String) (reason : Reason) :
    (realm.noting file reason).pipeline = realm.pipeline := by
  unfold noting
  split
  · split <;> rfl
  all_goals rfl

@[simp]
theorem noting_workspace (realm : Realm MemoryFiles) (file : String) (reason : Reason) :
    (realm.noting file reason).workspace = realm.workspace := by
  unfold noting
  split
  · split <;> rfl
  all_goals rfl

/-- The realm when the queue was emptied by a tick, before any of the scripts that it names is
reloaded. -/
def ticked (realm : Realm MemoryFiles) (now : Nat) : Realm MemoryFiles :=
  { realm with workspace := { realm.workspace with watch := (realm.workspace.watch.think now).2 } }

/-- The realm when a request begins to compile scripts. Everything but compiling has been done by
then. -/
def Request.begun (realm : Realm MemoryFiles) : Request → Realm MemoryFiles
  | prepare file reason => realm.noting file reason
  | fileModified absolute => realm.fileModified absolute
  | think now => realm.ticked now
  | compile _ _ | clientFile _ | precacheFile _ | precacheDirectory _ => realm

/-- The realm when an event begins to compile scripts, which changes and restarts never do. -/
def Event.begun (realm : Realm MemoryFiles) : Event → Realm MemoryFiles
  | change made =>
    { realm with workspace := { realm.workspace with store := made.apply realm.workspace.store } }
  | request made => made.begun realm
  | restart => start realm.pipeline realm.host realm.workspace.store

@[simp]
theorem Event.begun_pipeline (realm : Realm MemoryFiles) (event : Event) :
    (event.begun realm).pipeline = realm.pipeline := by
  cases event with
  | change made => rfl
  | request made =>
    cases made with
    | prepare file reason => exact noting_pipeline realm file reason
    | _ => rfl
  | restart => rfl

section Settings

variable (same : realm.pipeline = Pipeline.ofBackends config backends)

include same

theorem compiles_serve (source : String) :
    Compiles config backends realm (realm.serve source).2 := by
  obtain ⟨extended, workspace, included, _⟩ := compile_spec realm source
  rw [serve_realm]
  refine ⟨extended.pipeline, extended.host, included, ?_⟩
  rw [workspace, same]
  exact Pipeline.steps_compile _ _ _

theorem compiles_prepare (file : String) (reason : Reason) :
    Compiles config backends (realm.noting file reason) (realm.prepare file reason).2 := by
  unfold prepare noting
  cases realm.findSource file with
  | none => cases reason <;> exact .refl realm
  | some source =>
    cases reason with
    | inclusion => exact compiles_serve (by exact same) source
    | startup => exact compiles_serve same source
    | hostReload => exact .refl realm
    | ownReload =>
      dsimp only
      split
      · exact compiles_serve same source
      · exact .refl realm

/-- Sending a file to a client compiles a script at most, and notes no inclusion. -/
theorem compiles_clientFile (file : String) :
    Compiles config backends realm (realm.clientFile file).2 := by
  rcases clientFile_cases realm file with idle | ⟨source, _, compiled⟩
  · rw [idle]
    exact .refl realm
  · rw [compiled, ← serve_realm]
    exact compiles_serve same source

/-- Reloading a script compiles it at most; that its code ran is noted apart from this. -/
theorem compiles_reload (names : List String) (source : String) :
    Compiles config backends realm (reload (names, realm) source).2 := by
  rcases reload_cases names realm source with idle | ⟨more, prepared⟩
  · rw [idle]
    exact .refl realm
  · rw [prepared]
    have ready := compiles_prepare same source .ownReload
    exact ⟨ready.pipeline, ready.host, ready.included, ready.steps⟩

/-- Reloading scripts one after another compiles some of them, by induction over the scripts. -/
theorem compiles_reloads (names sources : List String) :
    Compiles config backends realm (sources.foldl reload (names, realm)).2 := by
  induction sources generalizing names realm with
  | nil => exact .refl realm
  | cons source rest ih =>
    have first := compiles_reload same names source
    exact first.trans
      (ih (first.pipeline.trans same) (reload (names, realm) source).1)

/-- Once a request has begun, all that it does is to compile scripts and to write the manifest. One
case for each kind of request. -/
theorem Request.compiles (request : Request) :
    Compiles config backends (request.begun realm) (request.perform realm) := by
  cases request with
  | compile logical force =>
    refine ⟨rfl, rfl, rfl, ?_⟩
    change Steps config backends realm.workspace
      (realm.pipeline.compile realm.workspace logical force).2
    rw [same]
    exact Pipeline.steps_compile _ _ _
  | prepare file reason => exact compiles_prepare same file reason
  | clientFile file => exact compiles_clientFile same file
  | precacheFile logical =>
    rw [perform, ← serve_realm]
    exact compiles_serve same logical
  | precacheDirectory directory =>
    refine ⟨rfl, rfl, rfl, ?_⟩
    change Steps config backends realm.workspace
      (realm.pipeline.precacheDirectory realm.workspace directory).2
    rw [same]
    exact Pipeline.steps_precacheDirectory _ _
  | fileModified absolute => exact .refl _
  | think now =>
    have unchanged : (realm.ticked now).pipeline = Pipeline.ofBackends config backends := same
    exact compiles_reloads unchanged [] _

/-- Once an event has begun, all that it does is to compile scripts and to write the manifest. -/
theorem Event.compiles (event : Event) :
    Compiles config backends (event.begun realm) (event.perform realm) := by
  cases event with
  | change made => exact .refl _
  | request made => exact made.compiles same
  | restart => exact .refl _

theorem run_pipeline (events : List Event) :
    (realm.run events).pipeline = Pipeline.ofBackends config backends := by
  induction events using List.reverseRecOn with
  | nil => exact same
  | append_singleton before event ih =>
    rw [run_append_singleton, (event.compiles ih).pipeline, event.begun_pipeline,
      ih]

end Settings

end Realm

end DialectLoader
