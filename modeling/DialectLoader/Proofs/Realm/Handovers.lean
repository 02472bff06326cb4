import DialectLoader.Proofs.Realm.Redirection
import DialectLoader.Proofs.Realm.Saved
import DialectLoader.Proofs.Realm.Steps
import DialectLoader.Proofs.Realm.Watching

/-!
# What ticks hand to the host

A tick asks the host to run code on account of scripts. For each such script there are three reasons
in the history of the realm: the script was included, its file was reported since the last tick, and
no tick has named it within the debounce time. The realm keeps a summary of its history for each of
them, and what one event adds to the summaries is known. The code is that of the script even if the
cache answers with the artifact of another spelling, since spellings of one script have spellings of
one output.

What the host does with the code is outside, and so is what happens if running it fails. Times are
those that ticks are given; that they do not go back is assumed where it is needed.
-/

namespace DialectLoader

namespace Pipeline

variable {config : Config} {backends : Backends} {workspace changed : Workspace MemoryFiles}

/-- Compiling stores artifacts of scripts and of nothing else, because other paths have no
dialect. -/
theorem Effect.ofScripts {logical : String} {force : Bool}
    {result : Except CompileError (Artifact × Bool)}
    (effect : Effect config backends workspace logical force result changed)
    (known : workspace.cache.OfScripts) :
    changed.cache.OfScripts := by
  cases effect with
  | refused => exact known
  | reused => exact known
  | failed => exact known
  | compiled script =>
    refine ⟨known.consistent.insert _, fun artifact live => ?_, fun artifact live => ?_⟩
    · rcases known.consistent.mem_artifacts_insert live with rfl | before
      · exact Option.isSome_iff_exists.mpr ⟨_, script⟩
      · exact known.script artifact before
    · rcases known.consistent.mem_artifacts_insert live with rfl | before
      · rfl
      · exact known.output artifact before

theorem Steps.ofScripts (steps : Steps config backends workspace changed)
    (known : workspace.cache.OfScripts) :
    changed.cache.OfScripts := by
  induction steps with
  | done => exact known
  | effect _ last ih => exact last.ofScripts ih
  | persist _ ih =>
    rw [persist_eq]
    exact ih

end Pipeline

namespace Realm

variable {config : Config} {backends : Backends} {realm : Realm MemoryFiles}

/-- A script is found under its own path only; other files may lead to a script by their names. -/
theorem eq_of_findSource {file source : String} (script : (Dialect.ofPath? file).isSome = true)
    (found : realm.findSource file = some source) : source = file := by
  rw [findSource, if_pos script] at found
  split at found
  · exact (Option.some.inj found).symm
  · cases found

/-- Preparing a script has the host run nothing by itself. It answers what to run, and the caller
does so. -/
theorem prepare_ran (realm : Realm MemoryFiles) (file : String) (reason : Reason) :
    (realm.prepare file reason).2.ran = realm.ran := by
  rcases prepare_cases realm file reason with idle | ⟨source, noted, _, _, served⟩
  · rw [idle]
  · rw [served, serve_realm, (compile_spec _ _).2.2.2]

/-- Code that the realm wants to run again is that of a script that was included, in some
spelling. -/
theorem included_of_ownReload (known : realm.workspace.cache.OfScripts) {source path : String}
    (script : (Dialect.ofPath? source).isSome = true)
    (told : (realm.prepare source .ownReload).1 = .run path) :
    Path.normalize source ∈ realm.included ∧
    Path.normalize path = Path.normalize (Path.output source) := by
  refine ⟨?_, (prepare_answer known source .ownReload).2 path told⟩
  unfold prepare at told
  split at told
  · cases told
  · rename_i found
    rw [eq_of_findSource script found] at told
    dsimp only at told
    split at told <;> rename_i noted
    · exact Std.ExtTreeSet.contains_iff_mem.mp noted
    · cases told

/-- What the host is asked to run when scripts are reloaded one after another, with the script on
whose account. -/
def handovers (realm : Realm MemoryFiles) : List String → List (String × String)
  | [] => []
  | source :: rest =>
    let later := (reload ([], realm) source).2
    (later.ran.drop realm.ran.length).map (source, ·) ++ later.handovers rest

/-- What the host is asked to run at a tick, with the script on whose account. -/
def tickHandovers (realm : Realm MemoryFiles) (now : Nat) : List (String × String) :=
  (realm.ticked now).handovers (realm.workspace.watch.think now).1

/-- What was reloaded before does not matter to a reload, so the names can be left out of
account. -/
theorem reload_realm (names : List String) (realm : Realm MemoryFiles) (source : String) :
    (reload (names, realm) source).2 = (reload ([], realm) source).2 := by
  unfold reload
  dsimp only
  split
  · rcases realm.prepare source .ownReload with ⟨_ | _ | _, _⟩ <;> rfl
  · rfl

/-- A reload has the host run the code of a script that was included, or nothing. -/
theorem reload_ran (realm : Realm MemoryFiles) (source : String) :
    (reload ([], realm) source).2.ran = realm.ran ∨
      ∃ path, (reload ([], realm) source).2.ran = realm.ran ++ [path] ∧
        (Dialect.ofPath? source).isSome = true ∧
        (realm.prepare source .ownReload).1 = .run path := by
  have kept := prepare_ran realm source .ownReload
  unfold reload
  dsimp only
  split
  · rename_i script
    generalize realm.prepare source .ownReload = done at kept
    obtain ⟨_ | path | _, later⟩ := done
    · exact .inl kept
    · exact .inr ⟨path, by rw [← kept], script, rfl⟩
    · exact .inl kept
  · exact .inl rfl

/-- The host is asked to run the paths of `handovers`, in their order, and nothing in between. -/
theorem reloads_ran (realm : Realm MemoryFiles) (names sources : List String) :
    (sources.foldl reload (names, realm)).2.ran =
      realm.ran ++ (realm.handovers sources).map Prod.snd := by
  induction sources generalizing realm names with
  | nil => simp [handovers]
  | cons source rest ih =>
    have here : (reload ([], realm) source).2.ran =
        realm.ran ++ (reload ([], realm) source).2.ran.drop realm.ran.length := by
      rcases reload_ran realm source with idle | ⟨path, more, _⟩
      · simp [idle]
      · simp [more]
    have next : reload (names, realm) source =
        ((reload (names, realm) source).1, (reload ([], realm) source).2) :=
      Prod.ext rfl (reload_realm names realm source)
    have paths : ((reload ([], realm) source).2.ran.drop realm.ran.length).map
        (Prod.snd ∘ (source, ·)) = (reload ([], realm) source).2.ran.drop realm.ran.length := by
      simp [Function.comp_def]
    rw [List.foldl_cons, next, ih, handovers, List.map_append, List.map_map, paths,
      ← List.append_assoc, ← here]

/-- What the host is asked to run at a tick is what the scripts that it names are reloaded for. -/
theorem think_ran (realm : Realm MemoryFiles) (now : Nat) :
    (realm.think now).2.ran = realm.ran ++ (realm.tickHandovers now).map Prod.snd :=
  reloads_ran (realm.ticked now) [] (realm.workspace.watch.think now).1

section Summaries

variable {event : Event}

/-- An event notes a script as included only if it is an inclusion, and then the script that it
finds. -/
theorem included_begun {key : String} (noted : key ∈ (event.begun realm).included) :
    key ∈ realm.included ∨ ∃ file found, event = .request (.prepare file .inclusion) ∧
      realm.findSource file = some found ∧ Path.normalize found = key := by
  cases event with
  | change made => exact .inl noted
  | request made =>
    cases made with
    | prepare file reason =>
      cases reason with
      | inclusion =>
        simp only [Event.begun, Request.begun, noting] at noted
        split at noted
        · rename_i found there
          rcases Std.ExtTreeSet.mem_insert.mp noted with here | before
          · exact .inr ⟨file, found, rfl, there, Std.LawfulEqCmp.eq_of_compare here⟩
          · exact .inl before
        · exact .inl noted
      | _ => exact .inl noted
    | _ => exact .inl noted
  | restart => exact absurd noted Std.ExtTreeSet.not_mem_empty

/-- An event queues a file only if it reports it, and a tick leaves nothing in the queue. -/
theorem queue_begun {key : List String} (queued : key ∈ (event.begun realm).workspace.watch.queue) :
    (key ∈ realm.workspace.watch.queue ∧ ∀ now, event ≠ .request (.think now)) ∨
      ∃ absolute, event = .request (.fileModified absolute) ∧ HostPath.steps absolute = key := by
  cases event with
  | change made => exact .inl ⟨queued, by simp⟩
  | request made =>
    cases made with
    | prepare file reason =>
      rw [Event.begun, Request.begun, noting_workspace] at queued
      exact .inl ⟨queued, by simp⟩
    | fileModified absolute =>
      rcases List.mem_append.mp queued with before | here
      · exact .inl ⟨before, by simp⟩
      · exact .inr ⟨absolute, rfl, (List.mem_singleton.mp here).symm⟩
    | think now =>
      have emptied : (realm.workspace.watch.think now).2.queue = [] :=
        (Watch.think_acted _ now).2.queue
      simp [Event.begun, Request.begun, ticked, emptied] at queued
    | _ => exact .inl ⟨queued, by simp⟩
  | restart =>
    rw [Event.begun, (start_spec _ _ _).2.1] at queued
    cases queued

/-- Before a restart the time of a script's last action is changed by ticks that name the script, to
their time. -/
theorem lastAction_begun (lives : event ≠ .restart) (logical : String) :
    (event.begun realm).workspace.watch.lastAction[logical]? =
      realm.workspace.watch.lastAction[logical]? ∨
      ∃ now, event = .request (.think now) ∧
        (event.begun realm).workspace.watch.lastAction[logical]? = some now := by
  cases event with
  | change made => exact .inl rfl
  | request made =>
    cases made with
    | prepare file reason =>
      rw [Event.begun, Request.begun, noting_workspace]
      exact .inl rfl
    | think now =>
      have acted := (Watch.think_acted realm.workspace.watch now).2.lastAction logical
      split at acted
      · exact .inr ⟨now, rfl, acted⟩
      · exact .inl acted
    | _ => exact .inl rfl
  | restart => exact absurd rfl lives

theorem cache_begun (realm : Realm MemoryFiles) (lives : event ≠ .restart) :
    (event.begun realm).workspace.cache = realm.workspace.cache ∧
      (event.begun realm).workspace.watch.debounceMs = realm.workspace.watch.debounceMs := by
  cases event with
  | change made => exact ⟨rfl, rfl⟩
  | request made =>
    cases made with
    | prepare file reason =>
      rw [Event.begun, Request.begun, noting_workspace]
      exact ⟨rfl, rfl⟩
    | think now => exact ⟨rfl, (Watch.think_acted realm.workspace.watch now).2.debounceMs⟩
    | _ => exact ⟨rfl, rfl⟩
  | restart => exact absurd rfl lives

end Summaries

/-- A script that an inclusion among some events has found, in the state in which the inclusion was
made. -/
def Includes (realm : Realm MemoryFiles) (events : List Event) (found : String) : Prop :=
  ∃ before file, before ++ [.request (.prepare file .inclusion)] <+: events ∧
    (realm.run before).findSource file = some found

theorem Includes.isScript {events : List Event} {found : String}
    (includes : realm.Includes events found) :
    (Dialect.ofPath? found).isSome = true := by
  obtain ⟨_, _, _, there⟩ := includes
  exact (output_of_findSource there).1

/-- A file that was reported, with no tick since; the reports before the last tick are over. -/
def Pending (events : List Event) (absolute : String) : Prop :=
  ∃ before since, events = before ++ .request (.fileModified absolute) :: since ∧
    ∀ now, .request (.think now) ∉ since

/-- A script that a tick among some events has named at a time. -/
def Names (realm : Realm MemoryFiles) (events : List Event) (source : String) (time : Nat) : Prop :=
  ∃ before, before ++ [.request (.think time)] <+: events ∧
    source ∈ ((realm.run before).workspace.watch.think time).1

def Event.tickTime? : Event → Option Nat
  | request (.think now) => some now
  | request _ | change _ | restart => none

section Run

variable (same : realm.pipeline = Pipeline.ofBackends config backends) {events : List Event}

include same

/-- Whatever is handed over is the output of a script that is reloaded and was included, up to
spelling. -/
theorem mem_handovers (known : realm.workspace.cache.OfScripts) {sources : List String}
    {source path : String} (handed : (source, path) ∈ realm.handovers sources) :
    source ∈ sources ∧ (Dialect.ofPath? source).isSome = true ∧
      Path.normalize source ∈ realm.included ∧
      Path.normalize path = Path.normalize (Path.output source) := by
  induction sources generalizing realm with
  | nil => cases handed
  | cons first rest ih =>
    rcases List.mem_append.mp handed with here | there
    · obtain ⟨made, member, equal⟩ := List.mem_map.mp here
      cases equal
      rcases reload_ran realm source with idle | ⟨only, more, script, told⟩
      · simp [idle] at member
      · have alone : path = only := by simpa [more] using member
        rw [← alone] at told
        obtain ⟨noted, output⟩ := included_of_ownReload known script told
        exact ⟨List.mem_cons_self, script, noted, output⟩
    · have reloaded := compiles_reload same [] first
      obtain ⟨listed, script, noted, output⟩ := ih (reloaded.pipeline.trans same)
        (reloaded.steps.ofScripts known) there
      exact ⟨List.mem_cons_of_mem _ listed, script, reloaded.included ▸ noted, output⟩

/-- After an event the watch differs in its registry only from what it was when scripts began to be
compiled. -/
theorem watch_run_append (before : List Event) (event : Event) :
    ∃ registered, (realm.run (before ++ [event])).workspace.watch =
      { (event.begun (realm.run before)).workspace.watch with registered } := by
  rw [run_append_singleton]
  exact ⟨_, (event.compiles (run_pipeline same before)).steps.watch_eq⟩

/-- Every script that is noted as included was found by an inclusion. The induction is over the
events, and one event adds what `included_begun` says. -/
theorem includes_of_mem (initial : realm.included = ∅) {key : String}
    (noted : key ∈ (realm.run events).included) :
    ∃ found, realm.Includes events found ∧ Path.normalize found = key := by
  induction events using List.reverseRecOn with
  | nil => exact absurd (initial ▸ noted) Std.ExtTreeSet.not_mem_empty
  | append_singleton before event ih =>
    rw [run_append_singleton, (event.compiles (run_pipeline same before)).included] at noted
    rcases included_begun noted with earlier | ⟨file, found, rfl, there, spelled⟩
    · obtain ⟨found, ⟨first, file, start, there⟩, spelled⟩ := ih earlier
      exact ⟨found, ⟨first, file, start.trans (List.prefix_append _ _), there⟩, spelled⟩
    · exact ⟨found, ⟨before, file, List.prefix_rfl, there⟩, spelled⟩

/-- Every file in the queue was reported, with no tick since. The induction is over the events. -/
theorem pending_of_mem (initial : realm.workspace.watch.queue = []) {key : List String}
    (queued : key ∈ (realm.run events).workspace.watch.queue) :
    ∃ absolute, Pending events absolute ∧ HostPath.steps absolute = key := by
  induction events using List.reverseRecOn with
  | nil => exact absurd (initial ▸ queued) List.not_mem_nil
  | append_singleton before event ih =>
    obtain ⟨_, watched⟩ := watch_run_append same before event
    rw [watched] at queued
    rcases queue_begun queued with ⟨earlier, quiet⟩ | ⟨absolute, rfl, spelled⟩
    · obtain ⟨absolute, ⟨first, since, rfl, silent⟩, spelled⟩ := ih earlier
      refine ⟨absolute, ⟨first, since ++ [event], by simp, fun now member => ?_⟩, spelled⟩
      rcases List.mem_append.mp member with inside | last
      · exact silent now inside
      · exact quiet now (List.mem_singleton.mp last).symm
    · exact ⟨absolute, ⟨before, [], rfl, fun _ => List.not_mem_nil⟩, spelled⟩

/-- The last action on a script is not before any tick that named it, if ticks come in order and the
realm is not restarted. -/
theorem lastAction_of_names (lives : Event.restart ∉ events)
    (ordered : (events.filterMap Event.tickTime?).Pairwise (· ≤ ·)) {source : String} {time : Nat}
    (named : realm.Names events source time) :
    ∃ last, (realm.run events).workspace.watch.lastAction[source]? = some last ∧ time ≤ last := by
  induction events using List.reverseRecOn with
  | nil =>
    obtain ⟨before, start, _⟩ := named
    simp at start
  | append_singleton before event ih =>
    rw [List.filterMap_append, List.pairwise_append] at ordered
    obtain ⟨_, watched⟩ := watch_run_append same before event
    rw [watched]
    obtain ⟨first, start, member⟩ := named
    rcases List.prefix_concat_iff.mp start with whole | earlier
    · obtain ⟨rfl, rfl⟩ := List.concat_inj.mp (by simpa using whole)
      have acted := (Watch.think_acted (realm.run first).workspace.watch time).2.lastAction source
      rw [if_pos member] at acted
      exact ⟨time, acted, Nat.le_refl time⟩
    · have alive : Event.restart ∉ before := fun inside => lives (List.mem_append_left _ inside)
      obtain ⟨last, acted, bound⟩ := ih alive ordered.1 ⟨first, earlier, member⟩
      have other : event ≠ .restart := fun equal => lives (by simp [equal])
      rcases lastAction_begun other source with kept | ⟨now, rfl, renewed⟩
      · exact ⟨last, kept.trans acted, bound⟩
      · have listed : time ∈ before.filterMap Event.tickTime? :=
          List.mem_filterMap.mpr ⟨.request (.think time), earlier.subset (by simp), rfl⟩
        exact ⟨now, renewed, ordered.2.2 time listed now (by simp [Event.tickTime?])⟩

/-- Before a restart a realm stores artifacts of scripts, and keeps its debounce time. -/
theorem ofScripts_run (lives : Event.restart ∉ events) (initial : realm.workspace.cache.OfScripts) :
    (realm.run events).workspace.cache.OfScripts ∧
      (realm.run events).workspace.watch.debounceMs = realm.workspace.watch.debounceMs := by
  induction events using List.reverseRecOn with
  | nil => exact ⟨initial, rfl⟩
  | append_singleton before event ih =>
    obtain ⟨scripts, debounce⟩ := ih fun inside =>
      lives (List.mem_append_left _ inside)
    have other : event ≠ .restart := fun equal => lives (by simp [equal])
    obtain ⟨cache, kept⟩ := cache_begun (realm.run before) other
    constructor
    · rw [run_append_singleton]
      exact (event.compiles (run_pipeline same before)).steps.ofScripts (cache ▸ scripts)
    · obtain ⟨_, watched⟩ := watch_run_append same before event
      rw [watched]
      exact kept.trans debounce

end Run

/-- Without a manifest a realm starts with no artifacts, whatever else is on disk. -/
theorem start_cache_of_absent {host : Host} {store : MemoryFiles}
    (absent : store.files[Manifest.path config.outputRoot]? = none) :
    (start (Pipeline.ofBackends config backends) host store).workspace.cache = .empty := by
  have nothing := Pipeline.readManifest_of_absent backends absent
  rcases start_cases (Pipeline.ofBackends config backends) host store with
    ⟨manifest, _, read, _⟩ | ⟨_, _, started⟩ | ⟨_, started⟩
  · rw [nothing] at read
    cases read
  · rw [started]
  · rw [started]

/-- Every path that a tick hands to the host on account of a script has three reasons, if the realm
started without a manifest and ticks come in order. An inclusion found the script, in some spelling,
and the path is that of its code, in some spelling. Since the last tick a file was reported that is
watched for the script. No tick has named the script within the debounce time. -/
theorem tickHandovers_justified (config : Config) (backends : Backends) (host : Host)
    {store : MemoryFiles} (absent : store.files[Manifest.path config.outputRoot]? = none)
    {events : List Event} {now : Nat} (lives : Event.restart ∉ events)
    (ordered : (events.filterMap Event.tickTime? ++ [now]).Pairwise (· ≤ ·)) :
    let started := start (Pipeline.ofBackends config backends) host store
    let realm := started.run events
    (realm.think now).2.ran = realm.ran ++ (realm.tickHandovers now).map Prod.snd ∧
      ∀ source path, (source, path) ∈ realm.tickHandovers now →
        (∃ found, started.Includes events found ∧ Path.normalize found = Path.normalize source ∧
          Path.normalize (Path.output found) = Path.normalize path) ∧
        (∃ absolute, Pending events absolute ∧
          realm.workspace.watch.registered[HostPath.steps absolute]? = some source) ∧
        ∀ time, started.Names events source time → time + config.debounceMs ≤ now := by
  intro started realm
  have same : started.pipeline = Pipeline.ofBackends config backends := rfl
  have fresh : started.workspace.watch = { debounceMs := config.debounceMs } :=
    (start_spec _ host store).2.1
  have empty : started.workspace.cache.OfScripts := by
    rw [start_cache_of_absent absent]
    exact ⟨Cache.consistent_empty, by simp [Cache.artifacts_empty], by simp [Cache.artifacts_empty]⟩
  obtain ⟨scripts, debounce⟩ := ofScripts_run same lives empty
  refine ⟨think_ran realm now, fun source path handed => ?_⟩
  have settings : (realm.ticked now).pipeline = Pipeline.ofBackends config backends :=
    run_pipeline same events
  obtain ⟨named, script, noted, output⟩ := mem_handovers settings scripts handed
  obtain ⟨⟨key, queued, known⟩, rested⟩ := Watch.mem_think_iff.mp named
  refine ⟨?_, ?_, fun time before => ?_⟩
  · obtain ⟨found, inclusion, spelled⟩ := includes_of_mem same rfl noted
    have code := Dialect.normalize_output_congr inclusion.isScript script spelled
    exact ⟨found, inclusion, spelled, code.trans output.symm⟩
  · obtain ⟨absolute, pending, rfl⟩ := pending_of_mem same (by rw [fresh]) queued
    exact ⟨absolute, pending, known⟩
  · obtain ⟨sorted, _, bounded⟩ := List.pairwise_append.mp ordered
    obtain ⟨last, acted, bound⟩ := lastAction_of_names same lives sorted before
    obtain ⟨first, start, _⟩ := before
    have past : time ≤ now := bounded time
      (List.mem_filterMap.mpr ⟨.request (.think time), start.subset (by simp), rfl⟩) now (by simp)
    have passed : config.debounceMs ≤ now - last := by
      simpa [Watch.isRested, realm, acted, debounce, fresh] using rested
    omega

/-- A script is included through the path of its code, edited and reloaded, and edited once more. -/
def reedited : List Event :=
  [.change (.addFile "l/a.moon" (Text.utf8 "x")), .request (.prepare "a.lua" .inclusion),
    .change (.addFile "l/a.moon" (Text.utf8 "y")), .request (.fileModified "/mock/l/a.moon"),
    .request (.think 0),
    .change (.addFile "l/a.moon" (Text.utf8 "z")), .request (.fileModified "/mock//l/./a.moon")]

/-- The script is reloaded for the second time because it was included, was reported again and has
rested since the first time. -/
theorem reedited_tickHandovers_justified :
    (sample.run reedited).tickHandovers 1000 = [("a.moon", "a.lua")] ∧
      (∃ found, sample.Includes reedited found ∧ Path.normalize found = Path.normalize "a.moon" ∧
        Path.normalize (Path.output found) = Path.normalize "a.lua") ∧
      (∃ absolute, Pending reedited absolute ∧
        (sample.run reedited).workspace.watch.registered[HostPath.steps absolute]? =
          some "a.moon") ∧
      sample.Names reedited "a.moon" 0 ∧ 0 + sampleConfig.debounceMs ≤ 1000 := by
  have handed : (sample.run reedited).tickHandovers 1000 = [("a.moon", "a.lua")] := by
    decide +kernel
  have absent : ({} : MemoryFiles).files[Manifest.path sampleConfig.outputRoot]? = none := by simp
  have lives : Event.restart ∉ reedited := by simp [reedited]
  have ordered : (reedited.filterMap Event.tickTime? ++ [1000]).Pairwise (· ≤ ·) := by decide
  have named : sample.Names reedited "a.moon" 0 := by
    refine ⟨reedited.take 4, ⟨reedited.drop 5, rfl⟩, ?_⟩
    decide +kernel
  obtain ⟨_, justified⟩ :=
    tickHandovers_justified sampleConfig sampleBackends ⟨fun _ => true⟩ absent lives
    ordered
  obtain ⟨included, reported, rested⟩ := justified "a.moon" "a.lua" (by
    change _ ∈ (sample.run reedited).tickHandovers 1000
    simp [handed])
  exact ⟨handed, included, reported, named, rested 0 named⟩

end Realm

end DialectLoader
