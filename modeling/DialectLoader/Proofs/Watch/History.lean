import Mathlib.Data.List.DropRight
import DialectLoader.Files.Memory
import DialectLoader.Proofs.Watch.Ticks

/-!
# The history of a watch

A watch keeps a registry, a queue and the times of its last actions. All three are summaries of the
calls that it received: who watched a file first, which modifications were reported since the last
tick, and when a tick last named a script. Hence what a tick names can be read off the history
alone.

The files may change in any way between calls, so each call comes with the files of its time.

The watch is told of modifications. Where they come from, and whether the system that reports them
misses some or reports some twice, is outside; reports may come in any number and order. Calls come
one at a time, so a report during a tick comes before or after it.
-/

namespace DialectLoader.Watch

/-- What can be asked of a watch: to watch, to take note of a modification, and to name scripts. -/
inductive Call where
  /-- To watch the file of a script. -/
  | register (logical id : String)
  /-- To queue a modification. -/
  | report (absolute : String)
  /-- To name the scripts to act on. -/
  | tick (now : Nat)

/-- A call and the files at its time, which decide what file a script has. -/
structure Moment where
  files : MemoryFiles
  call : Call

/-- A tick in retrospect: the events that it took from the queue, and the scripts that it named. -/
structure Tick where
  time : Nat
  events : List (List String)
  named : List String

/-- The ticks so far and the watch, after one more call. A tick is written down with what it took
and named. -/
def step (searchPaths : SearchPaths) (state : List Tick × Watch) (moment : Moment) :
    List Tick × Watch :=
  match moment.call with
  | .register logical id => (state.1, state.2.register moment.files searchPaths logical id)
  | .report absolute => (state.1, state.2.modified moment.files absolute)
  | .tick now => (state.1 ++ [⟨now, state.2.queue, (state.2.think now).1⟩], (state.2.think now).2)

/-- The ticks of a history and the watch that it ends with, from an empty watch on. -/
def run (debounceMs : Nat) (searchPaths : SearchPaths) (history : List Moment) :
    List Tick × Watch :=
  history.foldl (step searchPaths) ([], { debounceMs })

/-- The steps of the absolute path of a script's file, by which it is registered. -/
def fileOf? (files : MemoryFiles) (searchPaths : SearchPaths) (logical id : String) :
    Option (List String) :=
  (Logical.resolve? files searchPaths logical id).map fun path =>
    HostPath.steps (files.absolute path)

/-- The script that a call watches a file for, if the call is one to watch and the script has that
file. -/
def Moment.watches? (searchPaths : SearchPaths) (file : List String) (moment : Moment) :
    Option String :=
  match moment.call with
  | .register logical id => if fileOf? moment.files searchPaths logical id = some file then
    some logical else none
  | .report _ | .tick _ => none

/-- The file whose modification a call reports, if it reports one. -/
def Moment.reports? (moment : Moment) : Option (List String) :=
  match moment.call with
  | .report absolute => some (HostPath.steps absolute)
  | .register _ _ | .tick _ => none

def Moment.isTick (moment : Moment) : Bool :=
  match moment.call with
  | .tick _ => true
  | .register _ _ | .report _ => false

/-- The script that a file was first watched for. Later scripts with the same file do not take it
over. -/
def owner? (searchPaths : SearchPaths) (history : List Moment) (file : List String) :
    Option String :=
  history.findSome? (·.watches? searchPaths file)

/-- The files that were reported since the last tick, in the order of the reports and with
repetitions. -/
def pending (history : List Moment) : List (List String) :=
  (history.rtakeWhile (!·.isTick)).filterMap Moment.reports?

/-- When a script was last named by a tick, read off the ticks and not off the watch. -/
def lastNamed? (ticks : List Tick) (logical : String) : Option Nat :=
  (ticks.reverse.find? (logical ∈ ·.named)).map Tick.time

variable (debounceMs : Nat) (searchPaths : SearchPaths)

@[simp]
theorem run_nil : run debounceMs searchPaths [] = ([], { debounceMs }) := rfl

@[simp]
theorem run_append_singleton (before : List Moment) (moment : Moment) :
    run debounceMs searchPaths (before ++ [moment]) =
      step searchPaths (run debounceMs searchPaths before) moment := by
  simp [run]

section Register

variable {σ : Type} [FileStore σ] (watch : Watch) (store : σ) (logical id : String)

@[simp]
theorem register_debounceMs :
    (watch.register store searchPaths logical id).debounceMs = watch.debounceMs := by
  rw [register]
  split <;> rfl

@[simp]
theorem register_queue : (watch.register store searchPaths logical id).queue = watch.queue := by
  rw [register]
  split <;> rfl

@[simp]
theorem register_lastAction :
    (watch.register store searchPaths logical id).lastAction = watch.lastAction := by
  rw [register]
  split <;> rfl

end Register

/-- Watching a file makes it known unless it is known already; a script without a file changes
nothing. -/
theorem register_registered (watch : Watch) (files : MemoryFiles) (logical id : String)
    (file : List String) :
    (watch.register files searchPaths logical id).registered[file]? =
      (watch.registered[file]?).or
        (if fileOf? files searchPaths logical id = some file then some logical else none) := by
  rw [register, fileOf?]
  split
  · rename_i unresolved
    simp [unresolved]
  · rename_i path resolved
    have steps : key files (FileStore.absolute files path) = HostPath.steps (files.absolute path) :=
      rfl
    simp only [resolved, Option.map_some, Option.some.injEq, steps,
      Std.ExtTreeMap.getElem?_insertIfNew]
    by_cases here : HostPath.steps (files.absolute path) = file
    · subst here
      cases found : watch.registered[HostPath.steps (files.absolute path)]? <;>
        simp [Std.ExtTreeMap.mem_iff_isSome_getElem?, found]
    · simp [here]

theorem registered_run (history : List Moment) (file : List String) :
    (run debounceMs searchPaths history).2.registered[file]? = owner? searchPaths history file := by
  induction history using List.reverseRecOn with
  | nil => simp [owner?]
  | append_singleton before moment ih =>
    have owned : owner? searchPaths (before ++ [moment]) file =
        ((run debounceMs searchPaths before).2.registered[file]?).or
          (moment.watches? searchPaths file) := by
      simp [owner?, List.findSome?_append, ih]
    rw [run_append_singleton, owned]
    obtain ⟨files, call⟩ := moment
    cases call with
    | register logical id => exact register_registered searchPaths _ files logical id file
    | report absolute => simp [step, modified, Moment.watches?]
    | tick now => simp [step, Moment.watches?, (think_acted _ now).2.registered]

/-- The queue holds what was reported since the last tick, since a tick takes all of it. -/
theorem queue_run (history : List Moment) :
    (run debounceMs searchPaths history).2.queue = pending history := by
  induction history using List.reverseRecOn with
  | nil => rfl
  | append_singleton before moment ih =>
    rw [run_append_singleton, pending, List.rtakeWhile_concat]
    obtain ⟨files, call⟩ := moment
    cases call with
    | register logical id =>
      rw [step, register_queue, ih]
      simp [pending, Moment.isTick, Moment.reports?]
    | report absolute =>
      simp [step, modified, ih, pending, Moment.isTick, Moment.reports?, key,
        FileStore.canonical]
    | tick now => simp [step, Moment.isTick, (think_acted _ now).2.queue]

/-- What the ticks took from the queue and what is still in it is everything that was ever reported,
in order and nothing twice. -/
theorem events_run (history : List Moment) :
    (run debounceMs searchPaths history).1.flatMap Tick.events ++
      (run debounceMs searchPaths history).2.queue = history.filterMap Moment.reports? := by
  induction history using List.reverseRecOn with
  | nil => rfl
  | append_singleton before moment ih =>
    rw [run_append_singleton, List.filterMap_append, ← ih]
    obtain ⟨files, call⟩ := moment
    cases call with
    | register logical id => simp [step, register_queue, Moment.reports?]
    | report absolute => simp [step, modified, Moment.reports?, key, FileStore.canonical]
    | tick now => simp [step, Moment.reports?, (think_acted _ now).2.queue]

/-- The times of the last actions are the times at which scripts were last named. Ticks in which a
script was passed over do not count. -/
theorem lastAction_run (history : List Moment) (logical : String) :
    (run debounceMs searchPaths history).2.lastAction[logical]? =
      lastNamed? (run debounceMs searchPaths history).1 logical := by
  induction history using List.reverseRecOn with
  | nil => simp [lastNamed?]
  | append_singleton before moment ih =>
    rw [run_append_singleton]
    obtain ⟨files, call⟩ := moment
    cases call with
    | register _ _ => rwa [step, register_lastAction]
    | report absolute => exact ih
    | tick now =>
      simp only [step, lastNamed?, List.reverse_append, (think_acted _ now).2.lastAction]
      split <;> simp_all [lastNamed?]

theorem debounceMs_run (history : List Moment) :
    (run debounceMs searchPaths history).2.debounceMs = debounceMs := by
  induction history using List.reverseRecOn with
  | nil => rfl
  | append_singleton before moment ih =>
    rw [run_append_singleton]
    obtain ⟨files, call⟩ := moment
    cases call with
    | register _ _ => rwa [step, register_debounceMs]
    | report absolute => exact ih
    | tick now => simp [step, (think_acted _ now).2.debounceMs, ih]

/-- A script has rested when it was never named, or not within the debounce time. A clock that goes
back counts as no time. -/
theorem isRested_run_iff (history : List Moment) (now : Nat) (logical : String) :
    (run debounceMs searchPaths history).2.isRested now logical = true ↔
      ∀ last, lastNamed? (run debounceMs searchPaths history).1 logical = some last →
      debounceMs ≤ now - last := by
  rw [isRested, lastAction_run, debounceMs_run]
  split <;> rename_i named <;> simp [named]

/-- The scripts whose files were reported, in the order of the events. Files that nobody watches are
left out. -/
theorem reported_run (history : List Moment) :
    (run debounceMs searchPaths history).2.reported =
      (pending history).filterMap (owner? searchPaths history) := by
  rw [reported, queue_run]
  congr 1
  funext file
  exact registered_run debounceMs searchPaths history file

/-- After every history, a tick names exactly the scripts that own a file reported since the last
tick and that were not named within the debounce time. Each is named once, in the order of the first
reports. A file belongs to whoever watched it first, for good. Every report is taken from the queue
by one tick, or is still there. -/
theorem think_of_history (history : List Moment) (now : Nat) :
    let ticks := (run debounceMs searchPaths history).1
    let watch := (run debounceMs searchPaths history).2
    let named := (watch.think now).1
    let scripts := (pending history).filterMap (owner? searchPaths history)
    (∀ logical, logical ∈ named ↔
      (∃ file ∈ pending history, owner? searchPaths history file = some logical) ∧
        ∀ last, lastNamed? ticks logical = some last → debounceMs ≤ now - last) ∧
      named.Nodup ∧ named.Pairwise (fun left right => scripts.idxOf left < scripts.idxOf right) ∧
      (∀ file, watch.registered[file]? = owner? searchPaths history file ∧
        ∀ logical later, watch.registered[file]? = some logical →
          (run debounceMs searchPaths (history ++ later)).2.registered[file]? = some logical) ∧
      ticks.flatMap Tick.events ++ watch.queue = history.filterMap Moment.reports? ∧
      watch.queue = pending history := by
  intro ticks watch named scripts
  have owned (file : List String) : watch.registered[file]? = owner? searchPaths history file :=
    registered_run debounceMs searchPaths history file
  have queued : watch.queue = pending history := queue_run debounceMs searchPaths history
  have listed : watch.reported = scripts := reported_run debounceMs searchPaths history
  have ordered : named.Pairwise fun left right => scripts.idxOf left < scripts.idxOf right :=
    listed ▸ pairwise_think watch now
  refine ⟨fun logical => ?_, ?_, ordered, fun file => ⟨owned file, fun logical later known => ?_⟩,
    ?_, queued⟩
  · have rested : watch.isRested now logical = true ↔
        ∀ last, lastNamed? ticks logical = some last → debounceMs ≤ now - last :=
      isRested_run_iff debounceMs searchPaths history now logical
    rw [mem_think_iff, rested, queued]
    simp only [owned]
  · refine ordered.imp fun {left right} earlier same => ?_
    exact Nat.lt_irrefl _ (same ▸ earlier)
  · rw [owned] at known
    rw [registered_run, owner?, List.findSome?_append, ← owner?, known, Option.some_or]
  · exact events_run debounceMs searchPaths history

end DialectLoader.Watch
