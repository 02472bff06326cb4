import Std.Data.ExtTreeMap
import DialectLoader.Files.Logical

/-!
# Watched files

Scripts that were compiled are watched. A modification is queued under the absolute path of its
file; at the next tick the queue is emptied and every script that has not been acted on within the
debounce time is named once, in the order of the events. A file keeps the logical path under which
it was first watched. Events for other files are dropped.

Absolute paths are compared by their steps, so repeated slashes and `.` do not matter.

The watcher of the operating system is not modelled. An event is a call of `modified`, time is a
number that comes with each tick, and neither the threads that deliver events nor a watcher that
fails to start has a place here.
-/

namespace DialectLoader

/-- The watched files and what happened to them. Times are in milliseconds, from a clock that need
not start at zero. -/
structure Watch where
  debounceMs : Nat
  /-- The logical path of each watched file, by the steps of its absolute path. -/
  registered : Std.ExtTreeMap (List String) String := ∅
  /-- The files that were modified since the last tick, in order and with repetitions. -/
  queue : List (List String) := []
  /-- When each script was last acted on. A script without an entry may be acted on at any time. -/
  lastAction : Std.ExtTreeMap String Nat := ∅

namespace Watch

variable {σ : Type} [FileStore σ]

/-- What stands for a file, given by an absolute path, in the registry and in the queue. Both are
made by the store, so two spellings of one file meet. -/
def key (store : σ) (absolute : String) : List String :=
  HostPath.steps (FileStore.canonical store absolute)

/-- Watches the file that a logical path stands for, unless there is none or it is watched already.
A file under two logical paths keeps the first. -/
def register (watch : Watch) (store : σ) (searchPaths : SearchPaths) (logical id : String) :
    Watch :=
  match Logical.resolve? store searchPaths logical id with
  | none => watch
  | some path =>
    { watch with
      registered :=
        watch.registered.insertIfNew (key store (FileStore.absolute store path)) logical }

/-- Queues a modification of the file at an absolute path, whether or not the file is watched. That
is decided at the next tick. -/
def modified (watch : Watch) (store : σ) (absolute : String) : Watch :=
  { watch with queue := watch.queue ++ [key store absolute] }

def size (watch : Watch) : Nat :=
  watch.registered.size

/-- Whether a script may be acted on: never before, or at least the debounce time ago. A clock that
went back counts as no time gone by. -/
def isRested (watch : Watch) (now : Nat) (logical : String) : Bool :=
  match watch.lastAction[logical]? with
  | some last => watch.debounceMs ≤ now - last
  | none => true

/-- Handles one event: the scripts to act on, in order, and the registry afterwards. An event that
comes too early is dropped and not kept for later. -/
def handle (now : Nat) (state : List String × Watch) (event : List String) : List String × Watch :=
  let (changed, watch) := state
  match watch.registered[event]? with
  | none => state
  | some logical =>
    if watch.isRested now logical then
      (if changed.contains logical then changed else changed ++ [logical],
        { watch with lastAction := watch.lastAction.insert logical now })
    else state

/-- Empties the queue at a time and names the scripts to act on. Several events for one script
within one tick come to one action. -/
def think (watch : Watch) (now : Nat) : List String × Watch :=
  watch.queue.foldl (handle now) ([], { watch with queue := [] })

end Watch

end DialectLoader
