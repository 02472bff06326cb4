import DialectLoader.Pipeline
import DialectLoader.Proofs.Path.Spelling

/-!
# Files behind logical paths

A logical path stands for the first file that its search path holds under it. Reading a script and
asking for its modification time look at nothing else, so what a change of the store means for a
script is said once, about the file behind it: either that file is the same as before, or it is the
file that was changed, with the time of the change.

Normal paths keep their spelling on the way to absolute paths and back, and different ones have
different absolute paths.

This is the store in memory. Its clock moves with every change, so two changes never have the same
time; on a disk they may. Links, permissions and file systems that ignore the case of letters are
not part of it.
-/

namespace DialectLoader.Signal

theorem later_of_seconds {current known : Signal} (behind : known.seconds < current.seconds) :
    current.later known = true := by
  simp [later, behind]

/-- What the next change of a store is later than is no newer than its clock, since that change
comes one second after it. -/
theorem seconds_le_of_nextTime {store : MemoryFiles} {known : Signal}
    (later : store.nextTime.later known = true) : known.seconds ≤ store.clock := by
  simp only [Signal.later, MemoryFiles.nextTime, Nat.not_lt_zero, decide_false, Bool.and_false,
    Bool.or_false] at later
  exact Nat.le_of_lt_succ (of_decide_eq_true later)

end DialectLoader.Signal

namespace DialectLoader.MemoryFiles

open DialectLoader.Path (Normal)

theorem absolute_toList (store : MemoryFiles) {path : String}
    (relative : HostPath.isAbsolute path = false) :
    (store.absolute path).toList = [] ++ '/' :: ("mock".toList ++ '/' :: path.toList) := by
  have spelled : store.absolute path = root ++ "/" ++ path := by
    simp only [absolute, HostPath.append, relative]
    rfl
  rw [spelled, String.toList_append, String.toList_append]
  rfl

/-- The absolute path of a relative path has its names behind that of the root, including those that
do not count. -/
theorem rawNames_absolute (store : MemoryFiles) {path : String}
    (relative : HostPath.isAbsolute path = false) :
    HostPath.rawNames (store.absolute path) = [] :: "mock".toList :: Path.names path.toList := by
  rw [HostPath.rawNames, ← Path.names, absolute_toList store relative, Path.names_append,
    Path.names_append]
  rfl

/-- The steps of the absolute path of a relative path: the root and the names that count. The
registry of the watch goes by these. -/
theorem steps_absolute (store : MemoryFiles) {path : String}
    (relative : HostPath.isAbsolute path = false) :
    HostPath.steps (store.absolute path) = "/" :: "mock" :: HostPath.names path := by
  have rooted : HostPath.isAbsolute (store.absolute path) = true := by
    rw [HostPath.isAbsolute, absolute_toList store relative]
    rfl
  have empty : HostPath.isName [] = false := by decide
  have mock : HostPath.isName "mock".toList = true := by decide
  rw [HostPath.steps, if_pos rooted, HostPath.names, rawNames_absolute store relative,
    List.filter_cons_of_neg (by simp [empty]), List.filter_cons_of_pos mock]
  rfl

theorem filter_names {path : String} (normal : Normal path) :
    (Path.names path.toList).filter HostPath.isName = Path.names path.toList :=
  List.filter_eq_self.mpr fun name member => (Path.normal_iff.mp normal name member).hostName

/-- What stands for a file in the registry of the watch: the steps of its absolute path. -/
def fileKey (path : String) : List String :=
  HostPath.steps (HostPath.append root path)

/-- The store itself does not matter to what stands for its files, so a registry stays valid while
files change. -/
theorem key_eq (store : MemoryFiles) (path : String) :
    Watch.key store (FileStore.absolute store path) = fileKey path :=
  rfl

/-- What stands for a normal path: the root and the names of the path, all of which count. -/
theorem fileKey_of_normal {path : String} (normal : Normal path) :
    fileKey path = "/" :: "mock" :: (Path.names path.toList).map String.ofList := by
  change HostPath.steps (absolute {} path) = _
  rw [steps_absolute {} (Path.isAbsolute_of_isRooted normal.relative), HostPath.names,
    HostPath.rawNames, ← Path.names, filter_names normal]

/-- Different normal paths are told apart in the registry, so a change of one script is never taken
for that of another. -/
theorem fileKey_injective {path other : String} (left : Normal path) (right : Normal other)
    (same : fileKey path = fileKey other) : path = other := by
  rw [fileKey_of_normal left, fileKey_of_normal right] at same
  have texts := (List.cons.inj (List.cons.inj same).2).2
  have names : Path.names path.toList = Path.names other.toList :=
    List.map_inj_right (fun _ _ equal => String.ofList_injective equal) |>.mp texts
  apply String.toList_inj.mp
  rw [← Path.intercalate_names path.toList, names, Path.intercalate_names]

/-- The canonical spelling of a relative path does not depend on the store, which has one root
only. -/
theorem rootRelative_of_relative (store : MemoryFiles) {path : String}
    (relative : HostPath.isAbsolute path = false) :
    Pipeline.rootRelative store path = Path.fromRoot path := by
  have below : HostPath.below? root (store.absolute path) =
      some (String.ofList (['/'].intercalate (HostPath.trimNames (Path.names path.toList)))) := by
    have steps : HostPath.steps root = ["/", "mock"] := by decide
    have dropped : HostPath.dropNames (HostPath.names root).length
        ([] :: "mock".toList :: Path.names path.toList) = Path.names path.toList := by
      have one : (HostPath.names root).length = 1 := by decide
      rw [one]
      simp [HostPath.dropNames, HostPath.isName]
    rw [HostPath.below?, steps, steps_absolute store relative, rawNames_absolute store relative,
      dropped]
    simp
  change ((HostPath.below? root (store.absolute path)).map HostPath.forwardSlashes).getD _ = _
  rw [below, Option.map_some, Option.getD_some, Path.fromRoot]

theorem rootRelative_of_normal (store : MemoryFiles) {path : String} (normal : Normal path) :
    Pipeline.rootRelative store path = path := by
  rw [rootRelative_of_relative store (Path.isAbsolute_of_isRooted normal.relative), normal.fromRoot]

/-- The file behind a logical path: the first that one of the directories of the search path holds.
Later directories are not looked at. -/
def behind? (store : MemoryFiles) (searchPaths : SearchPaths) (logical id : String) :
    Option (String × StoredFile) :=
  ((searchPaths.directories id).map (Path.join · logical)).findSome? fun path =>
    store.files[path]?.map (path, ·)

section Behind

variable {store : MemoryFiles} {searchPaths : SearchPaths} {logical id : String}

/-- A logical path resolves to the path of the file behind it, and to nothing if there is none. -/
theorem resolve?_eq : Logical.resolve? store searchPaths logical id =
    (store.behind? searchPaths logical id).map (·.1) := by
  rw [Logical.resolve?, behind?]
  induction (searchPaths.directories id).map (Path.join · logical) with
  | nil => rfl
  | cons path rest ih =>
    rw [List.find?_cons, List.findSome?_cons]
    have isFile : FileStore.isFile store path = store.files[path]?.isSome :=
      Std.ExtTreeMap.contains_eq_isSome_getElem?
    cases found : store.files[path]? with
    | some file => simp [isFile, found]
    | none => simpa [isFile, found] using ih

/-- The file behind a logical path is the one that the store has at its path, and that path is the
logical path below a directory of the search path. -/
theorem behind?_spec {path : String} {file : StoredFile}
    (found : store.behind? searchPaths logical id = some (path, file)) :
    store.files[path]? = some file ∧ ∃ directory ∈ searchPaths.directories id,
    path = Path.join directory logical := by
  obtain ⟨place, member, there⟩ := List.exists_of_findSome?_eq_some found
  obtain ⟨directory, listed, rfl⟩ := List.mem_map.mp member
  obtain ⟨stored, looked, same⟩ := Option.map_eq_some_iff.mp there
  cases same
  exact ⟨looked, directory, listed, rfl⟩

/-- The modification time of a script is that of the file behind it; without a file it is an
error. -/
theorem modified_eq : Logical.modified store searchPaths logical id =
    match store.behind? searchPaths logical id with
    | some (_, file) => .ok file.modified
    | none => .error (Logical.unresolved logical id) := by
  rw [Logical.modified, Logical.locate, resolve?_eq]
  cases found : store.behind? searchPaths logical id with
  | none => rfl
  | some entry =>
    obtain ⟨path, file⟩ := entry
    change store.modified path = _
    rw [MemoryFiles.modified, (behind?_spec found).1]

/-- The bytes of a script are those of the file behind it; without a file there is an error. -/
theorem read_eq : Logical.read store searchPaths logical id =
    match store.behind? searchPaths logical id with
    | some (_, file) => .ok file.contents
    | none => .error (Logical.unresolved logical id) := by
  rw [Logical.read, Logical.locate, resolve?_eq]
  cases found : store.behind? searchPaths logical id with
  | none => rfl
  | some entry =>
    obtain ⟨path, file⟩ := entry
    change store.read path = _
    rw [MemoryFiles.read, (behind?_spec found).1]

/-- A script sees only files of its own dialect: what happens to other files does not matter to
it. -/
theorem behind?_congr {changed : MemoryFiles}
    (same : ∀ path, Dialect.ofPath? path = Dialect.ofPath? logical →
      changed.files[path]? = store.files[path]?) :
    changed.behind? searchPaths logical id = store.behind? searchPaths logical id := by
  have places : ∀ place ∈ (searchPaths.directories id).map (Path.join · logical),
      changed.files[place]? = store.files[place]? := by
    intro place member
    obtain ⟨directory, _, rfl⟩ := List.mem_map.mp member
    exact same _ (Path.ofPath?_join directory logical)
  unfold behind?
  generalize (searchPaths.directories id).map (Path.join · logical) = listed at places ⊢
  induction listed with
  | nil => rfl
  | cons place rest ih =>
    have others := ih fun other member =>
      places other (List.mem_cons_of_mem _ member)
    rw [List.findSome?_cons, List.findSome?_cons, places place List.mem_cons_self, others]

/-- A change at one path that leaves a file there is behind a logical path, or what was behind it
still is. A new file may eclipse one that was found so far. -/
theorem behind?_of_elsewhere {changed : MemoryFiles} {path : String} {file : StoredFile}
    (elsewhere : ∀ other, other ≠ path → changed.files[other]? = store.files[other]?)
    (there : changed.files[path]? = some file) :
    changed.behind? searchPaths logical id = store.behind? searchPaths logical id ∨
      changed.behind? searchPaths logical id = some (path, file) := by
  unfold behind?
  induction (searchPaths.directories id).map (Path.join · logical) with
  | nil => exact .inl rfl
  | cons place rest ih =>
    rw [List.findSome?_cons, List.findSome?_cons]
    by_cases here : place = path
    · right
      rw [here, there]
      rfl
    · rw [elsewhere place here]
      cases store.files[place]? with
      | some _ => exact .inl rfl
      | none => exact ih

end Behind

/-- No file is newer than the clock. So it is in every store that was built by its own
operations. -/
def Dated (store : MemoryFiles) : Prop :=
  ∀ (path : String) (file : StoredFile), store.files[path]? = some file →
    file.modified.seconds ≤ store.clock

theorem dated_empty : Dated {} :=
  fun _ _ found => by simp at found

/-- A store in which the file at one path was changed or added, at the next time; all other files
are as they were. -/
structure Ticked (store changed : MemoryFiles) (path : String) : Prop where
  elsewhere : ∀ other, other ≠ path → changed.files[other]? = store.files[other]?
  here : ∀ file : StoredFile, changed.files[path]? = some file → file.modified = store.nextTime
  kept : store.files[path]?.isSome = true → changed.files[path]?.isSome = true
  clock : changed.clock = store.clock + 1

namespace Ticked

variable {store changed : MemoryFiles} {path : String}

/-- The clock stays ahead of the files, because a changed file has the time of the clock. -/
theorem dated (ticked : Ticked store changed path) (known : store.Dated) : changed.Dated := by
  intro other file found
  rw [ticked.clock]
  by_cases here : other = path
  · rw [here] at found
    rw [ticked.here file found]
    exact Nat.le_refl _
  · rw [ticked.elsewhere other here] at found
    exact Nat.le_succ_of_le (known other file found)

/-- The file behind a logical path is the one from before, or the changed one with the time of the
change. There is no third case. -/
theorem behind? (ticked : Ticked store changed path) (searchPaths : SearchPaths)
    (logical id : String) :
    changed.behind? searchPaths logical id = store.behind? searchPaths logical id ∨
      ∃ file, changed.behind? searchPaths logical id = some (path, file) ∧
      file.modified = store.nextTime := by
  cases there : changed.files[path]? with
  | some file =>
    rcases behind?_of_elsewhere ticked.elsewhere there with same | now
    · exact .inl same
    · exact .inr ⟨file, now, ticked.here file there⟩
  | none =>
    left
    apply behind?_congr
    intro other _
    by_cases here : other = path
    · have absent : store.files[path]? = none := by
        cases before : store.files[path]? with
        | none => rfl
        | some _ =>
          have kept := ticked.kept (by simp [before])
          simp [there] at kept
      rw [here, there, absent]
    · exact ticked.elsewhere other here

/-- Files that are no scripts are behind no script, so writing code or a manifest does not change
what scripts see. -/
theorem behind?_script (ticked : Ticked store changed path) (noScript : Dialect.ofPath? path = none)
    (searchPaths : SearchPaths) {logical : String} (script : Dialect.ofPath? logical ≠ none)
    (id : String) :
    changed.behind? searchPaths logical id = store.behind? searchPaths logical id := by
  apply behind?_congr
  intro other same
  apply ticked.elsewhere
  rintro rfl
  exact script (same.symm.trans noScript)

end Ticked

/-- A later state of a store as far as scripts are concerned: behind each of them is the file from
before, or one that is newer than all there was. -/
structure Forward (store changed : MemoryFiles) : Prop where
  dated : store.Dated → changed.Dated
  clock : store.clock ≤ changed.clock
  behind : ∀ (searchPaths : SearchPaths) (logical id : String),
    changed.behind? searchPaths logical id = store.behind? searchPaths logical id ∨
      ∃ path file, changed.behind? searchPaths logical id = some (path, file) ∧
        store.clock < file.modified.seconds

theorem Forward.of_files {store changed : MemoryFiles} (files : changed.files = store.files)
    (clock : changed.clock = store.clock) : Forward store changed where
  dated known := by
    intro path file found
    rw [files] at found
    rw [clock]
    exact known path file found
  clock := Nat.le_of_eq clock.symm
  behind searchPaths logical id := .inl (behind?_congr fun other _ => by rw [files])

/-- A change of one file leads to a later state. Removing a file does not, and is excluded where
this is used. -/
theorem Ticked.forward {store changed : MemoryFiles} {path : String}
    (ticked : Ticked store changed path) :
    Forward store changed where
  dated := ticked.dated
  clock := Nat.le_of_lt (ticked.clock ▸ Nat.lt_succ_self store.clock)
  behind searchPaths logical id := by
    rcases ticked.behind? searchPaths logical id with same | ⟨file, now, time⟩
    · exact .inl same
    · exact .inr ⟨path, file, now, time ▸ Nat.lt_succ_self store.clock⟩

theorem ticked_addFile (store : MemoryFiles) (path : String) (contents : Bytes) :
    Ticked store (store.addFile path contents) path := by
  constructor
  · intro other apart
    simp [addFile, Std.ExtTreeMap.getElem?_insert, Ne.symm apart]
  · intro file found
    simp only [addFile, Std.ExtTreeMap.getElem?_insert_self, Option.some.injEq] at found
    rw [← found]
  · simp [addFile]
  · rfl

/-- Touching a file changes the store at its path, in nothing but the time of the file. Without a
file only the clock moves. -/
theorem ticked_touch (store : MemoryFiles) (path : String) :
    Ticked store (store.touch path) path := by
  constructor
  · intro other apart
    simp [touch, Std.ExtTreeMap.getElem?_modify, Ne.symm apart]
  · intro file found
    simp only [touch, Std.ExtTreeMap.getElem?_modify_self, Option.map_eq_some_iff] at found
    obtain ⟨_, _, rfl⟩ := found
    rfl
  · simp [touch]
  · rfl

end DialectLoader.MemoryFiles
