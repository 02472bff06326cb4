import DialectLoader.Proofs.Files.Housed
import DialectLoader.Proofs.Pipeline.Effect
import DialectLoader.Proofs.Watch.Ticks
import DialectLoader.Realm

/-!
# The names of scripts

A realm that is asked for normal paths only, on files whose scripts have normal paths, compiles
normal paths only: the script beside a Lua file, the scripts that a walk finds and those that the
watch names all have normal paths.

Other files may be spelled as they please. A host that asks for other spellings is answered too;
what is proved for normal paths does not apply to it.
-/

namespace DialectLoader

open DialectLoader.Path (Normal)

/-- Search directories with normal paths, so that the file of a script with a normal path has one as
well. -/
def Config.TidyDirectories (config : Config) : Prop :=
  ∀ directory ∈ config.searchPaths.directories config.searchPath, Normal directory

instance (config : Config) : Decidable config.TidyDirectories :=
  inferInstanceAs (Decidable (∀ directory ∈ _, Normal directory))

/-- A store whose scripts have normal paths. About other files nothing is said. -/
def MemoryFiles.TidyScripts (store : MemoryFiles) : Prop :=
  ∀ (path : String) (file : StoredFile), store.files[path]? = some file →
    (Dialect.ofPath? path).isSome = true → Normal path

theorem MemoryFiles.tidyScripts_empty : TidyScripts {} :=
  fun _ _ found => by simp at found

/-- A watch that names scripts by normal paths, whatever the files are called. -/
def Watch.Tidy (watch : Watch) : Prop :=
  ∀ (key : List String) (logical : String), watch.registered[key]? = some logical → Normal logical

namespace Pipeline

variable {config : Config}

theorem ofPath?_append (directory path : List Char) :
    Dialect.ofPath? (String.ofList (directory ++ '/' :: path)) =
      Dialect.ofPath? (String.ofList path) := by
  rw [Dialect.ofPath?, Dialect.ofPath?, Path.extension?, Path.extension?, String.toList_ofList,
    String.toList_ofList, Path.cutName_append]

/-- The directory in which a walk looks has a normal path, also where the whole of a search
directory is walked. -/
theorem trimEnd_join_of_normal {directory lower : String} (outer : Normal directory)
    (inner : lower = "" ∨ Normal lower) : Normal (Path.trimEnd (Path.join directory lower)) := by
  rcases inner with rfl | inner
  · rw [Path.trimEnd_join_empty outer.closed]
    exact outer
  · rw [(outer.join inner).trimEnd]
    exact outer.join inner

/-- What is cut off below a directory stands behind the directory and a slash; below the empty one
it is everything. -/
theorem below?_eq_some_iff {directory path rest : String} :
    Logical.below? directory path = some rest ↔
      (directory = "" ∧ path = rest) ∨
      (directory ≠ "" ∧ path.toList = directory.toList ++ '/' :: rest.toList) := by
  unfold Logical.below?
  by_cases empty : directory = ""
  · simp [empty]
  · have start : directory.toList ++ '/' :: rest.toList =
        (directory.toList ++ ['/']) ++ rest.toList := by simp
    rw [if_neg (by simpa using empty)]
    simp only [empty, false_and, false_or, ne_eq, not_false_eq_true, true_and, start]
    constructor
    · intro cut
      split at cut
      · rename_i begins
        obtain ⟨behind, spelled⟩ := List.isPrefixOf_iff_prefix.mp begins
        have dropped : path.toList.drop (directory.toList.length + 1) = behind := by
          rw [← spelled]
          exact List.drop_left' (by simp)
        rw [dropped] at cut
        rw [← Option.some.inj cut, String.toList_ofList, spelled]
      · cases cut
    · intro spelled
      rw [if_pos (List.isPrefixOf_iff_prefix.mpr ⟨_, spelled.symm⟩), spelled,
        List.drop_left' (by simp), String.ofList_toList]

theorem below?_toList {directory path rest : String} (outer : Normal directory)
    (cut : Logical.below? directory path = some rest) :
    path.toList = directory.toList ++ '/' :: rest.toList :=
  ((below?_eq_some_iff.mp cut).resolve_left fun both => outer.ne_empty both.1).2

/-- A file below a normal directory has the dialect of its logical path, so the same files count as
scripts from either side. -/
theorem ofPath?_of_below? {directory path rest : String} (outer : Normal directory)
    (cut : Logical.below? directory path = some rest) (lower : String) :
    Dialect.ofPath? (Path.join lower rest) = Dialect.ofPath? path := by
  rw [Path.ofPath?_join, ← rest.ofList_toList, ← ofPath?_append directory.toList,
    ← below?_toList outer cut, path.ofList_toList]

/-- A walk lists the files below a directory, if there is one. A directory that is missing hides the
files below it. -/
theorem mem_walkOne_iff {store : MemoryFiles} {directory lower logical : String} :
    logical ∈ Logical.walkOne store lower directory ↔
      (Path.trimEnd (Path.join directory lower) = "" ∨
        Path.trimEnd (Path.join directory lower) ∈ store.directories) ∧
        ∃ path ∈ store.files, ∃ rest,
          Logical.below? (Path.trimEnd (Path.join directory lower)) path = some rest ∧
          Path.join lower rest = logical := by
  have closed := Path.getLast?_trimEnd (Path.join directory lower)
  simp only [Logical.walkOne, FileStore.walk, MemoryFiles.walk]
  generalize Path.trimEnd (Path.join directory lower) = place at closed
  rw [Path.trimEnd_of_getLast? closed]
  by_cases empty : place = ""
  · simp [empty, List.mem_filterMap]
  · rw [if_neg (by simpa using empty)]
    by_cases there : place ∈ store.directories
    · rw [if_pos (Std.ExtTreeSet.contains_iff_mem.mpr there)]
      simp only [List.mem_filterMap, List.mem_filter, Std.ExtTreeMap.mem_keys,
        Option.map_eq_some_iff, there, or_true, true_and]
      constructor
      · rintro ⟨path, ⟨found, _⟩, rest, cut, joined⟩
        exact ⟨path, found, rest, cut, joined⟩
      · rintro ⟨path, found, rest, cut, joined⟩
        refine ⟨path, ⟨found, ?_⟩, rest, cut, joined⟩
        obtain ⟨_, spelled⟩ := (below?_eq_some_iff.mp cut).resolve_left fun both => empty both.1
        exact MemoryFiles.isBelow_iff.mpr ⟨rest.toList, spelled⟩
    · rw [if_neg fun known => there (Std.ExtTreeSet.contains_iff_mem.mp known)]
      simp [there, empty]

/-- A script that a walk finds below one directory has a normal logical path, since it is the end of
a normal path. -/
theorem normal_of_mem_walkOne {store : MemoryFiles} (scripts : store.TidyScripts)
    {directory lower logical : String} (outer : Normal directory)
    (inner : lower = "" ∨ Normal lower) (found : logical ∈ Logical.walkOne store lower directory)
    (script : (Dialect.ofPath? logical).isSome = true) : Normal logical := by
  obtain ⟨_, path, stored, rest, cut, rfl⟩ := mem_walkOne_iff.mp found
  have base := trimEnd_join_of_normal outer inner
  rw [ofPath?_of_below? base cut] at script
  have normal := scripts path _ (Std.ExtTreeMap.getElem?_eq_some_getElem stored) script
  rw [← path.ofList_toList, below?_toList base cut, Path.normal_append_iff, rest.ofList_toList]
    at normal
  rcases inner with rfl | inner
  · rw [Path.join_empty normal.2]
    exact normal.2
  · exact inner.join normal.2

/-- The scripts below a directory have normal logical paths, over all directories of the search
path. -/
theorem normal_of_mem_scriptsBelow {pipeline : Pipeline MemoryFiles}
    (tidy : pipeline.config.TidyDirectories) {store : MemoryFiles} (scripts : store.TidyScripts)
    {directory logical : String} (inner : directory = "" ∨ Normal directory)
    (found : logical ∈ pipeline.scriptsBelow store directory) :
    Normal logical := by
  obtain ⟨walked, script⟩ := List.mem_filter.mp found
  have trimmed : Path.trimEnd directory = directory := by
    rcases inner with rfl | inner
    · rfl
    · exact inner.trimEnd
  rw [Logical.walk, trimmed] at walked
  have listed := Std.ExtTreeSet.mem_toList.mp walked
  rw [Std.ExtTreeSet.mem_ofList, List.contains_iff_mem] at listed
  obtain ⟨outer, known, found⟩ := List.mem_flatMap.mp listed
  exact normal_of_mem_walkOne scripts (tidy outer known) inner found script

end Pipeline

namespace Realm

/-- The script behind a request for a normal path has a normal path; it is the file itself or the
one beside it. -/
theorem normal_of_findSource {realm : Realm MemoryFiles} {file source : String}
    (normal : Normal file) (found : realm.findSource file = some source) : Normal source := by
  unfold findSource at found
  split at found
  · split at found
    · rw [← Option.some.inj found]
      exact normal
    · cases found
  · split at found
    · obtain ⟨dialect, _, rfl⟩ := List.mem_map.mp (List.mem_of_find?_eq_some found)
      exact normal.setExtension (Path.isExtension_dialect dialect)
    · cases found

end Realm

namespace Watch

/-- Another watch of the same files: the registry and the debounce time are the same, the events may
differ. -/
structure SameFiles (watch later : Watch) : Prop where
  registered : later.registered = watch.registered
  debounceMs : later.debounceMs = watch.debounceMs

theorem think_spec (watch : Watch) (now : Nat) :
    watch.SameFiles (watch.think now).2 ∧
      ∀ logical ∈ (watch.think now).1, ∃ key :
      List String, watch.registered[key]? = some logical := by
  have acted := (think_acted watch now).2
  refine ⟨⟨acted.registered, acted.debounceMs⟩, fun logical member => ?_⟩
  obtain ⟨⟨key, _, known⟩, _⟩ := mem_think_iff.mp member
  exact ⟨key, known⟩

end Watch

end DialectLoader
