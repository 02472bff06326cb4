import DialectLoader.Proofs.Realm.Startup

/-!
# Walking and resolving

Walking a logical directory leads from files to logical paths: the directory in which it looks is
cut off in front of each file, and the logical directory is put in its place. Resolving leads the
other way and puts a directory of the search path in front of a logical path. On plain paths, with
single slashes between their names, cutting off undoes putting in front, whether directories are
named or empty. So both ask for the same files.

A walk finds nothing if the directory in which it looks is not there. That loses no file as long as
the directories on the way to every file are there, which changes to the files from outside do not
alter.

The files are those in memory. On a disk a walk may also meet directories that cannot be read and
links that lead back; it is not described here.
-/

namespace DialectLoader

namespace Path

/-- A path of names with single slashes between them: no backslash and no empty name, so that it is
not empty and has no slash at either end. -/
structure Plain (path : String) : Prop where
  slashes : '\\' ∉ path.toList
  named : [] ∉ names path.toList

instance : DecidablePred Plain := fun path =>
  decidable_of_iff ('\\' ∉ path.toList ∧ [] ∉ names path.toList)
    ⟨fun ⟨slashes, named⟩ => ⟨slashes, named⟩, fun plain => ⟨plain.slashes, plain.named⟩⟩

variable {directory middle lower path : String}

/-- A path is plain if it is so before and behind a slash. So cutting and joining at a slash stay
among plain paths. -/
theorem plain_append_iff {front back : List Char} :
    Plain (String.ofList (front ++ '/' :: back)) ↔ Plain (String.ofList front) ∧
    Plain (String.ofList back) := by
  constructor
  · rintro ⟨slashes, named⟩
    rw [String.toList_ofList] at slashes named
    rw [names_append, List.mem_append, not_or] at named
    refine ⟨⟨?_, ?_⟩, ⟨?_, ?_⟩⟩ <;> rw [String.toList_ofList]
    · exact fun member => slashes (by simp [member])
    · exact named.1
    · exact fun member => slashes (by simp [member])
    · exact named.2
  · rintro ⟨⟨slashes, named⟩, ⟨laterSlashes, laterNamed⟩⟩
    rw [String.toList_ofList] at slashes named laterSlashes laterNamed
    constructor <;> rw [String.toList_ofList]
    · simp [slashes, laterSlashes]
    · rw [names_append, List.mem_append, not_or]
      exact ⟨named, laterNamed⟩

namespace Plain

variable (plain : Plain path)

include plain

theorem ne_empty : path ≠ "" := by
  rintro rfl
  exact plain.named (by decide)

theorem closed : path.toList.getLast? ≠ some '/' := by
  intro ending
  obtain ⟨front, spelled⟩ := List.getLast?_eq_some_iff.mp ending
  rw [← path.ofList_toList, spelled, plain_append_iff] at plain
  exact plain.2.ne_empty rfl

theorem dropLeadingSlashes : Path.dropLeadingSlashes path.toList = path.toList := by
  cases spelled : path.toList with
  | nil => rfl
  | cons c rest =>
    have other : c ≠ '/' := by
      rintro rfl
      rw [← path.ofList_toList, spelled, ← List.nil_append ('/' :: rest), plain_append_iff] at plain
      exact plain.1.ne_empty rfl
    simp [Path.dropLeadingSlashes, other]

theorem join_empty : Path.join "" path = path := by
  simp [Path.join, plain.dropLeadingSlashes]

/-- A directory is put in front of a plain path with one slash between them. -/
theorem join_toList (outer : Plain directory) :
    (Path.join directory path).toList = directory.toList ++ '/' :: path.toList := by
  rw [join_toList_of_visible outer.ne_empty outer.closed, plain.dropLeadingSlashes]

/-- Putting a directory in front of a plain path gives a plain path, also if the directory is
empty. -/
theorem join (outer : directory = "" ∨ Plain directory) : Plain (Path.join directory path) := by
  rcases outer with rfl | outer
  · rw [plain.join_empty]
    exact plain
  · rw [← (Path.join directory path).ofList_toList, plain.join_toList outer, plain_append_iff,
      String.ofList_toList, String.ofList_toList]
    exact ⟨outer, plain⟩

end Plain

/-- The directory in which a walk looks is plain, or empty if nothing is in front of it and nothing
in it is named. -/
theorem trimEnd_join_of_plain (outer : directory = "" ∨ Plain directory)
    (inner : lower = "" ∨ Plain lower) :
    trimEnd (join directory lower) = "" ∨ Plain (trimEnd (join directory lower)) := by
  rcases inner with rfl | inner
  · rcases outer with rfl | outer
    · exact .inl rfl
    · rw [trimEnd_join_empty outer.closed]
      exact .inr outer
  · have joined := inner.join outer
    rw [trimEnd_of_getLast? joined.closed]
    exact .inr joined

/-- A plain path below a directory that is itself in a directory is put together in either order. -/
theorem join_join (outer : directory = "" ∨ Plain directory) (inner : middle = "" ∨ Plain middle)
    (plain : Plain lower) :
    join (trimEnd (join directory middle)) lower = join directory (join middle lower) := by
  rcases inner with rfl | inner
  · have closed : directory.toList.getLast? ≠ some '/' := by
      rcases outer with rfl | outer
      · simp
      · exact outer.closed
    rw [trimEnd_join_empty closed, plain.join_empty]
  · have joined := inner.join outer
    rw [trimEnd_of_getLast? joined.closed]
    rcases outer with rfl | outer
    · rw [inner.join_empty, (plain.join (.inr inner)).join_empty]
    · apply String.toList_inj.mp
      rw [plain.join_toList joined, inner.join_toList outer,
        (plain.join (.inr inner)).join_toList outer, plain.join_toList inner, List.append_assoc,
        List.cons_append]

/-- What lies below a directory is a plain path with the directory in front. Below the empty one
lies everything. -/
theorem exists_join_iff (outer : directory = "" ∨ Plain directory) :
    (∃ lower, Plain lower ∧ join directory lower = path) ↔
      Plain path ∧ (directory = "" ∨ MemoryFiles.isBelow directory path = true) := by
  constructor
  · rintro ⟨lower, plain, rfl⟩
    refine ⟨plain.join outer, outer.imp_right fun outer => ?_⟩
    exact MemoryFiles.isBelow_iff.mpr ⟨lower.toList, plain.join_toList outer⟩
  · rintro ⟨plain, below⟩
    rcases outer with rfl | outer
    · exact ⟨path, plain, plain.join_empty⟩
    · obtain ⟨rest, spelled⟩ := MemoryFiles.isBelow_iff.mp (below.resolve_left outer.ne_empty)
      rw [← path.ofList_toList, spelled, plain_append_iff] at plain
      refine ⟨String.ofList rest, plain.2, ?_⟩
      apply String.toList_inj.mp
      rw [plain.2.join_toList outer, spelled, String.toList_ofList]

end Path

namespace Logical

open DialectLoader.Path (Plain)

variable {store : MemoryFiles} {searchPaths : SearchPaths}
    {directory lower logical path rest id : String}

/-- Cutting a directory off undoes putting it in front, if what is left is plain. -/
theorem below?_eq_some_iff_join (outer : directory = "" ∨ Plain directory) (inner : Plain rest) :
    below? directory path = some rest ↔ path = Path.join directory rest := by
  rw [Pipeline.below?_eq_some_iff]
  rcases outer with rfl | outer
  · simp [inner.join_empty]
  · simp only [outer.ne_empty, false_and, false_or, ne_eq, not_false_eq_true, true_and]
    rw [← inner.join_toList outer, String.toList_inj]

theorem plain_of_below? (plain : Plain path) (cut : below? directory path = some rest) :
    Plain rest := by
  rcases Pipeline.below?_eq_some_iff.mp cut with ⟨_, rfl⟩ | ⟨_, spelled⟩
  · exact plain
  · rw [← path.ofList_toList, spelled, Path.plain_append_iff, rest.ofList_toList] at plain
    exact plain.2

/-- A walk in one directory of the search path finds the logical paths below the logical directory
that have a file there. -/
theorem mem_walkOne_iff_file (housed : store.Housed) (plain : ∀ path ∈ store.files, Plain path)
    (outer : directory = "" ∨ Plain directory) (inner : lower = "" ∨ Plain lower) :
    logical ∈ walkOne store lower directory ↔
      (Plain logical ∧ (lower = "" ∨ MemoryFiles.isBelow lower logical = true)) ∧
        Path.join directory logical ∈ store.files := by
  have base := Path.trimEnd_join_of_plain outer inner
  rw [Pipeline.mem_walkOne_iff, ← Path.exists_join_iff inner]
  constructor
  · rintro ⟨_, path, found, rest, cut, rfl⟩
    have tail := plain_of_below? (plain path found) cut
    obtain rfl := (below?_eq_some_iff_join base tail).mp cut
    rw [Path.join_join outer inner tail] at found
    exact ⟨⟨rest, tail, rfl⟩, found⟩
  · rintro ⟨⟨rest, tail, rfl⟩, found⟩
    rw [← Path.join_join outer inner tail] at found
    have cut := (below?_eq_some_iff_join base tail).mpr rfl
    refine ⟨base.imp_right fun base => ?_, _, found, rest, cut, rfl⟩
    have below := MemoryFiles.isBelow_iff.mpr ⟨rest.toList, tail.join_toList base⟩
    exact housed _ _ base.ne_empty below (.inl found)

/-- A logical path resolves to a file exactly if a directory of the search path has one there. The
order of the directories decides which. -/
theorem exists_resolve?_iff :
    (∃ path ∈ store.files, resolve? store searchPaths logical id = some path) ↔
      ∃ directory ∈ searchPaths.directories id, Path.join directory logical ∈ store.files := by
  constructor
  · rintro ⟨path, found, resolved⟩
    obtain ⟨directory, listed, rfl⟩ := List.mem_map.mp (List.mem_of_find?_eq_some resolved)
    exact ⟨directory, listed, found⟩
  · rintro ⟨directory, listed, found⟩
    have known : (resolve? store searchPaths logical id).isSome = true :=
      List.find?_isSome.mpr
        ⟨_, List.mem_map.mpr ⟨directory, listed, rfl⟩, Std.ExtTreeMap.contains_iff_mem.mpr found⟩
    obtain ⟨path, resolved⟩ := Option.isSome_iff_exists.mp known
    exact ⟨path, Std.ExtTreeMap.contains_iff_mem.mp (List.find?_some resolved), resolved⟩

/-- A walk lists the logical paths below a logical directory that resolve to a file. -/
theorem mem_walk_iff (housed : store.Housed) (plain : ∀ path ∈ store.files, Plain path)
    (outer : ∀ directory ∈ searchPaths.directories id, directory = "" ∨ Plain directory)
    (inner : lower = "" ∨ Plain lower) :
    logical ∈ walk store searchPaths lower id ↔
      (Plain logical ∧ (lower = "" ∨ MemoryFiles.isBelow lower logical = true)) ∧
        ∃ path ∈ store.files, resolve? store searchPaths logical id = some path := by
  have trimmed : Path.trimEnd lower = lower := by
    rcases inner with rfl | inner
    · rfl
    · exact Path.trimEnd_of_getLast? inner.closed
  rw [exists_resolve?_iff, walk, trimmed, Std.ExtTreeSet.mem_toList, Std.ExtTreeSet.mem_ofList,
    List.contains_iff_mem, List.mem_flatMap]
  constructor
  · rintro ⟨directory, listed, found⟩
    obtain ⟨shape, there⟩ :=
      (mem_walkOne_iff_file housed plain (outer directory listed) inner).mp found
    exact ⟨shape, directory, listed, there⟩
  · rintro ⟨shape, directory, listed, there⟩
    exact ⟨directory, listed, (mem_walkOne_iff_file housed plain (outer directory listed) inner).mpr
      ⟨shape, there⟩⟩

/-- A walk lists every path once, in the order of paths, although several directories may have
it. -/
theorem pairwise_walk (store : MemoryFiles) (searchPaths : SearchPaths) (lower id : String) :
    (walk store searchPaths lower id).Pairwise (· < ·) := by
  refine Std.ExtTreeSet.ordered_toList.imp ?_
  intro first second before
  exact compareOfLessAndEq_eq_lt.mp before

end Logical

namespace Realm

open DialectLoader.Path (Plain)

/-- A change that gives files plain paths only. What it touches, makes or removes may have any
path. -/
def Change.NamesPlainly : Change → Prop
  | addFile path _ | write path _ => Plain path
  | touch _ | createDirectories _ | removeTree _ | setReadOnly _ => True

instance : DecidablePred Change.NamesPlainly
  | .addFile path _ | .write path _ => inferInstanceAs (Decidable (Plain path))
  | .touch _ | .createDirectories _ | .removeTree _ | .setReadOnly _ =>
    inferInstanceAs (Decidable True)

theorem Change.plain {store : MemoryFiles} (plain : ∀ path ∈ store.files, Plain path)
    {change : Change} (named : change.NamesPlainly) :
    ∀ path ∈ (change.apply store).files, Plain path := by
  intro path found
  cases change with
  | addFile added contents =>
    rcases Std.ExtTreeMap.mem_insert.mp found with here | old
    · exact Std.LawfulEqCmp.eq_of_compare here ▸ named
    · exact plain path old
  | touch touched => exact plain path (Std.ExtTreeMap.mem_modify.mp found)
  | write added contents =>
    rcases store.write_cases added contents with written | unwritten
    · rw [Change.apply, written.files] at found
      rcases Std.ExtTreeMap.mem_insert.mp found with here | old
      · exact Std.LawfulEqCmp.eq_of_compare here ▸ named
      · exact plain path old
    · rw [Change.apply, unwritten.files] at found
      exact plain path found
  | createDirectories directory =>
    rw [Change.apply, (store.createDirectories_unwritten directory).files] at found
    exact plain path found
  | removeTree directory =>
    rw [Change.apply, Std.ExtTreeMap.mem_iff_isSome_getElem?, MemoryFiles.removeTree_files] at found
    split at found
    · cases found
    · exact plain path (Std.ExtTreeMap.mem_iff_isSome_getElem?.mpr found)
  | setReadOnly value => exact plain path found

theorem plain_changes {changes : List Change} (named : ∀ change ∈ changes, change.NamesPlainly) :
    ∀ path ∈ (changes.foldl Change.apply {}).files, Plain path := by
  induction changes using List.reverseRecOn with
  | nil => exact fun path found => absurd found Std.ExtTreeMap.not_mem_empty
  | append_singleton before change ih =>
    rw [List.foldl_append]
    apply Change.plain
    · exact ih fun earlier member => named earlier (by simp [member])
    · exact named change (by simp)

/-- On files that come about by changes, with plain paths, walking a logical directory gives in
strictly increasing order exactly the plain logical paths below it that resolve to a file.
Directories of the search path may be plain or empty and lie in each other in any way. -/
theorem walk_exactly_resolvable (changes : List Change)
    (named : ∀ change ∈ changes, change.NamesPlainly) (searchPaths : SearchPaths) (id : String)
    (outer : ∀ directory ∈ searchPaths.directories id, directory = "" ∨ Plain directory)
    (directory : String) (inner : directory = "" ∨ Plain directory) :
    let store := changes.foldl Change.apply {}
    (Logical.walk store searchPaths directory id).Pairwise (· < ·) ∧
    ∀ logical, logical ∈ Logical.walk store searchPaths directory id ↔
      Plain logical ∧ (directory = "" ∨ directory.toList ++ ['/'] <+: logical.toList) ∧
        ∃ path ∈ store.files, Logical.resolve? store searchPaths logical id = some path := by
  intro store
  refine ⟨Logical.pairwise_walk store searchPaths directory id, fun logical => ?_⟩
  rw [Logical.mem_walk_iff (housed_changes changes) (plain_changes named) outer inner, and_assoc,
    MemoryFiles.isBelow, List.isPrefixOf_iff_prefix]

/-- Files in directories of which one lies in another, one that is made before a file is written
into it, and one that is removed again. -/
def nestedChanges : List Change :=
  [.addFile "A/b/c" [], .addFile "b/d" [], .createDirectories "A/b/./e", .write "A/b/./e/f" [],
    .addFile "b/g/h" [], .removeTree "b/g"]

def nestedPaths : SearchPaths :=
  .ofList [("lsv", ["A/b", "A", ""])]

/-- A directory is put together from two directories of the search path, and a file that was removed
is in no list. -/
theorem walk_exactly_resolvable_nested :
    let store := nestedChanges.foldl Change.apply {}
    (∀ change ∈ nestedChanges, change.NamesPlainly) ∧
    (∀ directory ∈ nestedPaths.directories "lsv", directory = "" ∨ Plain directory) ∧ Plain "b" ∧
    Logical.walk store nestedPaths "b" "lsv" = ["b/./e/f", "b/c", "b/d"] ∧
    ∃ path ∈ store.files, Logical.resolve? store nestedPaths "b/./e/f" "lsv" = some path := by
  intro store
  have named : ∀ change ∈ nestedChanges, change.NamesPlainly := by decide
  have outer : ∀ directory ∈ nestedPaths.directories "lsv", directory = "" ∨
      Plain directory := by decide
  have inner : Plain "b" := by decide
  have walked : Logical.walk store nestedPaths "b" "lsv" = ["b/./e/f", "b/c", "b/d"] := by
    decide +kernel
  obtain ⟨_, listed⟩ :=
    walk_exactly_resolvable nestedChanges named nestedPaths "lsv" outer "b" (.inr inner)
  obtain ⟨_, _, resolved⟩ := (listed "b/./e/f").mp (walked ▸ List.mem_cons_self)
  exact ⟨named, outer, inner, walked, resolved⟩

end Realm

end DialectLoader
