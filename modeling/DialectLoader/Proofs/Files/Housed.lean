import DialectLoader.Proofs.Files.Ancestors
import DialectLoader.Proofs.Files.Writing

/-!
# Files and their directories

What stands before a slash in the path of a file is a directory, as long as files come and go
through the operations of the store. So a directory tree can be removed if its directory is there,
and otherwise nothing is below it. With backslashes this is not so: removing a tree takes away a
directory, and leaves what stands behind it and a backslash.
-/

namespace DialectLoader.MemoryFiles

open DialectLoader.Path (IsAncestor)

variable {store changed : MemoryFiles} {directory middle path : String}

/-- A path is below a directory when it is spelled with the directory and a slash in front. A
backslash in that place does not put it below. -/
theorem isBelow_iff :
    isBelow directory path = true ↔ ∃ rest, path.toList = directory.toList ++ '/' :: rest := by
  rw [isBelow, List.isPrefixOf_iff_prefix]
  constructor
  · rintro ⟨rest, spelled⟩
    exact ⟨rest, by rw [← spelled]; simp⟩
  · rintro ⟨rest, spelled⟩
    exact ⟨rest, by rw [spelled]; simp⟩

theorem isBelow_trans (upper : isBelow directory middle = true)
    (lower : isBelow middle path = true) :
    isBelow directory path = true := by
  obtain ⟨between, spelled⟩ := isBelow_iff.mp upper
  obtain ⟨rest, whole⟩ := isBelow_iff.mp lower
  exact isBelow_iff.mpr ⟨between ++ '/' :: rest, by rw [whole, spelled]; simp⟩

/-- A directory is on the way to all that is below it; the converse fails for backslashes. -/
theorem isAncestor_of_isBelow (visible : directory ≠ "") (below : isBelow directory path = true) :
    IsAncestor directory path := by
  obtain ⟨rest, spelled⟩ := isBelow_iff.mp below
  exact ⟨visible, '/', rest, by decide, spelled⟩

/-- A path below a directory is directly in it, or its parent is below the directory as well. -/
theorem isBelow_parent (visible : directory ≠ "") (below : isBelow directory path = true) :
    Path.parent path ≠ "" ∧
    (directory = Path.parent path ∨ isBelow directory (Path.parent path) = true) := by
  obtain ⟨nonempty, here | ⟨_, separator, rest, _, spelled⟩⟩ :=
    Path.isAncestor_iff_parent.mp (isAncestor_of_isBelow visible below)
  · exact ⟨nonempty, .inl here⟩
  · -- The separator behind the directory is the same in the path and in its parent.
    obtain ⟨behind, whole⟩ := isBelow_iff.mp below
    rcases Path.parent_cases path with ⟨_, top⟩ | ⟨last, name, _, _, cut⟩
    · exact absurd top nonempty
    · rw [cut, spelled, List.append_assoc] at whole
      have same : separator = '/' := (List.cons.inj (List.append_cancel_left whole)).1
      exact ⟨nonempty, .inr (isBelow_iff.mpr ⟨rest, by rw [spelled, same]⟩)⟩

/-- A path at which the store has a file or a directory. -/
def Holds (store : MemoryFiles) (path : String) : Prop :=
  path ∈ store.files ∨ path ∈ store.directories

/-- A store in which the directories are there that stand before the slashes of its paths. Stores
that are filled by their operations are of this kind. -/
def Housed (store : MemoryFiles) : Prop :=
  ∀ directory path, directory ≠ "" → isBelow directory path = true → store.Holds path →
    directory ∈ store.directories

theorem housed_empty : Housed {} := by
  rintro directory path _ _ (found | found)
  · exact absurd found Std.ExtTreeMap.not_mem_empty
  · exact absurd found Std.ExtTreeSet.not_mem_empty

namespace Housed

variable (housed : Housed store)

include housed

/-- A path comes with everything that is on the way to it, so adding one with its directories leaves
nothing without a house. -/
theorem grow (place : String)
    (known : ∀ path, changed.Holds path → store.Holds path ∨ path = place ∨ IsAncestor path place)
    (made : ∀ directory, directory ∈ store.directories ∨ IsAncestor directory place →
      directory ∈ changed.directories) : Housed changed := by
  intro directory path visible below there
  apply made
  rcases known path there with old | rfl | above
  · exact .inl (housed directory path visible below old)
  · exact .inr (isAncestor_of_isBelow visible below)
  · exact .inr ((isAncestor_of_isBelow visible below).trans above)

/-- Where no path is new and no directory is gone nothing is missing, whatever happened to the
files. -/
theorem of_same (files : ∀ path, path ∈ changed.files → path ∈ store.files)
    (directories : changed.directories = store.directories) : Housed changed := by
  intro directory path visible below there
  rw [directories]
  refine housed directory path visible below ?_
  rcases there with file | known
  · exact .inl (files path file)
  · exact .inr (directories ▸ known)

theorem addFile (place : String) (contents : Bytes) : Housed (store.addFile place contents) := by
  refine housed.grow place ?_ fun directory known => mem_withAncestors_iff.mpr known
  rintro path (file | known)
  · rcases Std.ExtTreeMap.mem_insert.mp file with here | old
    · exact .inr (.inl (Std.LawfulEqCmp.eq_of_compare here).symm)
    · exact .inl (.inl old)
  · rcases mem_withAncestors_iff.mp known with old | above
    · exact .inl (.inr old)
    · exact .inr (.inr above)

theorem touch (place : String) : Housed (store.touch place) :=
  housed.of_same (fun _ file => Std.ExtTreeMap.mem_modify.mp file) rfl

/-- A file is written into a directory that is there, and below the same directories as that one. -/
theorem write (place : String) (contents : Bytes) : Housed (store.write place contents).2 := by
  unfold MemoryFiles.write
  split
  · exact housed
  · split <;> rename_i inside
    · exact housed
    · intro directory path visible below there
      by_cases new : path = place
      · subst new
        obtain ⟨nonempty, here⟩ := isBelow_parent visible below
        have known : Path.parent path ∈ store.directories := by simpa [nonempty] using inside
        rcases here with rfl | lower
        · exact known
        · exact housed directory (Path.parent path) visible lower (.inr known)
      · refine housed directory path visible below ?_
        rcases there with file | known
        · exact .inl ((Std.ExtTreeMap.mem_insert.mp file).resolve_left fun here =>
            new (Std.LawfulEqCmp.eq_of_compare here).symm)
        · exact .inr known

theorem createDirectories (place : String) : Housed (store.createDirectories place).2 := by
  cases writable : store.readOnly with
  | true =>
    rw [MemoryFiles.createDirectories, if_pos writable]
    exact housed
  | false =>
    refine housed.grow (Path.trimEnd place) ?_ ?_
    · rintro path (file | known)
      · rw [(store.createDirectories_unwritten place).files] at file
        exact .inl (.inl file)
      · rcases (mem_createDirectories_iff writable).mp known with old | above | ⟨here, _⟩
        · exact .inl (.inr old)
        · exact .inr (.inr above)
        · exact .inr (.inl here)
    · rintro directory (old | above)
      · exact (mem_createDirectories_iff writable).mpr (.inl old)
      · exact (mem_createDirectories_iff writable).mpr (.inr (.inl above))

/-- What is left is not below the removed directory, so its directories are not either and were not
removed. -/
theorem removeTree (place : String) : Housed (store.removeTree place).2 := by
  intro directory path visible below there
  have kept : store.Holds path ∧ isBelow (Path.trimEnd place) path = false := by
    rcases there with file | known
    · rw [Std.ExtTreeMap.mem_iff_isSome_getElem?, removeTree_files] at file
      split at file <;> rename_i lower
      · cases file
      · exact ⟨.inl (Std.ExtTreeMap.mem_iff_isSome_getElem?.mpr file), by simpa using lower⟩
    · obtain ⟨old, apart, _⟩ := (mem_removeTree_directories store place path).mp known
      exact ⟨.inr old, apart⟩
  refine (mem_removeTree_directories store place directory).mpr
    ⟨housed directory path visible below kept.1, ?_, ?_⟩
  · cases upper : isBelow (Path.trimEnd place) directory with
    | false => rfl
    | true =>
      have inside := isBelow_trans upper below
      rw [kept.2] at inside
      cases inside
  · rintro rfl
    rw [kept.2] at below
    cases below

/-- There are no files below a directory that is not there. So failing to remove it has the effect
of removing it. -/
theorem getElem?_of_missing (visible : directory ≠ "") (missing : directory ∉ store.directories)
    (below : isBelow directory path = true) : store.files[path]? = none := by
  by_contra present
  have found : path ∈ store.files := by
    rw [Std.ExtTreeMap.mem_iff_isSome_getElem?]
    exact Option.isSome_iff_ne_none.mpr present
  exact missing (housed directory path visible below (.inl found))

end Housed

end DialectLoader.MemoryFiles
