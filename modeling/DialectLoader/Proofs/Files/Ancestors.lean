import DialectLoader.Files.Memory
import DialectLoader.Proofs.Path.Spelling

/-!
# The directories on the way to a file

Climbing from a path to its directory, and on from there, leads past everything that stands before
one of its separators, and past nothing else. So the directories on the way to a path can be read
off its spelling, and what is on the way to a directory on the way is itself on the way.

Code is written below a root in two steps: the directory of the lower path is made, and the file is
written. Whatever the lower path looks like, the directories that are made are on the way to the
file. That the file can then be written is not said here: a lower path with an empty name in it asks
for a directory that is spelled with a slash at its end.
-/

namespace DialectLoader.Path

/-- What stands before a separator of a path, unless that is nothing. Two dots are a name and lead
nowhere else. -/
def IsAncestor (directory path : String) : Prop :=
  directory ≠ "" ∧ ∃ separator rest, isSeparator separator = true ∧
    path.toList = directory.toList ++ separator :: rest

/-- What is on the way to a directory on the way to a path is on the way to that path. -/
theorem IsAncestor.trans {directory middle path : String} (upper : IsAncestor directory middle)
    (lower : IsAncestor middle path) : IsAncestor directory path := by
  obtain ⟨visible, separator, rest, separates, spelled⟩ := upper
  obtain ⟨_, other, behind, _, whole⟩ := lower
  refine ⟨visible, separator, rest ++ other :: behind, separates, ?_⟩
  rw [whole, spelled]
  simp

/-- A path is a name without separators, or its parent, a separator and a name without separators.
Climbing takes the second case until the first is reached. -/
theorem parent_cases (path : String) :
    ((∀ c ∈ path.toList, isSeparator c = false) ∧ parent path = "") ∨
      ∃ separator name, isSeparator separator = true ∧ (∀ c ∈ name, isSeparator c = false) ∧
        path.toList = (parent path).toList ++ separator :: name := by
  have whole := cutName_parts path.toList
  have clear := cutName_clear path.toList
  rw [parent]
  rcases cutName_front path.toList with empty | ⟨front, separator, cut, separates⟩
  · left
    rw [empty, List.nil_append] at whole
    rw [empty]
    exact ⟨whole ▸ clear, rfl⟩
  · right
    refine ⟨separator, (cutName path.toList).2, separates, clear, ?_⟩
    conv => lhs; rw [← whole]
    rw [cut, String.toList_ofList, List.dropLast_concat]
    simp

/-- On the way to a path are its parent and what is on the way there. This is the step of the
induction along a climb. -/
theorem isAncestor_iff_parent {directory path : String} :
    IsAncestor directory path ↔
      parent path ≠ "" ∧ (directory = parent path ∨ IsAncestor directory (parent path)) := by
  rcases parent_cases path with ⟨clear, top⟩ | ⟨last, name, lastSeparates, nameClear, whole⟩
  · have nowhere : ¬ IsAncestor directory path := by
      rintro ⟨_, separator, rest, separates, spelled⟩
      have wrong := clear separator (by simp [spelled])
      rw [wrong] at separates
      cases separates
    simp [nowhere, top]
  · constructor
    · rintro ⟨visible, separator, rest, separates, spelled⟩
      rw [whole] at spelled
      -- The separator is the last one, or stands before it: there is none in the name.
      rcases List.append_eq_append_iff.mp spelled
        with ⟨more, longer, behind⟩ | ⟨more, longer, behind⟩
      · cases more with
        | nil =>
          rw [List.append_nil] at longer
          have same := String.toList_inj.mp longer
          exact ⟨same ▸ visible, .inl same⟩
        | cons first more =>
          have inside : separator ∈ name := by simp [(List.cons.inj behind).2]
          rw [nameClear separator inside] at separates
          cases separates
      · cases more with
        | nil =>
          rw [List.append_nil] at longer
          have same := String.toList_inj.mp longer
          exact ⟨same ▸ visible, .inl same.symm⟩
        | cons first more =>
          obtain ⟨rfl, _⟩ := List.cons.inj behind
          refine ⟨?_, .inr ⟨visible, separator, more, separates, longer⟩⟩
          intro empty
          rw [empty] at longer
          simp at longer
    · have here (nonempty : parent path ≠ "") : IsAncestor (parent path) path :=
        ⟨nonempty, last, name, lastSeparates, whole⟩
      rintro ⟨nonempty, rfl | above⟩
      · exact here nonempty
      · exact above.trans (here nonempty)

/-- The parent of a path is shorter, unless both are empty, so a climb comes to an end. -/
theorem parent_length_lt {path : String} (nonempty : parent path ≠ "") :
    (parent path).toList.length < path.toList.length := by
  rcases parent_cases path with ⟨_, top⟩ | ⟨_, _, _, _, whole⟩
  · exact absurd top nonempty
  · rw [whole, List.length_append, List.length_cons]
    omega

theorem trimEnd_append (path : String) :
    ∃ slashes : List Char, path.toList = (trimEnd path).toList ++ slashes ∧ ∀ c ∈ slashes,
    c = '/' := by
  refine ⟨(path.toList.reverse.takeWhile (· == '/')).reverse, ?_, ?_⟩
  · rw [trimEnd, String.toList_ofList, dropTrailingSlashes, ← List.reverse_append,
      List.takeWhile_append_dropWhile, List.reverse_reverse]
  · intro c member
    have slash := List.mem_takeWhile_imp (List.mem_reverse.mp member)
    simpa using slash

/-- A path that stands before a separator is an ancestor without the slashes at its end too, if
anything is left. Each of these slashes is a separator itself. -/
theorem isAncestor_trimEnd {directory path : String} {separator : Char} {rest : List Char}
    (separates : isSeparator separator = true)
    (spelled : path.toList = directory.toList ++ separator :: rest)
    (visible : trimEnd directory ≠ "") : IsAncestor (trimEnd directory) path := by
  obtain ⟨slashes, cut, only⟩ := trimEnd_append directory
  rw [cut, List.append_assoc] at spelled
  cases slashes with
  | nil => exact ⟨visible, separator, rest, separates, spelled⟩
  | cons slash slashes =>
    have first : isSeparator slash = true := by
      rw [only slash List.mem_cons_self]
      decide
    exact ⟨visible, slash, slashes ++ separator :: rest, first, spelled⟩

/-- The directory of a lower path is on the way to that path, both below a root and without slashes
at the end. So making it makes nothing beside the way. -/
theorem isAncestor_join_parent {root lower : String} (closed : root.toList.getLast? ≠ some '/')
    (visible : trimEnd (join root (parent lower)) ≠ "") :
    IsAncestor (trimEnd (join root (parent lower))) (join root lower) := by
  by_cases hidden : dropLeadingSlashes (parent lower).toList = []
  · -- Nothing is left of the lower directory, so the root itself is meant.
    have named : root ≠ "" := by
      rintro rfl
      apply visible
      rw [join, if_pos (by rfl), hidden]
      rfl
    have directory : trimEnd (join root (parent lower)) = trimEnd root := by
      rw [← (join root (parent lower)).ofList_toList, join_toList_of_visible named closed, hidden,
        trimEnd_concat]
    rw [directory] at visible ⊢
    exact isAncestor_trimEnd (by decide) (join_toList_of_visible named closed lower) visible
  · rcases parent_cases lower with ⟨_, top⟩ | ⟨separator, name, separates, _, whole⟩
    · rw [top] at hidden
      exact absurd rfl hidden
    · have rest : dropLeadingSlashes lower.toList =
          dropLeadingSlashes (parent lower).toList ++ separator :: name := by
        conv => lhs; rw [whole]
        rw [dropLeadingSlashes, List.dropWhile_append, ← dropLeadingSlashes,
          if_neg (mt List.isEmpty_iff.mp hidden)]
      have spelled : (join root lower).toList =
          (join root (parent lower)).toList ++ separator :: name := by
        by_cases named : root = ""
        · simp [named, join, rest]
        · rw [join_toList_of_visible named closed, join_toList_of_visible named closed, rest]
          simp
      exact isAncestor_trimEnd separates spelled visible

end DialectLoader.Path

namespace DialectLoader.MemoryFiles

/-- Climbing finds all that is on the way, if as many steps are allowed as the path is long. Each
step shortens the path, so the steps suffice. -/
theorem mem_climb_iff {steps : Nat} {directory path : String}
    (enough : path.toList.length ≤ steps) :
    directory ∈ ancestors.climb steps path ↔ Path.IsAncestor directory path := by
  induction steps generalizing path with
  | zero =>
    have empty : path.toList = [] := List.length_eq_zero_iff.mp (Nat.le_zero.mp enough)
    simp [ancestors.climb, Path.IsAncestor, empty]
  | succ steps ih =>
    rw [Path.isAncestor_iff_parent, ancestors.climb]
    by_cases top : Path.parent path = ""
    · simp [top]
    · have shorter := Path.parent_length_lt top
      have above := ih (show (Path.parent path).toList.length ≤ steps by omega)
      simp [top, above]

/-- The directories on the way to a path are what stands before its separators. The number of steps
is not mentioned from here on. -/
theorem mem_ancestors_iff {directory path : String} :
    directory ∈ ancestors path ↔ Path.IsAncestor directory path :=
  mem_climb_iff (Nat.le_of_eq path.length_toList)

theorem mem_withAncestors_iff {store : MemoryFiles} {path directory : String} :
    directory ∈ store.withAncestors path ↔ directory ∈ store.directories ∨
    Path.IsAncestor directory path := by
  rw [withAncestors, Std.ExtTreeSet.mem_insertMany_list, List.contains_iff_mem, mem_ancestors_iff]

/-- Making a directory makes it and those on the way to it, and no other. On a store that is
read-only it fails and makes none. -/
theorem mem_createDirectories_iff {store : MemoryFiles} (writable : store.readOnly = false)
    {path directory : String} :
    directory ∈ (store.createDirectories path).2.directories ↔
      directory ∈ store.directories ∨ Path.IsAncestor directory (Path.trimEnd path) ∨
        directory = Path.trimEnd path ∧ directory ≠ "" := by
  rw [createDirectories, if_neg (by simp [writable])]
  dsimp only
  by_cases empty : Path.trimEnd path = ""
  · rw [empty, if_pos (by rfl), mem_withAncestors_iff]
    have nothing : ¬ (directory = "" ∧ directory ≠ "") := fun both => both.2 both.1
    simp only [nothing, or_false]
  · rw [if_neg (by simpa using empty), Std.ExtTreeSet.mem_insert, mem_withAncestors_iff,
      Std.LawfulEqCmp.compare_eq_iff_eq]
    constructor
    · rintro (rfl | old | above)
      · exact .inr (.inr ⟨rfl, empty⟩)
      · exact .inl old
      · exact .inr (.inl above)
    · rintro (old | above | ⟨rfl, _⟩)
      · exact .inr (.inl old)
      · exact .inr (.inr above)
      · exact .inl rfl

end DialectLoader.MemoryFiles
