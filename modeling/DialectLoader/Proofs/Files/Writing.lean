import DialectLoader.Proofs.Files.Memory

/-!
# Writing and removing files in memory

Generated code and manifests are written in the same way: the directory is made, then the file is
written into it. On a store that can be written to this succeeds when the directory is the one the
file is in, and it changes that one file. Otherwise no file changes at all.

Removing a directory tree concerns a path only if it lies below that directory.

A file is written whole or not at all. A write that breaks off half way, or a disk that is full, is
not among the failures of this store.
-/

namespace DialectLoader.MemoryFiles

open DialectLoader.Path (Normal)

variable {store changed : MemoryFiles} {directory path : String} {contents : Bytes}

/-- A store in which a file was written with the next time, and perhaps directories were made; no
other file changed. -/
structure Written (store changed : MemoryFiles) (path : String) (contents : Bytes) : Prop where
  writable : store.readOnly = false
  readOnly : changed.readOnly = store.readOnly
  files : changed.files = store.files.insert path ⟨contents, store.nextTime⟩
  clock : changed.clock = store.clock + 1
  directories : ∀ known ∈ store.directories, known ∈ changed.directories

/-- A store in which at most directories were made: what a failed write leaves behind. -/
structure Unwritten (store changed : MemoryFiles) : Prop where
  readOnly : changed.readOnly = store.readOnly
  files : changed.files = store.files
  clock : changed.clock = store.clock
  directories : ∀ known ∈ store.directories, known ∈ changed.directories

theorem Unwritten.refl (store : MemoryFiles) : Unwritten store store :=
  ⟨rfl, rfl, rfl, fun _ known => known⟩

theorem Unwritten.trans {later : MemoryFiles} (first : Unwritten store changed)
    (second : Unwritten changed later) :
    Unwritten store later :=
  ⟨second.readOnly.trans first.readOnly, second.files.trans first.files,
    second.clock.trans first.clock,
    fun known member => second.directories known (first.directories known member)⟩

theorem Written.here (written : Written store changed path contents) :
    changed.files[path]? = some ⟨contents, store.nextTime⟩ := by
  rw [written.files, Std.ExtTreeMap.getElem?_insert_self]

theorem Written.elsewhere (written : Written store changed path contents) {other : String}
    (apart : other ≠ path) : changed.files[other]? = store.files[other]? := by
  rw [written.files, Std.ExtTreeMap.getElem?_insert]
  simp [Ne.symm apart]

/-- Writing changes the store at one path, so all that holds of a changed file holds of a written
one. -/
theorem Written.ticked (written : Written store changed path contents) :
    Ticked store changed path := by
  constructor
  · exact fun other apart => written.elsewhere apart
  · intro file found
    rw [written.here] at found
    rw [← Option.some.inj found]
  · simp [written.here]
  · exact written.clock

/-- Nothing looks different through a logical path if no file was written, since directories are not
looked at. -/
theorem Unwritten.behind? (unwritten : Unwritten store changed) (searchPaths : SearchPaths)
    (logical id : String) :
    changed.behind? searchPaths logical id = store.behind? searchPaths logical id :=
  behind?_congr fun other _ => by rw [unwritten.files]

theorem Unwritten.forward (unwritten : Unwritten store changed) : Forward store changed :=
  .of_files unwritten.files unwritten.clock

/-- A store in which at most one file was written, and that no script. This is all that the program
itself ever does to the files. -/
def SparesScripts (store changed : MemoryFiles) : Prop :=
  Unwritten store changed ∨ ∃ path contents, Written store changed path contents ∧
    Dialect.ofPath? path = none

/-- Writing no script leads to a later state, in which every script is as it was. -/
theorem SparesScripts.forward (spares : SparesScripts store changed) : Forward store changed := by
  rcases spares with unwritten | ⟨path, contents, written, _⟩
  · exact unwritten.forward
  · exact written.ticked.forward

/-- Writing no script changes no file behind one, so a script compiles to the same code
afterwards. -/
theorem SparesScripts.behind? (spares : SparesScripts store changed) (searchPaths : SearchPaths)
    {logical : String} (script : (Dialect.ofPath? logical).isSome = true) (id : String) :
    changed.behind? searchPaths logical id = store.behind? searchPaths logical id := by
  rcases spares with unwritten | ⟨path, contents, written, noScript⟩
  · exact unwritten.behind? _ _ _
  · exact written.ticked.behind?_script noScript _ (Option.isSome_iff_ne_none.mp script) _

/-- Makes a directory and writes a file. Both code and manifests get to the store in this way. -/
def put (store : MemoryFiles) (directory path : String) (contents : Bytes) :
    Except FileError Unit × MemoryFiles :=
  match store.createDirectories directory with
  | (.error cause, changed) => (.error cause, changed)
  | (.ok (), changed) => changed.write path contents

/-- Making a directory on a store that can be written to adds it, unless nothing is left of it when
trimmed. -/
theorem createDirectories_of_writable (directory : String) (writable : store.readOnly = false) :
    ∃ known, store.createDirectories directory = (.ok (), { store with directories := known }) ∧
      (∀ other ∈ store.directories, other ∈ known) ∧
      (Path.trimEnd directory ≠ "" → Path.trimEnd directory ∈ known) := by
  have made : store.createDirectories directory = (.ok (), { store with
      directories :=
        if (Path.trimEnd directory).isEmpty then store.withAncestors (Path.trimEnd directory)
        else (store.withAncestors (Path.trimEnd directory)).insert (Path.trimEnd directory) }) := by
    rw [createDirectories, if_neg (by simp [writable])]
  refine ⟨_, made, ?_, ?_⟩
  · intro other member
    split <;> simp [withAncestors, Std.ExtTreeSet.mem_insertMany_list, member]
  · intro visible
    rw [if_neg (by simpa using visible)]
    simp

theorem createDirectories_unwritten (store : MemoryFiles) (directory : String) :
    Unwritten store (store.createDirectories directory).2 := by
  cases writable : store.readOnly with
  | true =>
    rw [createDirectories, if_pos writable]
    exact .refl store
  | false =>
    obtain ⟨known, made, grown, _⟩ := createDirectories_of_writable directory writable
    rw [made]
    exact ⟨rfl, rfl, rfl, grown⟩

/-- Writing a file either does so or leaves all files as they were. It fails on a read-only store
and where the directory is missing. -/
theorem write_cases (store : MemoryFiles) (path : String) (contents : Bytes) :
    Written store (store.write path contents).2 path contents ∨
    Unwritten store (store.write path contents).2 := by
  unfold write
  split
  · exact .inr (.refl store)
  · rename_i writable
    split
    · exact .inr (.refl store)
    · exact .inl ⟨by simpa using writable, rfl, rfl, rfl, fun _ known => known⟩

/-- Putting a file either writes it or leaves all files as they were, though the directory may have
been made in the second case. -/
theorem put_cases (store : MemoryFiles) (directory path : String) (contents : Bytes) :
    (∃ changed, store.put directory path contents = (.ok (), changed) ∧
      Written store changed path contents ∧
      (Path.trimEnd directory ≠ "" → Path.trimEnd directory ∈ changed.directories)) ∨
    ∃ cause changed, store.put directory path contents = (.error cause, changed) ∧
    Unwritten store changed := by
  cases writable : store.readOnly with
  | true =>
    right
    exact ⟨.refused directory, store, by simp [put, createDirectories, writable], .refl store⟩
  | false =>
    obtain ⟨known, made, grown, added⟩ := createDirectories_of_writable directory writable
    simp only [put, made, write, writable]
    split
    · contradiction
    · split
      · exact .inr ⟨_, _, rfl, by simp [writable], rfl, rfl, grown⟩
      · exact .inl ⟨_, rfl, ⟨writable, by simp [writable], rfl, rfl, grown⟩, added⟩

/-- Putting a file into its own directory succeeds on a store that can be written to, since the
directory was just made. -/
theorem put_of_writable (writable : store.readOnly = false)
    (own : Path.parent path = Path.trimEnd directory) (contents : Bytes) :
    ∃ changed, store.put directory path contents = (.ok (), changed) := by
  obtain ⟨known, made, _, added⟩ := createDirectories_of_writable directory writable
  simp only [put, made, write, writable]
  rw [if_neg (by simp), if_neg]
  · exact ⟨_, rfl⟩
  · simp only [Bool.and_eq_true, Bool.not_eq_true', not_and, own]
    intro visible
    have listed := added (by simpa using visible)
    simpa using listed

/-- What is below a normal directory is spelled with the directory in front, and so removed with
it. -/
theorem isBelow_join (outer : Normal directory) (inner : Normal path) :
    isBelow directory (Path.join directory path) = true := by
  rw [isBelow, Path.join_toList outer inner]
  simp

/-- Two directories none of which is the other or lies below it, as the roots of scripts and of code
ought to be. -/
def Disjoint (root directory : String) : Prop :=
  directory ≠ root ∧ isBelow root directory = false ∧ isBelow directory root = false

instance (root directory : String) : Decidable (Disjoint root directory) :=
  inferInstanceAs (Decidable (_ ∧ _))

/-- No path lies below two disjoint directories: the shorter one would be the start of the
longer. -/
theorem Disjoint.isBelow {root : String} (disjoint : Disjoint root directory)
    (below : isBelow root path = true) : MemoryFiles.isBelow directory path = false := by
  obtain ⟨other, inner, outer⟩ := disjoint
  cases both : MemoryFiles.isBelow directory path with
  | false => rfl
  | true =>
    simp only [MemoryFiles.isBelow, List.isPrefixOf_iff_prefix] at below both
    have spelled {left right : String} (same : left.toList ++ ['/'] = right.toList ++ ['/']) :
        left = right :=
      String.toList_inj.mp (List.append_cancel_right same)
    have ordered {left right : String} (start : left.toList ++ ['/'] <+: right.toList ++ ['/']) :
        left = right ∨ MemoryFiles.isBelow left right = true := by
      rcases List.prefix_concat_iff.mp start with same | lower
      · exact .inl (spelled same)
      · exact .inr (List.isPrefixOf_iff_prefix.mpr lower)
    -- Both directories start the path, so the shorter one starts the longer one.
    rcases List.prefix_or_prefix_of_prefix below both with first | second
    · rcases ordered first with same | lower
      · exact absurd same.symm other
      · rw [inner] at lower
        cases lower
    · rcases ordered second with same | lower
      · exact absurd same other
      · rw [outer] at lower
        cases lower

/-- Removing a tree leaves the files that are not below it, and no file below it, whether or not the
directory was there. -/
theorem removeTree_files (store : MemoryFiles) (directory path : String) :
    (store.removeTree directory).2.files[path]? =
      if isBelow (Path.trimEnd directory) path then none else store.files[path]? := by
  simp only [removeTree, Std.ExtTreeMap.getElem?_filter']
  cases below : isBelow (Path.trimEnd directory) path with
  | true => simp
  | false => cases store.files[path]? <;> rfl

/-- A state of the files after some time: what is there was there before, or was written since. What
was there before may be gone. -/
structure Aged (store changed : MemoryFiles) : Prop where
  clock : store.clock ≤ changed.clock
  files : ∀ (path : String) (file : StoredFile), changed.files[path]? = some file →
    store.files[path]? = some file ∨
      (store.clock < file.modified.seconds ∧ file.modified.seconds ≤ changed.clock)

/-- Some time passes between two states of which the later one has no new file. The clock need not
have moved. -/
theorem Aged.of_subset (clock : changed.clock = store.clock)
    (files : ∀ (path : String) (file : StoredFile), changed.files[path]? = some file →
      store.files[path]? = some file) : Aged store changed where
  clock := Nat.le_of_eq clock.symm
  files path file found := .inl (files path file found)

theorem Aged.dated (aged : Aged store changed) (known : store.Dated) : changed.Dated := by
  intro path file found
  rcases aged.files path file found with before | ⟨_, past⟩
  · exact Nat.le_trans (known path file before) aged.clock
  · exact past

/-- A changed file is newer than the clock was, and the others are from before. -/
theorem Ticked.aged (ticked : Ticked store changed path) : Aged store changed where
  clock := Nat.le_of_lt (ticked.clock ▸ Nat.lt_succ_self store.clock)
  files := by
    intro other file found
    by_cases here : other = path
    · have time := ticked.here file (here ▸ found)
      rw [time, ticked.clock]
      exact .inr ⟨Nat.lt_succ_self store.clock, Nat.le_refl _⟩
    · exact .inl (ticked.elsewhere other here ▸ found)

theorem Unwritten.aged (unwritten : Unwritten store changed) : Aged store changed :=
  .of_subset unwritten.clock fun path file found => by rwa [unwritten.files] at found

theorem SparesScripts.aged (spares : SparesScripts store changed) : Aged store changed := by
  rcases spares with unwritten | ⟨path, contents, written, _⟩
  · exact unwritten.aged
  · exact written.ticked.aged

/-- Removing a tree leaves files from before and adds none, although what is behind a logical path
may change. -/
theorem removeTree_aged (store : MemoryFiles) (directory : String) :
    Aged store (store.removeTree directory).2 := by
  refine .of_subset rfl fun path file found => ?_
  rw [removeTree_files] at found
  split at found
  · cases found
  · exact found

/-- Removing a tree leaves the directories that are neither its root nor below it. -/
theorem mem_removeTree_directories (store : MemoryFiles) (directory known : String) :
    known ∈ (store.removeTree directory).2.directories ↔
      known ∈ store.directories ∧ isBelow (Path.trimEnd directory) known = false ∧
        known ≠ Path.trimEnd directory := by
  simp [removeTree, and_left_comm]

end DialectLoader.MemoryFiles
