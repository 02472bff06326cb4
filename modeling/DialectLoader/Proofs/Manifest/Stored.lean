import DialectLoader.Proofs.Files.Writing
import DialectLoader.Proofs.Manifest.RoundTrip

/-!
# A manifest in its place

A pipeline looks for its manifest at one path below the cache root. What it reads there depends on
the bytes alone. If they are those of a manifest of the current version, then the fingerprint is
read as it was written: it stands before all artifacts, and its length is fixed by its own field. So
such a manifest is accepted only with the fingerprint of the pipeline. If all its numbers fit their
fields, the whole of it is read as it was written.

Stores of every kind are meant, not those in memory alone, except where a manifest is saved. A
manifest that cannot be decoded is refused with a fixed text; the decoder's own account of the
reason is not kept.
-/

namespace DialectLoader

/-- What is read from the bytes of a manifest has its fingerprint, whether or not the artifacts can
be read back. -/
theorem Manifest.fingerprint_of_decode? {manifest found : Manifest}
    (version : manifest.version < Text.wordBound) (fits : FitsText manifest.fingerprint)
    (read : decode? manifest.encode = some found) :
    found.fingerprint = manifest.fingerprint := by
  obtain ⟨⟨taken, rest⟩, got, rfl⟩ := Option.map_eq_some_iff.mp read
  simp only [get, encode, List.append_assoc, getNat_word version, getText_putText fits,
    Option.bind_eq_bind, Option.bind_some] at got
  obtain ⟨⟨artifacts, left⟩, _, same⟩ := Option.bind_eq_some_iff.mp got
  cases same
  rfl

namespace Pipeline

/-- The bytes of a manifest are in their place in a store: there is a file, and it can be read.
Nothing is said of the rest of the store. -/
structure Holds {σ : Type} [FileStore σ] (pipeline : Pipeline σ) (store : σ) (manifest : Manifest) :
    Prop where
  isFile : FileStore.isFile store (Manifest.path pipeline.config.outputRoot) = true
  contents : FileStore.read store (Manifest.path pipeline.config.outputRoot) = .ok manifest.encode

section Stores

variable {σ : Type} [FileStore σ] {pipeline : Pipeline σ} {store : σ} {manifest : Manifest}

/-- A manifest of the current version that is accepted in its place has the fingerprint of the
pipeline. Its artifacts need not fit their fields for this. -/
theorem Holds.fingerprint (holds : pipeline.Holds store manifest)
    (current : manifest.isCompatible = true) (fits : Manifest.FitsText manifest.fingerprint)
    {found : Manifest} (read : pipeline.readManifest store = .ok found) :
    manifest.fingerprint = pipeline.config.compileOptions.fingerprint := by
  have version : manifest.version < Text.wordBound := by
    rw [eq_of_beq current]
    decide
  simp only [readManifest, holds.isFile, holds.contents, if_true] at read
  cases decoded : Manifest.decode? manifest.encode with
  | none => simp [decoded] at read
  | some taken =>
    have same := Manifest.fingerprint_of_decode? version fits decoded
    simp only [decoded] at read
    split at read
    · cases read
    · split at read
      · cases read
      · rename_i own
        rw [← same]
        simpa using own

/-- A manifest of the current version that fits its fields is read if it has the fingerprint of the
pipeline, and is refused for its options if it has not. -/
theorem Holds.readManifest_eq (holds : pipeline.Holds store manifest) (fits : manifest.Fits)
    (current : manifest.isCompatible = true) :
    pipeline.readManifest store =
      if manifest.fingerprint = pipeline.config.compileOptions.fingerprint then .ok manifest
      else .error .otherOptions := by
  simp only [readManifest, holds.isFile, holds.contents, if_true, Manifest.decode?_encode fits,
    current]
  split <;> simp_all

end Stores

/-- Files in memory hold the manifest whose bytes they have at its path, with whatever time. -/
theorem holds_of_present {pipeline : Pipeline MemoryFiles} {store : MemoryFiles}
    {manifest : Manifest} {time : Signal}
    (present : store.files[Manifest.path pipeline.config.outputRoot]? =
      some ⟨manifest.encode, time⟩) :
    pipeline.Holds store manifest := by
  constructor
  · change store.files.contains _ = true
    rw [Std.ExtTreeMap.contains_eq_isSome_getElem?, present]
    rfl
  · change store.read _ = _
    rw [MemoryFiles.read, present]

/-- Saving a manifest puts its bytes in their place, where a pipeline with the same cache root looks
for it. -/
theorem holds_saveManifest {saver loader : Pipeline MemoryFiles}
    {workspace saved : Workspace MemoryFiles}
    (sameRoot : loader.config.outputRoot = saver.config.outputRoot)
    (done : saver.saveManifest workspace = (.ok (), saved)) :
    loader.Holds saved.store
      (Manifest.ofCache workspace.cache saver.config.compileOptions.fingerprint) := by
  have put : workspace.store.put saver.config.outputRoot (Manifest.path saver.config.outputRoot)
      (Manifest.ofCache workspace.cache saver.config.compileOptions.fingerprint).encode =
        (.ok (), saved.store) := by
    simp only [saveManifest, FileStore.createDirectories, FileStore.write] at done
    rw [MemoryFiles.put]
    split at done
    · cases done
    · rename_i changed made
      simp only [made]
      split at done
      · cases done
      · rename_i later wrote
        cases done
        exact wrote
  rcases workspace.store.put_cases saver.config.outputRoot (Manifest.path saver.config.outputRoot)
      (Manifest.ofCache workspace.cache saver.config.compileOptions.fingerprint).encode with
    ⟨changed, succeeded, written, _⟩ | ⟨cause, changed, failed, _⟩
  · cases put.symm.trans succeeded
    apply holds_of_present
    rw [sameRoot]
    exact written.here
  · cases put.symm.trans failed

end Pipeline

end DialectLoader
