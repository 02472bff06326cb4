import DialectLoader.Cache

/-!
# The two indexes of the cache

A cache is consistent when every artifact stands under the key of its source and the index of
outputs is the inverse of the index of sources. Storing an artifact keeps this, and has the effect
of a plain list: all artifacts with its source or its output leave, and it enters. What a consistent
cache answers is therefore fixed by its index of sources alone, and storing its artifacts one by one
in an empty cache gives the cache back, less what was not to be kept.

A cache is a value here, and an operation takes it from one state to the next. The locks by which
several threads take turns at one cache, and a lock that is lost because a thread failed while it
held it, are outside.
-/

namespace DialectLoader.Cache

variable {artifact : Artifact}

/-- The artifacts stand under their keys, and the index of outputs leads back to them. Without it an
output could lead to an artifact with another one. -/
structure Consistent (cache : Cache) : Prop where
  keyed : ∀ {key : String} {artifact : Artifact}, cache.bySource[key]? = some artifact →
    artifact.sourceKey = key
  inverse : ∀ {output key : String}, cache.byOutput[output]? = some key ↔
    ∃ artifact : Artifact, cache.bySource[key]? = some artifact ∧ artifact.outputKey = output

variable {cache : Cache}

theorem consistent_empty : Consistent empty :=
  ⟨by simp [empty], by simp [empty]⟩

/-- At most one artifact of a consistent cache has a given output, because the index of outputs has
one source for it. -/
theorem Consistent.key_unique (consistent : cache.Consistent) {key other : String}
    {left right : Artifact} (first : cache.bySource[key]? = some left)
    (second : cache.bySource[other]? = some right) (same : left.outputKey = right.outputKey) :
    key = other := by
  have here : cache.byOutput[left.outputKey]? = some key :=
    consistent.inverse.mpr ⟨left, first, rfl⟩
  have there : cache.byOutput[left.outputKey]? = some other :=
    consistent.inverse.mpr ⟨right, second, same.symm⟩
  exact Option.some.inj (here.symm.trans there)

/-- Two consistent caches with the same artifacts under the same keys are the same, since the index
of outputs follows from that of sources. -/
theorem Consistent.ext {left right : Cache} (first : left.Consistent) (second : right.Consistent)
    (same : ∀ key : String, left.bySource[key]? = right.bySource[key]?) : left = right := by
  have sources : left.bySource = right.bySource := Std.ExtTreeMap.ext_getElem? same
  have outputs : left.byOutput = right.byOutput := by
    apply Std.ExtTreeMap.ext_getElem?
    intro output
    apply Option.ext
    intro key
    rw [first.inverse, second.inverse, sources]
  cases left
  cases right
  congr

section Storing

variable (consistent : cache.Consistent)

include consistent

/-- The owner of an output leaves, unless it is the source itself. In a consistent cache these are
exactly the artifacts of other sources with that output. -/
theorem withoutOwner_eq_some_iff {output source key : String} :
    (cache.withoutOwner output source)[key]? = some artifact ↔
      cache.bySource[key]? = some artifact ∧ (key = source ∨ artifact.outputKey ≠ output) := by
  unfold withoutOwner
  split
  · rename_i owner owned
    obtain ⟨owning, ownerFound, ownerOutput⟩ := consistent.inverse.mp owned
    have unique (found : cache.bySource[key]? = some artifact)
        (same : artifact.outputKey = output) :
        key = owner :=
      consistent.key_unique found ownerFound (same.trans ownerOutput.symm)
    split
    · rename_i itself
      constructor
      · intro found
        by_cases same : artifact.outputKey = output
        · exact ⟨found, .inl ((unique found same).trans itself)⟩
        · exact ⟨found, .inr same⟩
      · exact And.left
    · rename_i other
      rw [Std.ExtTreeMap.getElem?_erase]
      simp only [Std.compare_eq_iff_eq]
      constructor
      · intro found
        split at found
        · cases found
        · rename_i apart
          exact ⟨found, .inr fun same => apart (unique found same).symm⟩
      · rintro ⟨found, kept⟩
        have apart : owner ≠ key := by
          rintro rfl
          rcases kept with same | differs
          · exact other same
          · rw [ownerFound] at found
            exact differs (Option.some.inj found ▸ ownerOutput)
        rw [if_neg apart]
        exact found
  · rename_i free
    constructor
    · intro found
      refine ⟨found, .inr fun same => ?_⟩
      have owned : cache.byOutput[output]? = some key :=
        consistent.inverse.mpr ⟨artifact, found, same⟩
      rw [free] at owned
      cases owned
    · exact And.left

/-- The source itself keeps its artifact when the owner of an output leaves, even if it owns that
output. -/
theorem withoutOwner_source (output source : String) :
    (cache.withoutOwner output source)[source]? = cache.bySource[source]? := by
  apply Option.ext
  intro artifact
  rw [withoutOwner_eq_some_iff consistent]
  simp

/-- After an artifact is stored, its source has it, and every other source has what it had unless
that had the same output. -/
theorem bySource_insert_eq_some_iff {artifact found : Artifact} {key : String} :
    (cache.insert artifact).bySource[key]? = some found ↔
      (key = artifact.sourceKey ∧ found = artifact) ∨
        (key ≠ artifact.sourceKey ∧ cache.bySource[key]? = some found ∧
          found.outputKey ≠ artifact.outputKey) := by
  simp only [insert, upsert, Std.ExtTreeMap.getElem?_insert, Std.compare_eq_iff_eq]
  by_cases same : artifact.sourceKey = key
  · simp [same, eq_comm]
  · have other : key ≠ artifact.sourceKey := Ne.symm same
    rw [if_neg same, withoutOwner_eq_some_iff consistent]
    simp [other]

/-- After an artifact is stored, its output belongs to its source, and every other output to the
source it belonged to, unless that was the same source. -/
theorem byOutput_insert_eq_some_iff {output key : String} :
    (cache.insert artifact).byOutput[output]? = some key ↔
      (output = artifact.outputKey ∧ key = artifact.sourceKey) ∨
        (output ≠ artifact.outputKey ∧ key ≠ artifact.sourceKey ∧
          cache.byOutput[output]? = some key) := by
  simp only [insert, upsert, withoutOwner_source consistent, Std.ExtTreeMap.getElem?_insert,
    Std.compare_eq_iff_eq]
  by_cases same : artifact.outputKey = output
  · simp [same, eq_comm]
  · have other : output ≠ artifact.outputKey := Ne.symm same
    simp only [if_neg same, other, false_and, false_or, ne_eq, not_false_eq_true, true_and]
    cases found : cache.bySource[artifact.sourceKey]? with
    | none =>
      refine ⟨fun belongs => ⟨?_, belongs⟩, And.right⟩
      rintro rfl
      obtain ⟨owning, there, _⟩ := consistent.inverse.mp belongs
      rw [found] at there
      cases there
    | some old =>
      have owned : cache.byOutput[old.outputKey]? = some artifact.sourceKey :=
        consistent.inverse.mpr ⟨old, found, rfl⟩
      have owner (belongs : cache.byOutput[output]? = some artifact.sourceKey) :
          old.outputKey = output := by
        obtain ⟨owning, ownerFound, ownerOutput⟩ := consistent.inverse.mp belongs
        rw [found] at ownerFound
        exact Option.some.inj ownerFound ▸ ownerOutput
      dsimp only
      split
      · rename_i unmoved
        refine ⟨fun belongs => ⟨fun itself => ?_, belongs⟩, And.right⟩
        exact same (unmoved.symm.trans (owner (itself ▸ belongs)))
      · rw [Std.ExtTreeMap.getElem?_erase]
        simp only [Std.compare_eq_iff_eq]
        split
        · rename_i left
          rw [← left, owned]
          simp [eq_comm]
        · rename_i apart
          exact ⟨fun belongs => ⟨fun itself => apart (owner (itself ▸ belongs)), belongs⟩,
            And.right⟩

/-- Storing an artifact keeps a cache consistent, also if it displaces one artifact by its source
and another by its output. -/
theorem Consistent.insert (artifact : Artifact) :
    (cache.insert artifact).Consistent := by
  constructor
  · intro key found stored
    rcases (bySource_insert_eq_some_iff consistent).mp stored with ⟨rfl, rfl⟩ | ⟨_, kept, _⟩
    · rfl
    · exact consistent.keyed kept
  · intro output key
    rw [byOutput_insert_eq_some_iff consistent]
    constructor
    · rintro (⟨rfl, rfl⟩ | ⟨otherOutput, otherKey, belongs⟩)
      · exact ⟨artifact, (bySource_insert_eq_some_iff consistent).mpr (.inl ⟨rfl, rfl⟩), rfl⟩
      · obtain ⟨owning, found, rfl⟩ := consistent.inverse.mp belongs
        exact ⟨owning,
          (bySource_insert_eq_some_iff consistent).mpr (.inr ⟨otherKey, found, otherOutput⟩), rfl⟩
    · rintro ⟨found, stored, rfl⟩
      rcases (bySource_insert_eq_some_iff consistent).mp stored
        with ⟨rfl, rfl⟩ | ⟨otherKey, kept, otherOutput⟩
      · exact .inl ⟨rfl, rfl⟩
      · exact .inr ⟨otherOutput, otherKey, consistent.inverse.mpr ⟨found, kept, rfl⟩⟩

omit consistent in
theorem bySource_remove_eq_some_iff {source key : String} :
    (cache.remove source).2.bySource[key]? = some artifact ↔
      key ≠ Path.normalize source ∧ cache.bySource[key]? = some artifact := by
  unfold remove
  cases found : cache.lookup source with
  | none =>
    refine ⟨fun there => ⟨?_, there⟩, And.right⟩
    rintro rfl
    rw [lookup, there] at found
    cases found
  | some old =>
    rw [Std.ExtTreeMap.getElem?_erase]
    simp only [Std.compare_eq_iff_eq]
    split
    · rename_i same
      simp [same]
    · rename_i other
      simp [Ne.symm other]

/-- A source that is forgotten loses its output, and the others keep theirs. Consistency tells which
output that is. -/
theorem byOutput_remove_eq_some_iff {source output key : String} :
    (cache.remove source).2.byOutput[output]? = some key ↔
      key ≠ Path.normalize source ∧ cache.byOutput[output]? = some key := by
  have owned (belongs : cache.byOutput[output]? = some (Path.normalize source)) :
      ∃ artifact, cache.lookup source = some artifact ∧ artifact.outputKey = output :=
    consistent.inverse.mp belongs
  unfold remove
  cases found : cache.lookup source with
  | none =>
    refine ⟨fun belongs => ⟨?_, belongs⟩, And.right⟩
    rintro rfl
    obtain ⟨artifact, there, _⟩ := owned belongs
    rw [found] at there
    cases there
  | some old =>
    have former : cache.byOutput[old.outputKey]? = some (Path.normalize source) :=
      consistent.inverse.mpr ⟨old, found, rfl⟩
    rw [Std.ExtTreeMap.getElem?_erase]
    simp only [Std.compare_eq_iff_eq]
    split
    · rename_i same
      rw [← same, former]
      simp [eq_comm]
    · rename_i other
      refine ⟨fun belongs => ⟨?_, belongs⟩, And.right⟩
      rintro rfl
      obtain ⟨artifact, there, named⟩ := owned belongs
      rw [found] at there
      cases there
      exact other named

theorem Consistent.remove (source : String) :
    (cache.remove source).2.Consistent := by
  constructor
  · intro key artifact found
    exact consistent.keyed (bySource_remove_eq_some_iff.mp found).2
  · intro output key
    simp only [byOutput_remove_eq_some_iff consistent, bySource_remove_eq_some_iff,
      consistent.inverse, and_assoc, exists_and_left]

/-- Storing many artifacts keeps a cache consistent, whichever of them are kept and whatever they
displace. -/
theorem Consistent.restore (stored : List Artifact) (keep : Artifact → Bool) :
    (cache.restore stored keep).2.Consistent := by
  change ((stored.filter keep).foldl Cache.insert cache).Consistent
  induction stored.filter keep generalizing cache with
  | nil => exact consistent
  | cons first rest ih => exact ih (consistent.insert first)

omit consistent in
/-- The artifacts of a cache are those that stand under some key; sorting neither adds nor drops
any. -/
theorem mem_artifacts :
    artifact ∈ cache.artifacts ↔ ∃ key : String, cache.bySource[key]? = some artifact := by
  simp only [artifacts, List.mem_mergeSort, List.mem_map, Prod.exists]
  constructor
  · rintro ⟨key, found, member, rfl⟩
    exact ⟨key, Std.ExtTreeMap.mem_toList_iff_getElem?_eq_some.mp member⟩
  · rintro ⟨key, found⟩
    exact ⟨key, artifact, Std.ExtTreeMap.mem_toList_iff_getElem?_eq_some.mpr found, rfl⟩

/-- What is in a cache after an artifact was stored is that artifact or was there before. So a
property of all artifacts is kept by storing one that has it. -/
theorem Consistent.mem_artifacts_insert {artifact found : Artifact}
    (live : found ∈ (cache.insert artifact).artifacts) :
    found = artifact ∨ found ∈ cache.artifacts := by
  obtain ⟨key, there⟩ := mem_artifacts.mp live
  rcases (bySource_insert_eq_some_iff consistent).mp there with ⟨_, rfl⟩ | ⟨_, kept, _⟩
  · exact .inl rfl
  · exact .inr (mem_artifacts.mpr ⟨key, kept⟩)

/-- What is in a cache after many artifacts were stored is one of them or was there before. -/
theorem Consistent.mem_artifacts_restore {stored : List Artifact} {keep : Artifact → Bool}
    {found : Artifact} (live : found ∈ (cache.restore stored keep).2.artifacts) :
    found ∈ stored ∨ found ∈ cache.artifacts := by
  have kept (listed : List Artifact) (into : Cache) (known : into.Consistent)
      (there : found ∈ (listed.foldl Cache.insert into).artifacts) :
      found ∈ listed ∨ found ∈ into.artifacts := by
    induction listed generalizing into with
    | nil => exact .inr there
    | cons first rest ih =>
      rcases ih (into.insert first) (known.insert first) there with later | earlier
      · exact .inl (List.mem_cons_of_mem _ later)
      · rcases known.mem_artifacts_insert earlier with rfl | before
        · exact .inl List.mem_cons_self
        · exact .inr before
  rcases kept (stored.filter keep) cache consistent live with listed | before
  · exact .inl ((List.mem_filter.mp listed).1)
  · exact .inr before

end Storing

/-- A consistent cache in which all artifacts have a property. What runs of the program keep true of
artifacts is stated through this. -/
structure Filled (property : Artifact → Prop) (cache : Cache) : Prop where
  consistent : cache.Consistent
  each : ∀ artifact ∈ cache.artifacts, property artifact

theorem filled_empty (property : Artifact → Prop) : empty.Filled property := by
  refine ⟨consistent_empty, fun artifact live => ?_⟩
  obtain ⟨key, found⟩ := mem_artifacts.mp live
  simp [empty] at found

theorem Filled.insert {property : Artifact → Prop} (filled : cache.Filled property)
    (suits : property artifact) : (cache.insert artifact).Filled property := by
  refine ⟨filled.consistent.insert artifact, fun found live => ?_⟩
  rcases filled.consistent.mem_artifacts_insert live with rfl | before
  · exact suits
  · exact filled.each found before

/-- Storing the artifacts of another cache in which all have the property keeps all artifacts of the
cache so, whichever are left out. -/
theorem Filled.restore {property : Artifact → Prop} {cache earlier : Cache}
    (filled : cache.Filled property) (saved : earlier.Filled property) (keep : Artifact → Bool) :
    (cache.restore earlier.artifacts keep).2.Filled property := by
  refine ⟨filled.consistent.restore _ _, fun found live => ?_⟩
  rcases filled.consistent.mem_artifacts_restore live with stored | before
  · exact saved.each found stored
  · exact filled.each found before

section Lookups

variable (consistent : cache.Consistent)

include consistent

/-- An artifact with a normal path is found under that path alone, as far as normal paths go. Other
spellings lead to it as well. -/
theorem Consistent.sourcePath_of_lookup {logical : String}
    (asked : Path.normalize logical = logical)
    (own : Path.normalize artifact.sourcePath = artifact.sourcePath)
    (found : cache.lookup logical = some artifact) : artifact.sourcePath = logical := by
  have key := consistent.keyed found
  rwa [Artifact.sourceKey, own, asked] at key

theorem Consistent.mem_insert (artifact : Artifact) :
    artifact ∈ (cache.insert artifact).artifacts :=
  mem_artifacts.mpr
    ⟨artifact.sourceKey, (bySource_insert_eq_some_iff consistent).mpr (.inl ⟨rfl, rfl⟩)⟩

/-- An artifact is found under every spelling of the path of its code, since no other artifact of
the cache has that path. -/
theorem Consistent.lookupOutput_of_mem (live : artifact ∈ cache.artifacts) {output : String}
    (spelled : Path.normalize output = artifact.outputKey) :
    cache.lookupOutput output = some artifact := by
  obtain ⟨key, found⟩ := mem_artifacts.mp live
  have owned : cache.byOutput[artifact.outputKey]? = some key :=
    consistent.inverse.mpr ⟨artifact, found, rfl⟩
  rw [lookupOutput, spelled, owned, Option.bind_some, found]

/-- What is found under the path of code is the artifact in the cache whose code is there. The index
of outputs is not mentioned any more. -/
theorem Consistent.lookupOutput_eq_some_iff {output : String} :
    cache.lookupOutput output = some artifact ↔
      artifact ∈ cache.artifacts ∧ artifact.outputKey = Path.normalize output := by
  constructor
  · intro found
    obtain ⟨key, owned, there⟩ := Option.bind_eq_some_iff.mp found
    obtain ⟨owning, stored, named⟩ := consistent.inverse.mp owned
    cases there.symm.trans stored
    exact ⟨mem_artifacts.mpr ⟨key, there⟩, named⟩
  · rintro ⟨live, named⟩
    exact consistent.lookupOutput_of_mem live named.symm

end Lookups

/-- Two artifacts that can be in a cache side by side: they share neither the source nor the
output. -/
def Apart (left right : Artifact) : Prop :=
  left.sourceKey ≠ right.sourceKey ∧ left.outputKey ≠ right.outputKey

theorem Apart.symm {left right : Artifact} (apart : Apart left right) : Apart right left :=
  ⟨apart.1.symm, apart.2.symm⟩

section Apart

variable (consistent : cache.Consistent)

include consistent

/-- Storing an artifact adds it to those that it does not displace. In this form storing many can be
followed. -/
theorem bySource_insert_iff_apart {artifact found : Artifact} {key : String} :
    (cache.insert artifact).bySource[key]? = some found ↔
      (cache.bySource[key]? = some found ∧ Apart found artifact) ∨
      (found = artifact ∧ found.sourceKey = key) := by
  rw [bySource_insert_eq_some_iff consistent]
  constructor
  · rintro (⟨rfl, rfl⟩ | ⟨other, kept, different⟩)
    · exact .inr ⟨rfl, rfl⟩
    · exact .inl ⟨kept, consistent.keyed kept ▸ other, different⟩
  · rintro (⟨kept, other, different⟩ | ⟨rfl, rfl⟩)
    · exact .inr ⟨consistent.keyed kept ▸ other, kept, different⟩
    · exact .inl ⟨rfl, rfl⟩

/-- Storing artifacts that displace none of each other adds them all to what they do not displace.
The order in which they come makes no difference. -/
theorem foldl_insert_eq_some_iff {stored : List Artifact} (apart : stored.Pairwise Apart) :
    (stored.foldl Cache.insert cache).Consistent ∧
      ∀ (key : String) (found : Artifact), (stored.foldl Cache.insert cache).bySource[key]? =
        some found ↔
        (cache.bySource[key]? = some found ∧ ∀ artifact ∈ stored, Apart found artifact) ∨
          (found ∈ stored ∧ found.sourceKey = key) := by
  induction stored generalizing cache with
  | nil => exact ⟨consistent, by simp⟩
  | cons first rest ih =>
    obtain ⟨firstApart, restApart⟩ := List.pairwise_cons.mp apart
    obtain ⟨finalConsistent, final⟩ := ih (consistent.insert first) restApart
    refine ⟨finalConsistent, fun key found => ?_⟩
    rw [List.foldl_cons, final, bySource_insert_iff_apart consistent, List.forall_mem_cons,
      List.mem_cons]
    constructor
    · rintro (⟨⟨kept, different⟩ | ⟨rfl, keyed⟩, others⟩ | ⟨member, keyed⟩)
      · exact .inl ⟨kept, different, others⟩
      · exact .inr ⟨.inl rfl, keyed⟩
      · exact .inr ⟨.inr member, keyed⟩
    · rintro (⟨kept, different, others⟩ | ⟨rfl | member, keyed⟩)
      · exact .inl ⟨.inl ⟨kept, different⟩, others⟩
      · exact .inl ⟨.inr ⟨rfl, keyed⟩, firstApart⟩
      · exact .inr ⟨member, keyed⟩

/-- Artifacts that displace none of each other can be stored in any order. So the order of a
parallel pass cannot be seen in the cache. -/
theorem Consistent.foldl_insert_perm {stored order : List Artifact} (apart : stored.Pairwise Apart)
    (same : stored.Perm order) :
    stored.foldl Cache.insert cache = order.foldl Cache.insert cache := by
  obtain ⟨first, there⟩ := foldl_insert_eq_some_iff consistent apart
  obtain ⟨second, other⟩ :=
    foldl_insert_eq_some_iff consistent ((same.pairwise_iff Apart.symm).mp apart)
  refine first.ext second fun key => Option.ext fun artifact => ?_
  rw [there, other, same.mem_iff]
  simp only [same.mem_iff]

theorem Consistent.pairwise_toList :
    (cache.bySource.toList.map (·.2)).Pairwise Apart := by
  rw [List.pairwise_map]
  refine cache.bySource.distinct_keys_toList.imp_of_mem ?_
  rintro ⟨key, left⟩ ⟨other, right⟩ first second differ
  have leftFound := Std.ExtTreeMap.mem_toList_iff_getElem?_eq_some.mp first
  have rightFound := Std.ExtTreeMap.mem_toList_iff_getElem?_eq_some.mp second
  have keys : key ≠ other := fun same => differ (by simp [same])
  constructor
  · rw [consistent.keyed leftFound, consistent.keyed rightFound]
    exact keys
  · exact fun same => keys (consistent.key_unique leftFound rightFound same)

/-- The artifacts of a consistent cache displace none of each other, so they can be stored in
another cache together. -/
theorem Consistent.pairwise_artifacts :
    cache.artifacts.Pairwise Apart :=
  ((List.mergeSort_perm _ _).pairwise_iff Apart.symm).mpr consistent.pairwise_toList

/-- Storing the artifacts of a consistent cache in an empty one gives it back, if all are to be
kept. -/
theorem Consistent.restore_artifacts {keep : Artifact → Bool}
    (all : ∀ artifact ∈ cache.artifacts, keep artifact = true) :
    (empty.restore cache.artifacts keep).2 = cache := by
  have kept : cache.artifacts.filter keep = cache.artifacts := List.filter_eq_self.mpr all
  obtain ⟨restored, found⟩ :=
    foldl_insert_eq_some_iff consistent_empty consistent.pairwise_artifacts
  simp only [Cache.restore, kept]
  refine restored.ext consistent fun key => Option.ext fun artifact => ?_
  rw [found, mem_artifacts]
  constructor
  · rintro (⟨none, _⟩ | ⟨⟨other, there⟩, keyed⟩)
    · simp [empty] at none
    · rw [← keyed, consistent.keyed there]
      exact there
  · intro there
    exact .inr ⟨⟨key, there⟩, consistent.keyed there⟩

end Apart

end DialectLoader.Cache
