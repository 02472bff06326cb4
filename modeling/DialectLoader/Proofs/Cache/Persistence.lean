import DialectLoader.Proofs.Cache.Listing
import DialectLoader.Proofs.Manifest.RoundTrip

/-!
# What a cache leaves on disk

Every artifact of a consistent cache is found under the path of its own source. So what a cache
answers to lookups fixes the cache, and with it the manifest: neither the operations that led to it
nor the order in which its index is gone through show in the bytes. For the order this rests on the
keys. The artifacts are sorted by their sources as these are spelled, and no two of them are spelled
alike, since they already differ in the common spelling.

Storing artifacts in an empty cache may displace others, but artifacts that were in a cache side by
side displace none of each other. What is restored from a manifest is therefore the cache itself,
less what was not to be kept.

The bytes are those handed to the store. That a disk keeps them, and what a program finds that
starts while another is writing, is not considered here.
-/

namespace DialectLoader.Cache

/-- Two consistent caches that find the same artifact for every source are the same. Lookups are all
that the other parts of the program see of a cache. -/
theorem Consistent.ext_lookup {left right : Cache} (first : left.Consistent)
    (second : right.Consistent) (same : ∀ source, left.lookup source = right.lookup source) :
    left = right := by
  refine first.ext second fun key => Option.ext fun artifact => ?_
  have own : left.bySource[artifact.sourceKey]? = right.bySource[artifact.sourceKey]? :=
    same artifact.sourcePath
  constructor
  · intro found
    obtain rfl := first.keyed found
    rw [← own, found]
  · intro found
    obtain rfl := second.keyed found
    rw [own, found]

/-- A consistent cache represents its artifacts in their sorted order, however it came about. -/
theorem Consistent.represents {cache : Cache} (consistent : cache.Consistent) :
    Represents cache cache.artifacts := by
  refine ⟨consistent, consistent.pairwise_artifacts, fun {key artifact} => ?_⟩
  rw [mem_artifacts]
  constructor
  · intro found
    exact ⟨⟨key, found⟩, consistent.keyed found⟩
  · rintro ⟨⟨other, found⟩, rfl⟩
    exact consistent.keyed found ▸ found

/-- Artifacts that displace none of each other are represented by the cache in which they were
stored. Those that were not to be kept are missing. -/
theorem represents_restore {listing : List Artifact} (apart : listing.Pairwise Apart)
    (keep : Artifact → Bool) : Represents (empty.restore listing keep).2 (listing.filter keep) := by
  obtain ⟨consistent, found⟩ := foldl_insert_eq_some_iff consistent_empty (apart.filter keep)
  refine ⟨consistent, apart.filter keep, fun {key artifact} => (found key artifact).trans ?_⟩
  simp [empty]

/-- A search of what was kept finds what a search of the whole finds, if that was kept. A second
match cannot take its place, as there is none. -/
theorem find?_filter_of_pairwise {listing : List Artifact} {key : Artifact → String}
    (distinct : listing.Pairwise fun left right => key left ≠ key right) (keep : Artifact → Bool)
    (wanted : String) :
    (listing.filter keep).find? (fun other => key other == wanted) =
      (listing.find? fun other => key other == wanted).filter keep := by
  apply Option.ext
  intro artifact
  rw [find?_eq_some_iff_of_pairwise (distinct.filter keep), Option.filter_eq_some_iff,
    find?_eq_some_iff_of_pairwise distinct, List.mem_filter]
  exact and_right_comm

/-- Storing the artifacts of a consistent cache in an empty one gives the cache back as far as they
were to be kept, and counts what is in it. -/
theorem Consistent.restore_filter {cache : Cache} (consistent : cache.Consistent)
    (keep : Artifact → Bool) :
    (∀ source, (empty.restore cache.artifacts keep).2.lookup source =
      (cache.lookup source).filter keep) ∧
      (∀ output, (empty.restore cache.artifacts keep).2.lookupOutput output =
        (cache.lookupOutput output).filter keep) ∧
      (empty.restore cache.artifacts keep).1 = (empty.restore cache.artifacts keep).2.size := by
  have whole := consistent.represents
  have kept := represents_restore whole.apart keep
  refine ⟨fun source => ?_, fun output => ?_, kept.size.symm⟩
  · rw [kept.lookup, whole.lookup]
    exact find?_filter_of_pairwise (whole.apart.imp fun apart => apart.1) keep _
  · rw [kept.lookupOutput, whole.lookupOutput]
    exact find?_filter_of_pairwise (whole.apart.imp fun apart => apart.2) keep _

/-- The bytes that are left on disk if the artifacts are gone through in a given order and then
sorted. -/
def persisted (order : List Artifact) (fingerprint : String) : Bytes :=
  (⟨Manifest.currentVersion, fingerprint, Listing.sorted order⟩ : Manifest).encode

/-- In whatever order the artifacts of a consistent cache are gone through, the bytes are those of
its manifest. -/
theorem Consistent.persisted_eq {cache : Cache} (consistent : cache.Consistent)
    {order : List Artifact} (listed : order.Perm cache.artifacts) (fingerprint : String) :
    persisted order fingerprint = (Manifest.ofCache cache fingerprint).encode := by
  have stored : cache.artifacts.Perm (cache.bySource.toList.map (·.2)) := List.mergeSort_perm ..
  have sorted : Listing.sorted order = cache.artifacts :=
    (Listing.sorted_of_perm consistent.pairwise_toList (listed.trans stored).symm).symm
  rw [persisted, sorted, Manifest.ofCache]

/-- What a cache leaves on disk depends on what it answers alone, and gives it back. Caches that any
operations lead to from empty ones and that find the same artifact for every source leave the same
bytes, in whatever order their artifacts are gone through. And from these bytes an empty cache is
filled that finds by source and by output what the cache found, as far as it was to be kept; the
number that is reported is that of the artifacts in it. -/
theorem persisted_by_answers :
    (∀ (first second : List Operation) (fingerprint : String),
      let left := (Operation.runAll Operation.perform empty first).2
      let right := (Operation.runAll Operation.perform empty second).2
      (∀ source, left.lookup source = right.lookup source) →
        (Manifest.ofCache left fingerprint).encode = (Manifest.ofCache right fingerprint).encode ∧
        ∀ order otherOrder, order.Perm left.artifacts → otherOrder.Perm right.artifacts →
          persisted order fingerprint = persisted otherOrder fingerprint) ∧
    ∀ (operations : List Operation) (fingerprint : String) (keep : Artifact → Bool),
      let cache := (Operation.runAll Operation.perform empty operations).2
      (Manifest.ofCache cache fingerprint).Fits →
        ∃ manifest, Manifest.decode? (Manifest.ofCache cache fingerprint).encode = some manifest ∧
          (∀ source, (empty.restore manifest.artifacts keep).2.lookup source =
            (cache.lookup source).filter keep) ∧
          (∀ output, (empty.restore manifest.artifacts keep).2.lookupOutput output =
            (cache.lookupOutput output).filter keep) ∧
          (empty.restore manifest.artifacts keep).1 =
            (empty.restore manifest.artifacts keep).2.size := by
  have consistent (operations : List Operation) :
      (Operation.runAll Operation.perform empty operations).2.Consistent :=
    (represents_empty.runAll operations).2.consistent
  constructor
  · intro first second fingerprint left right same
    have equal : left = right := (consistent first).ext_lookup (consistent second) same
    refine ⟨by rw [equal], fun order otherOrder listed otherListed => ?_⟩
    rw [(consistent first).persisted_eq listed, (consistent second).persisted_eq otherListed]
    exact congrArg (fun cache => (Manifest.ofCache cache fingerprint).encode) equal
  · intro operations fingerprint keep cache fits
    exact ⟨_, Manifest.decode?_encode fits, (consistent operations).restore_filter keep⟩

/-- An artifact without a line map, whose script and code are each below a root of their own. -/
def bare (source output : String) (seconds : Nat) : Artifact :=
  ⟨source, "l/" ++ source, output, "c/" ++ output, ⟨seconds, 0⟩, .moonScript, ∅⟩

def plainHistory : List Operation :=
  [.upsert (bare "b.moon" "b.lua" 1), .upsert (bare "A.moon" "A.lua" 2)]

/-- A cache that comes to the same artifacts after two others were displaced, one by its source and
one by its output, and after a third was not to be kept. -/
def windingHistory : List Operation :=
  [.upsert (bare "a.moon" "x.lua" 3), .upsert (bare "a.yue" "a.lua" 4), .remove "./Z.moon",
    .restore [bare "A.moon" "A.lua" 2, bare "z.moon" "z.lua" 5] (·.signal.seconds == 2),
    .upsert (bare "b.moon" "b.lua" 1)]

/-- Both histories leave the same bytes, even if one index is gone through backwards, and the newer
one of the two artifacts is found again by source and by output when only that one is kept. -/
theorem persisted_by_answers_rivals :
    let plain := (Operation.runAll Operation.perform empty plainHistory).2
    let winding := (Operation.runAll Operation.perform empty windingHistory).2
    let keep := fun artifact : Artifact => artifact.signal.seconds == 2
    (∀ source, plain.lookup source = winding.lookup source) ∧
      persisted plain.artifacts.reverse "f" = persisted winding.artifacts "f" ∧
      ∃ manifest, Manifest.decode? (Manifest.ofCache winding "f").encode = some manifest ∧
        (empty.restore manifest.artifacts keep).2.lookup "a.MOON" = some (bare "A.moon" "A.lua" 2) ∧
        (empty.restore manifest.artifacts keep).2.lookupOutput "c\\a.lua" =
          some (bare "A.moon" "A.lua" 2) ∧
        (empty.restore manifest.artifacts keep).2.lookup "b.moon" = none := by
  intro plain winding keep
  have indexes : plain.bySource.toList = winding.bySource.toList := by rfl
  have same : ∀ source, plain.lookup source = winding.lookup source := by
    intro source
    rw [lookup, lookup, Std.ExtTreeMap.toList_inj.mp indexes]
  obtain ⟨byAnswers, restored⟩ := persisted_by_answers
  have orders := (byAnswers plainHistory windingHistory "f" same).2
  have stored : ∀ entry ∈ winding.bySource.toList, Manifest.FitsArtifact entry.2 := by
    decide +kernel
  have count : winding.artifacts.length = 2 := by
    rw [artifacts, List.length_mergeSort, List.length_map]
    decide +kernel
  have fits : (Manifest.ofCache winding "f").Fits := by
    refine ⟨by decide, by decide, count ▸ by decide, fun artifact live => ?_⟩
    obtain ⟨entry, there, rfl⟩ := List.mem_map.mp (List.mem_mergeSort.mp live)
    exact stored entry there
  obtain ⟨manifest, read, bySource, byOutput, _⟩ := restored windingHistory "f" keep fits
  refine ⟨same, orders _ _ (List.reverse_perm _) (List.Perm.refl _), manifest, read, ?_, ?_, ?_⟩
  · rw [bySource]
    rfl
  · rw [byOutput]
    rfl
  · rw [bySource]
    rfl

end DialectLoader.Cache
