import DialectLoader.Proofs.Cache.Index

/-!
# The cache as a plain list

What a cache answers can be said without its indexes. A listing is a list of artifacts: storing an
artifact deletes all that have its source or its output and puts it at the end, removing a source
deletes the artifact of that source, and both lookups search the list. Sources and outputs are
compared in their common spelling.

A cache represents a listing when its two indexes are consistent and hold the artifacts of the
listing, of which no two share a source or an output. Every operation keeps this and gives the same
answer on both sides, so after any operations from the empty cache on all answers are those of the
listing.
-/

namespace DialectLoader.Cache

instance (left right : Artifact) : Decidable (Apart left right) :=
  inferInstanceAs (Decidable (_ ∧ _))

namespace Listing

/-- The artifact of a source, found by going through the list. -/
def lookup (listing : List Artifact) (source : String) : Option Artifact :=
  listing.find? fun artifact => artifact.sourceKey == Path.normalize source

/-- The artifact whose generated code is at a path, found by going through the list. -/
def lookupOutput (listing : List Artifact) (output : String) : Option Artifact :=
  listing.find? fun artifact => artifact.outputKey == Path.normalize output

/-- All artifacts, by the spelling of their source; this is the order in which they are written
down. -/
def sorted (listing : List Artifact) : List Artifact :=
  listing.mergeSort fun left right => decide (left.sourcePath ≤ right.sourcePath)

/-- The listing after an artifact has been stored: the ones that it displaces are gone, and it comes
last. -/
def insert (listing : List Artifact) (artifact : Artifact) : List Artifact :=
  listing.filter (fun other => Apart other artifact) ++ [artifact]

def remove (listing : List Artifact) (source : String) : List Artifact :=
  listing.filter fun artifact => artifact.sourceKey != Path.normalize source

end Listing

/-- What can be done to a cache; lookups are no operations, as they leave it alone. -/
inductive Operation where
  | upsert (artifact : Artifact)
  | remove (source : String)
  | clear
  | restore (stored : List Artifact) (keep : Artifact → Bool)

/-- What an operation answers with, so that answers of different operations can be listed
together. -/
inductive Answer where
  /-- The artifact that was replaced or removed. -/
  | former (artifact : Option Artifact)
  /-- The number of artifacts that were restored. -/
  | restored (count : Nat)
  | done

def Operation.perform (cache : Cache) : Operation → Answer × Cache
  | upsert artifact => (cache.upsert artifact).map .former id
  | remove source => (cache.remove source).map .former id
  | clear => (.done, empty)
  | restore stored keep => (cache.restore stored keep).map .restored id

/-- The same operation on a listing, which says what it should do without any index. -/
def Operation.list (listing : List Artifact) : Operation → Answer × List Artifact
  | upsert artifact =>
    (.former (Listing.lookup listing artifact.sourcePath), Listing.insert listing artifact)
  | remove source => (.former (Listing.lookup listing source), Listing.remove listing source)
  | clear => (.done, [])
  | restore stored keep =>
    (.restored (stored.filter keep).length, (stored.filter keep).foldl Listing.insert listing)

/-- Operations one after another: their answers, and the state afterwards. The states may be caches
or listings. -/
def Operation.runAll {σ : Type} (step : σ → Operation → Answer × σ) :
    σ → List Operation → List Answer × σ
  | state, [] => ([], state)
  | state, operation :: rest =>
    let (answer, state) := step state operation
    let (answers, state) := runAll step state rest
    (answer :: answers, state)

/-- A cache whose artifacts are those of a listing, in which no two displace each other. This is the
relation that every operation keeps. -/
structure Represents (cache : Cache) (listing : List Artifact) : Prop where
  consistent : cache.Consistent
  apart : listing.Pairwise Apart
  stored : ∀ {key : String} {artifact : Artifact},
    cache.bySource[key]? = some artifact ↔ artifact ∈ listing ∧ artifact.sourceKey = key

/-- Searching by something that tells the members of a list apart finds the member that has it,
wherever it stands in the list. -/
theorem find?_eq_some_iff_of_pairwise {listing : List Artifact} {key : Artifact → String}
    (distinct : listing.Pairwise fun left right => key left ≠ key right) {wanted : String}
    {artifact : Artifact} :
    listing.find? (fun other => key other == wanted) = some artifact ↔ artifact ∈ listing ∧
    key artifact = wanted := by
  induction listing with
  | nil => simp
  | cons first rest ih =>
    obtain ⟨firstDistinct, restDistinct⟩ := List.pairwise_cons.mp distinct
    rw [List.find?_cons]
    by_cases here : key first = wanted
    · have alone : artifact ∈ rest → key artifact ≠ wanted :=
        fun member same => firstDistinct artifact member (here.trans same.symm)
      simp only [here, beq_self_eq_true, Option.some.injEq, List.mem_cons]
      constructor
      · rintro rfl
        exact ⟨.inl rfl, here⟩
      · rintro ⟨rfl | member, same⟩
        · rfl
        · exact absurd same (alone member)
    · have other : (key first == wanted) = false := by simpa using here
      rw [other]
      simp only [ih restDistinct, List.mem_cons]
      constructor
      · rintro ⟨member, same⟩
        exact ⟨.inr member, same⟩
      · rintro ⟨rfl | member, same⟩
        · exact absurd same here
        · exact ⟨member, same⟩

theorem Listing.pairwise_sorted (listing : List Artifact) :
    (sorted listing).Pairwise fun left right => left.sourcePath ≤ right.sourcePath := by
  have ordered := @List.pairwise_mergeSort _
    (fun left right : Artifact => decide (left.sourcePath ≤ right.sourcePath))
    (fun _ _ _ before behind => by
      simp only [decide_eq_true_eq] at before behind ⊢
      exact String.le_trans before behind)
    (fun left right => by
      simp only [Bool.or_eq_true, decide_eq_true_eq]
      exact String.le_total left.sourcePath right.sourcePath)
    listing
  exact ordered.imp of_decide_eq_true

/-- A listing without rivals has one sorted form, in whatever order it is, because no two of its
sources are spelled alike. -/
theorem Listing.sorted_of_perm {listing other : List Artifact} (apart : listing.Pairwise Apart)
    (perm : listing.Perm other) : sorted listing = sorted other := by
  have distinct := apart.imp fun apart => apart.1
  have listed : (sorted listing).Perm listing := List.mergeSort_perm ..
  have otherListed : (sorted other).Perm other := List.mergeSort_perm ..
  refine (listed.trans (perm.trans otherListed.symm)).eq_of_pairwise ?_ (pairwise_sorted listing)
    (pairwise_sorted other)
  -- Artifacts with one spelling of their source are found by the same search.
  intro left right leftMember rightMember before behind
  have spelled : left.sourcePath = right.sourcePath := String.le_antisymm before behind
  have leftFound := (find?_eq_some_iff_of_pairwise distinct).mpr ⟨listed.mem_iff.mp leftMember, rfl⟩
  have rightFound := (find?_eq_some_iff_of_pairwise distinct).mpr
    ⟨perm.mem_iff.mpr (otherListed.mem_iff.mp rightMember), congrArg Path.normalize spelled.symm⟩
  exact Option.some.inj (leftFound.symm.trans rightFound)

theorem represents_empty : Represents empty [] :=
  ⟨consistent_empty, .nil, by simp [empty]⟩

namespace Represents

variable {cache : Cache} {listing : List Artifact} (represents : Represents cache listing)

include represents

/-- A source has the artifact that a search of the listing finds, under any spelling of its path. -/
theorem lookup (source : String) : cache.lookup source = Listing.lookup listing source := by
  have distinct := represents.apart.imp fun apart => apart.1
  apply Option.ext
  intro artifact
  rw [Listing.lookup, find?_eq_some_iff_of_pairwise distinct]
  exact represents.stored

/-- An output has the artifact that a search of the listing finds, under any spelling of its
path. -/
theorem lookupOutput (output : String) :
    cache.lookupOutput output = Listing.lookupOutput listing output := by
  have distinct := represents.apart.imp fun apart => apart.2
  apply Option.ext
  intro artifact
  rw [Listing.lookupOutput, find?_eq_some_iff_of_pairwise distinct, Cache.lookupOutput,
    Option.bind_eq_some_iff]
  constructor
  · rintro ⟨key, owned, found⟩
    obtain ⟨owning, there, named⟩ := represents.consistent.inverse.mp owned
    cases there.symm.trans found
    exact ⟨(represents.stored.mp found).1, named⟩
  · rintro ⟨member, named⟩
    have found := represents.stored.mpr ⟨member, rfl⟩
    exact ⟨artifact.sourceKey, represents.consistent.inverse.mpr ⟨artifact, found, named⟩, found⟩

/-- The artifacts by source are those of the listing, in some order. The index goes by keys, the
listing by time. -/
theorem perm : (cache.bySource.toList.map (·.2)).Perm listing := by
  have different {left right : Artifact} (apart : Apart left right) : left ≠ right :=
    fun same => apart.1 (congrArg Artifact.sourceKey same)
  have once : (cache.bySource.toList.map (·.2)).Nodup :=
    represents.consistent.pairwise_toList.imp different
  refine (List.perm_ext_iff_of_nodup once (represents.apart.imp different)).mpr fun artifact => ?_
  simp only [List.mem_map, Prod.exists, Std.ExtTreeMap.mem_toList_iff_getElem?_eq_some,
    exists_eq_right]
  constructor
  · rintro ⟨key, found⟩
    exact (represents.stored.mp found).1
  · intro member
    exact ⟨artifact.sourceKey, represents.stored.mpr ⟨member, rfl⟩⟩

theorem size : cache.size = listing.length := by
  rw [← represents.perm.length_eq, List.length_map, Std.ExtTreeMap.length_toList, Cache.size]

theorem artifacts : cache.artifacts = Listing.sorted listing :=
  (Listing.sorted_of_perm represents.apart represents.perm.symm).symm

/-- Storing an artifact deletes those with its source or its output and adds it, in the cache as in
the listing. -/
theorem insert (artifact : Artifact) :
    Represents (cache.insert artifact) (Listing.insert listing artifact) where
  consistent := represents.consistent.insert artifact
  apart := by
    rw [Listing.insert, List.pairwise_append]
    refine ⟨represents.apart.filter _, List.pairwise_singleton _ _, ?_⟩
    intro other member added same
    rw [List.mem_singleton.mp same]
    exact of_decide_eq_true (List.mem_filter.mp member).2
  stored := by
    intro key found
    rw [bySource_insert_eq_some_iff represents.consistent, represents.stored, Listing.insert,
      List.mem_append, List.mem_filter, List.mem_singleton, decide_eq_true_eq, Apart]
    constructor
    · rintro (⟨rfl, rfl⟩ | ⟨otherKey, ⟨member, keyed⟩, otherOutput⟩)
      · exact ⟨.inr rfl, rfl⟩
      · exact ⟨.inl ⟨member, keyed ▸ otherKey, otherOutput⟩, keyed⟩
    · rintro ⟨⟨member, otherKey, otherOutput⟩ | rfl, rfl⟩
      · exact .inr ⟨otherKey, ⟨member, rfl⟩, otherOutput⟩
      · exact .inl ⟨rfl, rfl⟩

theorem foldl_insert (stored : List Artifact) :
    Represents (stored.foldl Cache.insert cache) (stored.foldl Listing.insert listing) := by
  induction stored generalizing cache listing with
  | nil => exact represents
  | cons first rest ih => exact ih (represents.insert first)

/-- Storing an artifact answers with the one that had its source. The one that it displaces from its
output is not mentioned. -/
theorem upsert_answer (artifact : Artifact) :
    (cache.upsert artifact).1 = Listing.lookup listing artifact.sourcePath := by
  rw [← represents.lookup, Cache.lookup]
  exact withoutOwner_source represents.consistent _ _

theorem remove_answer (source : String) :
    (cache.remove source).1 = Listing.lookup listing source := by
  rw [← represents.lookup, Cache.remove]
  cases cache.lookup source <;> rfl

theorem remove (source : String) :
    Represents (cache.remove source).2 (Listing.remove listing source) where
  consistent := represents.consistent.remove source
  apart := represents.apart.filter _
  stored := by
    intro key artifact
    rw [bySource_remove_eq_some_iff, represents.stored, Listing.remove, List.mem_filter, bne_iff_ne]
    constructor
    · rintro ⟨other, member, rfl⟩
      exact ⟨⟨member, other⟩, rfl⟩
    · rintro ⟨⟨member, other⟩, rfl⟩
      exact ⟨other, member, rfl⟩

/-- An operation gives the answer of the listing, and the cache represents the listing afterwards.
This is the step of the induction over operations. -/
theorem perform (operation : Operation) :
    (operation.perform cache).1 = (operation.list listing).1 ∧
      Represents (operation.perform cache).2 (operation.list listing).2 := by
  cases operation with
  | upsert artifact =>
    exact ⟨congrArg Answer.former (represents.upsert_answer artifact), represents.insert artifact⟩
  | remove source =>
    exact ⟨congrArg Answer.former (represents.remove_answer source), represents.remove source⟩
  | clear => exact ⟨rfl, represents_empty⟩
  | restore stored keep => exact ⟨rfl, represents.foldl_insert (stored.filter keep)⟩

/-- Operations one after another give the answers of the listing, and lead to a cache that
represents the listing they lead to. -/
theorem runAll (operations : List Operation) :
    (Operation.runAll Operation.perform cache operations).1 =
      (Operation.runAll Operation.list listing operations).1 ∧
      Represents (Operation.runAll Operation.perform cache operations).2
        (Operation.runAll Operation.list listing operations).2 := by
  induction operations generalizing cache listing with
  | nil => exact ⟨rfl, represents⟩
  | cons operation rest ih =>
    obtain ⟨answer, next⟩ := represents.perform operation
    obtain ⟨answers, final⟩ := ih next
    exact ⟨List.cons_eq_cons.mpr ⟨answer, answers⟩, final⟩

end Represents

/-- Caches that operations lead to from the empty one. The caches of a running program are of this
kind. -/
def Reachable (cache : Cache) : Prop :=
  ∃ operations, (Operation.runAll Operation.perform empty operations).2 = cache

theorem Reachable.consistent {cache : Cache} (reachable : cache.Reachable) : cache.Consistent := by
  obtain ⟨operations, rfl⟩ := reachable
  exact (represents_empty.runAll operations).2.consistent

/-- The cache answers like a plain list of artifacts. After any operations from the empty cache on,
its two indexes are inverse to each other, and what the operations answered, what both lookups find,
the number of artifacts and their order are those of the listing. -/
theorem answers_of_listing (operations : List Operation) :
    let reached := Operation.runAll Operation.perform empty operations
    let listed := Operation.runAll Operation.list [] operations
    reached.1 = listed.1 ∧ reached.2.Consistent ∧
      (∀ source, reached.2.lookup source = Listing.lookup listed.2 source) ∧
      (∀ output, reached.2.lookupOutput output = Listing.lookupOutput listed.2 output) ∧
      reached.2.size = listed.2.length ∧ reached.2.artifacts = Listing.sorted listed.2 := by
  obtain ⟨answers, represents⟩ := represents_empty.runAll operations
  exact ⟨answers, represents.consistent, represents.lookup, represents.lookupOutput,
    represents.size, represents.artifacts⟩

end DialectLoader.Cache
