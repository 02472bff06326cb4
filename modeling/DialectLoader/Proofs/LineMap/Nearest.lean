import DialectLoader.LineMap

/-!
# The nearest mapped line

A generated line belongs to the source line of the greatest mapped line at or before it. The lookup
descends a search tree; what it finds is said here of the entries alone. The entries are listed by
their lines, and the last one that does not come after a line is the one that the lookup finds.

Nothing is assumed about the entries: a map may have gaps, and source lines need not grow with
generated ones.
-/

namespace DialectLoader.LineMap

/-- An entry that stands for a generated line: it is mapped at or before that line, and no other
mapped line up to it is greater. -/
structure IsNearest (map : LineMap) (line generated source : Nat) : Prop where
  entry : map[generated]? = some source
  before : generated ≤ line
  greatest : ∀ other ∈ map, other ≤ line → other ≤ generated

/-- At most one entry stands for a line, so the source line that a lookup answers with is settled by
the entries. -/
theorem IsNearest.unique {map : LineMap} {line generated source otherGenerated otherSource : Nat}
    (nearest : map.IsNearest line generated source)
    (other : map.IsNearest line otherGenerated otherSource) :
    source = otherSource := by
  have mapped {key value : Nat} (entry : map[key]? = some value) : key ∈ map :=
    Std.ExtTreeMap.mem_iff_isSome_getElem?.mpr (by rw [entry]; rfl)
  have below := other.greatest generated (mapped nearest.entry) nearest.before
  have above := nearest.greatest otherGenerated (mapped other.entry) other.before
  have same : generated = otherGenerated := Nat.le_antisymm below above
  have entry := nearest.entry
  rw [same, other.entry] at entry
  exact (Option.some.inj entry).symm

/-- The lookup finds the last of the entries that does not come after the line. This takes the
search tree out of what follows. -/
theorem getEntryLE?_eq_find? (map : LineMap) (line : Nat) :
    map.getEntryLE? line = map.toList.reverse.find? fun entry => decide (entry.1 ≤ line) := by
  obtain ⟨inner⟩ := map
  induction inner using Std.ExtDTreeMap.inductionOn with
  | mk tree =>
    change Std.DTreeMap.Internal.Impl.Const.getEntryLE? line tree.inner =
      (Std.DTreeMap.Internal.Impl.Const.toList tree.inner).reverse.find? _
    rw [Std.DTreeMap.Internal.Impl.Const.getEntryLE?_eq_map,
      Std.DTreeMap.Internal.Impl.getEntryLE?_eq_findRev? tree.wf.ordered,
      Std.DTreeMap.Internal.Impl.Const.toList_eq_toListModel_map, List.findRev?_eq_find?_reverse,
      ← List.map_reverse, List.find?_map]
    refine congrArg (Option.map _) (congrArg (List.find? · _) (funext fun entry => ?_))
    rw [Bool.eq_iff_iff, Nat.isLE_compare]
    simp

/-- What the lookup finds is the entry of the nearest mapped line, as entries are listed by their
lines. -/
theorem isNearest_of_getEntryLE? {map : LineMap} {line generated source : Nat}
    (found : map.getEntryLE? line = some (generated, source)) :
    map.IsNearest line generated source := by
  rw [getEntryLE?_eq_find?, List.find?_eq_some_iff_append] at found
  obtain ⟨before, greater, smaller, listed, after⟩ := found
  have ordered : (greater ++ (generated, source) :: smaller).Pairwise fun left right =>
      compare right.1 left.1 = .lt :=
    listed ▸ List.pairwise_reverse.mpr Std.ExtTreeMap.ordered_keys_toList
  have entries {key value : Nat} :
      map[key]? = some value ↔ (key, value) ∈ greater ++ (generated, source) :: smaller := by
    rw [← listed, List.mem_reverse, Std.ExtTreeMap.mem_toList_iff_getElem?_eq_some]
  refine ⟨entries.mpr (by simp), of_decide_eq_true before, fun other mapped bounded => ?_⟩
  obtain ⟨value, entry⟩ :=
    Option.isSome_iff_exists.mp (Std.ExtTreeMap.mem_iff_isSome_getElem?.mp mapped)
  rcases List.mem_append.mp (entries.mp entry) with late | here
  · have beyond := after _ late
    simp [bounded] at beyond
  · rcases List.mem_cons.mp here with same | early
    · exact Nat.le_of_eq (Prod.mk.inj same).1
    · have earlier := (List.pairwise_cons.mp (List.pairwise_append.mp ordered).2.1).1 _ early
      exact Nat.le_of_lt (Nat.compare_eq_lt.mp earlier)

/-- From a mapped line on there is something to be found, so a lookup fails only before the first
mapped line. -/
theorem exists_getEntryLE? {map : LineMap} {line generated source : Nat}
    (entry : map[generated]? = some source) (before : generated ≤ line) :
    ∃ found, map.getEntryLE? line = some found := by
  cases found : map.getEntryLE? line with
  | some entry => exact ⟨entry, rfl⟩
  | none =>
    rw [getEntryLE?_eq_find?, List.find?_eq_none] at found
    have listed := Std.ExtTreeMap.mem_toList_iff_getElem?_eq_some.mpr entry
    exact absurd (decide_eq_true before) (found _ (List.mem_reverse.mpr listed))

/-- The source line that is found for a line is that of the nearest mapped line, and none is found
if there is no such line. -/
theorem nearest?_eq_some_iff {map : LineMap} {line source : Nat} :
    map.nearest? line = some source ↔ ∃ generated, map.IsNearest line generated source := by
  constructor
  · intro found
    obtain ⟨⟨generated, _⟩, there, rfl⟩ := Option.map_eq_some_iff.mp found
    exact ⟨generated, isNearest_of_getEntryLE? there⟩
  · rintro ⟨generated, nearest⟩
    obtain ⟨entry, found⟩ := exists_getEntryLE? nearest.entry nearest.before
    rw [nearest?, found, Option.map_some, (isNearest_of_getEntryLE? found).unique nearest]

end DialectLoader.LineMap
