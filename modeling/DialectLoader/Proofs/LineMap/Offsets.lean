import Mathlib.Data.List.Induction
import DialectLoader.Proofs.LineMap.Nearest

/-!
# Line maps of reported offsets

Offsets are reported for generated lines in any order, and perhaps more than once for a line; then
the last report counts. An offset behind the end of the source is one of its last line. So every
generated line with a report is mapped to a line that the source has. If the offsets that count grow
with the generated lines, so do the lines they are in, and a lookup between two mapped lines answers
with the line of the first of them. The order therefore survives gaps in the map, offsets that are
repeated and offsets behind the end.

Offsets count bytes of the source as the compiler was given it. That the reports are true of the
code is the compiler's affair and is not assumed.
-/

namespace DialectLoader

namespace Position

variable {text : Bytes} {offset later : Nat}

/-- Every offset is in a line of the text, also one behind its end, which is taken for the end. -/
theorem line_bounds (text : Bytes) (offset : Nat) :
    1 ≤ (lineColumn text offset).1 ∧ (lineColumn text offset).1 ≤ lineCount text := by
  have counted : (text.take offset).count newline ≤ text.count newline :=
    (List.take_sublist offset text).count_le newline
  exact ⟨Nat.le_add_left 1 _, Nat.succ_le_succ counted⟩

/-- A later offset is in the same line or a later one, since no fewer newlines are before it. -/
theorem line_mono (ordered : offset ≤ later) :
    (lineColumn text offset).1 ≤ (lineColumn text later).1 :=
  Nat.succ_le_succ ((List.take_sublist_take_left ordered).count_le newline)

/-- A text has at most one line more than it has bytes, because each newline is a byte. So a bound
on the bytes bounds the lines. -/
theorem lineCount_le (text : Bytes) : lineCount text ≤ text.length + 1 :=
  Nat.succ_le_succ List.count_le_length

end Position

namespace LineMap

/-- The lines on both sides of a map are words of 32 bits. The map itself holds numbers of any size,
so this has to be proved where a line is to be stored in a word. -/
def InWords (lineMap : LineMap) : Prop :=
  ∀ entry ∈ lineMap.toList, entry.1 < Text.wordBound ∧ entry.2 < Text.wordBound

variable {source : Bytes} {reports : List (Nat × Nat)} {generated line query later : Nat}

/-- Another report is entered over the ones before it. The induction over reports goes from the last
one back. -/
theorem ofOffsets_concat (source : Bytes) (reports : List (Nat × Nat)) (generated offset : Nat) :
    ofOffsets source (reports ++ [(generated, offset)]) =
      (ofOffsets source reports).insert generated (Position.lineColumn source offset).1 := by
  simp only [ofOffsets, List.map_append, Std.ExtTreeMap.ofList_eq_insertMany_empty,
    Std.ExtTreeMap.insertMany_append, List.map_cons, List.map_nil,
    Std.ExtTreeMap.insertMany_list_singleton]

/-- A generated line is mapped to the line of the offset that was reported for it last; a line
without a report is not mapped. -/
theorem getElem?_ofOffsets (source : Bytes) (reports : List (Nat × Nat)) (generated : Nat) :
    (ofOffsets source reports)[generated]? =
      (reports.reverse.lookup generated).map fun offset =>
      (Position.lineColumn source offset).1 := by
  induction reports using List.reverseRecOn with
  | nil => rfl
  | append_singleton earlier report ih =>
    obtain ⟨reported, offset⟩ := report
    rw [ofOffsets_concat, Std.ExtTreeMap.getElem?_insert, List.reverse_append,
      List.reverse_singleton, List.singleton_append, List.lookup_cons]
    by_cases here : generated = reported
    · simp [here]
    · simp [Ne.symm here, beq_eq_false_iff_ne.mpr here, ih]

theorem mem_ofOffsets_iff :
    generated ∈ ofOffsets source reports ↔ ∃ offset, (generated, offset) ∈ reports := by
  rw [Std.ExtTreeMap.mem_iff_isSome_getElem?, getElem?_ofOffsets, Option.isSome_map,
    List.lookup_isSome_iff]
  simp

/-- Every line in the map is a line of the source, whatever was reported. -/
theorem bounds_of_getElem?_ofOffsets (found : (ofOffsets source reports)[generated]? = some line) :
    1 ≤ line ∧ line ≤ Position.lineCount source := by
  rw [getElem?_ofOffsets] at found
  obtain ⟨offset, _, rfl⟩ := Option.map_eq_some_iff.mp found
  exact Position.line_bounds source offset

/-- Lookups keep the order of lines if the offsets that count have it. Reports that were overwritten
may be in any order. -/
theorem isNearest_mono
    (sorted : ∀ first offset second other, reports.reverse.lookup first = some offset →
      reports.reverse.lookup second = some other → first ≤ second → offset ≤ other)
    (ordered : query ≤ later) {key laterKey laterLine : Nat}
    (nearest : (ofOffsets source reports).IsNearest query key line)
    (laterNearest : (ofOffsets source reports).IsNearest later laterKey laterLine) :
    line ≤ laterLine := by
  have mapped : key ∈ ofOffsets source reports :=
    Std.ExtTreeMap.mem_iff_isSome_getElem?.mpr (by rw [nearest.entry]; rfl)
  have keys : key ≤ laterKey :=
    laterNearest.greatest key mapped (Nat.le_trans nearest.before ordered)
  have entry := nearest.entry
  have laterEntry := laterNearest.entry
  rw [getElem?_ofOffsets] at entry laterEntry
  obtain ⟨offset, reported, rfl⟩ := Option.map_eq_some_iff.mp entry
  obtain ⟨other, laterReported, rfl⟩ := Option.map_eq_some_iff.mp laterEntry
  exact Position.line_mono (sorted key offset laterKey other reported laterReported keys)

/-- The line map of reported offsets has an entry for exactly the generated lines that were
reported, and it is the line of the offset that was reported last, which is one that the source has.
If these offsets grow with the generated lines, then from the first mapped line on every lookup
answers with the entry of the greatest mapped line up to it, and a later lookup does not answer with
an earlier line. -/
theorem ofOffsets_real_and_ordered (source : Bytes) (reports : List (Nat × Nat))
    (short : source.length < Text.wordBound - 1) :
    (∀ generated : Nat, (ofOffsets source reports)[generated]? =
      (reports.reverse.lookup generated).map fun offset => (Position.lineColumn source offset).1) ∧
    (∀ generated, generated ∈ ofOffsets source reports ↔ ∃ offset, (generated, offset) ∈ reports) ∧
    (∀ generated line : Nat, (ofOffsets source reports)[generated]? = some line →
      1 ≤ line ∧ line ≤ Position.lineCount source ∧ line < Text.wordBound) ∧
    ((∀ first offset second other, reports.reverse.lookup first = some offset →
        reports.reverse.lookup second = some other → first ≤ second → offset ≤ other) →
      ∀ mapped query later, mapped ∈ ofOffsets source reports → mapped ≤ query → query ≤ later →
        ∃ key line laterKey laterLine,
          (ofOffsets source reports).nearest? query = some line ∧
          (ofOffsets source reports).IsNearest query key line ∧
          (ofOffsets source reports).nearest? later = some laterLine ∧
          (ofOffsets source reports).IsNearest later laterKey laterLine ∧
          1 ≤ line ∧ line ≤ laterLine ∧ laterLine ≤ Position.lineCount source) := by
  refine ⟨getElem?_ofOffsets source reports, fun _ => mem_ofOffsets_iff, ?_, ?_⟩
  · intro generated line found
    obtain ⟨least, greatest⟩ := bounds_of_getElem?_ofOffsets found
    have bounded := Position.lineCount_le source
    exact ⟨least, greatest, by omega⟩
  · intro sorted mapped query later known before ordered
    obtain ⟨_, entry⟩ :=
      Option.isSome_iff_exists.mp (Std.ExtTreeMap.mem_iff_isSome_getElem?.mp known)
    obtain ⟨⟨key, line⟩, found⟩ := exists_getEntryLE? entry before
    obtain ⟨⟨laterKey, laterLine⟩, laterFound⟩ :=
      exists_getEntryLE? entry (Nat.le_trans before ordered)
    have nearest := isNearest_of_getEntryLE? found
    have laterNearest := isNearest_of_getEntryLE? laterFound
    exact ⟨key, line, laterKey, laterLine, nearest?_eq_some_iff.mpr ⟨key, nearest⟩, nearest,
      nearest?_eq_some_iff.mpr ⟨laterKey, laterNearest⟩, laterNearest,
      (bounds_of_getElem?_ofOffsets nearest.entry).1,
      isNearest_mono sorted ordered nearest laterNearest,
      (bounds_of_getElem?_ofOffsets laterNearest.entry).2⟩

/-- Four reports for three generated lines, of which the last is behind the end of the source. -/
def scatteredReports : List (Nat × Nat) :=
  [(5, 9), (2, 0), (5, 2), (9, 99)]

/-- The second report for the fifth line counts, the gap behind it belongs to it, and the last line
of the source is the greatest answer. -/
theorem ofOffsets_real_and_ordered_scattered :
    let source := Text.utf8 "a\nb\nc"
    let map := ofOffsets source scatteredReports
    source.length < Text.wordBound - 1 ∧
      (map[2]?, map[5]?, map[9]?) = (some 1, some 2, some 3) ∧ 7 ∉ map ∧
      ∃ line laterLine, map.nearest? 7 = some line ∧ map.nearest? 40 = some laterLine ∧
        1 ≤ line ∧ line ≤ laterLine ∧ laterLine ≤ Position.lineCount source := by
  intro source map
  have short : source.length < Text.wordBound - 1 := by decide
  obtain ⟨entries, mapped, _, ordered⟩ := ofOffsets_real_and_ordered source scatteredReports short
  have sorted : ∀ first offset second other, scatteredReports.reverse.lookup first = some offset →
      scatteredReports.reverse.lookup second = some other → first ≤ second → offset ≤ other := by
    have counted {generated offset : Nat}
        (reported : scatteredReports.reverse.lookup generated = some offset) :
        (generated, offset) ∈ [(2, 0), (5, 2), (9, 99)] := by
      have known : (scatteredReports.reverse.lookup generated).isSome := by rw [reported]; rfl
      have keys : generated = 9 ∨ generated = 5 ∨ generated = 2 := by
        rw [List.lookup_isSome_iff] at known
        simp [scatteredReports] at known
        omega
      rcases keys with rfl | rfl | rfl <;> cases reported <;> decide
    have growing : ∀ report ∈ [(2, 0), (5, 2), (9, 99)], ∀ other ∈ [(2, 0), (5, 2), (9, 99)],
        report.1 ≤ other.1 → report.2 ≤ other.2 := by
      decide
    intro first offset second other reported laterReported before
    exact growing _ (counted reported) _ (counted laterReported) before
  obtain ⟨_, line, _, laterLine, found, _, laterFound, _, bounds⟩ :=
    ordered sorted 2 7 40 ((mapped 2).mpr ⟨0, by decide⟩) (by decide) (by decide)
  refine ⟨short, ?_, ?_, line, laterLine, found, laterFound, bounds⟩
  · rw [entries, entries, entries]
    decide
  · rw [mapped]
    simp [scatteredReports]

end LineMap

end DialectLoader
