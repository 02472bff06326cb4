import Mathlib.Order.Bounds.Defs
import DialectLoader.Excerpt
import DialectLoader.Proofs.Text.Decimal
import DialectLoader.Proofs.Text.Encoding
import DialectLoader.Proofs.Text.Lines
import DialectLoader.Proofs.Text.Trimming

/-!
# Rows of an excerpt

An excerpt has one row for each line of its window. A row starts with the mark and the number, which
is written to the right end of a column, so all bars stand in one place. What follows the bar is the
line of the source. Indentation is counted in bytes over all visible lines and taken off each line:
it never reaches beyond the blanks that start a visible line, and a line in which it ends inside a
character loses all these blanks. So no row loses anything but blanks. If all blanks that start
lines are single bytes, every visible line loses as many characters as the least indented one has.

How wide characters are on a screen is not considered: bars stand in one place as characters are
counted.
-/

namespace DialectLoader.Excerpt

open Text (isBlank byteLength trim trimEnd decimal)

variable {line text front : List Char} {bytes : Nat}

/-- Bytes are dropped exactly if they end between two characters; within a character there is no
place to cut. -/
theorem dropBytes?_eq_some_iff {rest : List Char} :
    dropBytes? bytes line = some rest ↔ ∃ front, line = front ++ rest ∧
    byteLength front = bytes := by
  fun_induction dropBytes? bytes line with
  | case1 line =>
    constructor
    · intro same
      exact ⟨[], by simpa using same, rfl⟩
    · rintro ⟨front, rfl, none⟩
      cases front with
      | nil => rfl
      | cons c front =>
        have positive := c.utf8Size_pos
        rw [byteLength] at none
        omega
  | case2 bytes =>
    constructor
    · intro impossible
      cases impossible
    · rintro ⟨front, whole, counted⟩
      obtain ⟨rfl, _⟩ := List.append_eq_nil_iff.mp whole.symm
      cases counted
  | case3 bytes c line fits ih =>
    rw [ih]
    constructor
    · rintro ⟨front, rfl, counted⟩
      exact ⟨c :: front, rfl, by rw [byteLength, counted, Nat.add_sub_cancel' fits]⟩
    · rintro ⟨front, whole, counted⟩
      cases front with
      | nil => cases counted
      | cons first front =>
        obtain ⟨rfl, rfl⟩ := List.cons.inj whole
        exact ⟨front, rfl, by rw [byteLength] at counted; omega⟩
  | case4 bytes c line large =>
    constructor
    · intro impossible
      cases impossible
    · rintro ⟨front, whole, counted⟩
      cases front with
      | nil => cases counted
      | cons first front =>
        obtain ⟨rfl, _⟩ := List.cons.inj whole
        rw [byteLength] at counted
        omega

/-- Of two starts of a line the one with fewer bytes is a start of the other one. -/
theorem prefix_of_byteLength_le {longer : List Char} (first : front <+: line)
    (second : longer <+: line) (fewer : byteLength front ≤ byteLength longer) :
    front <+: longer := by
  rcases List.prefix_or_prefix_of_prefix first second with start | ⟨more, rfl⟩
  · exact start
  · cases more with
    | nil => simp
    | cons c more =>
      have positive := c.utf8Size_pos
      rw [Text.byteLength_append, byteLength] at fewer
      omega

/-- What is taken off a line is blank, if the line is or if it is indented by as many bytes. These
are the lines that excerpts have. -/
theorem exists_blank_unindent (within : line.all isBlank = true ∨ bytes ≤ indentation line) :
    ∃ front, (∀ c ∈ front, isBlank c = true) ∧ line = front ++ unindent bytes line := by
  have start : line.takeWhile isBlank <+: line := List.takeWhile_prefix isBlank
  unfold unindent
  cases dropped : dropBytes? bytes line with
  | none =>
    refine ⟨line.takeWhile isBlank, fun c member => List.mem_takeWhile_imp member, ?_⟩
    exact List.takeWhile_append_dropWhile.symm
  | some rest =>
    obtain ⟨front, whole, counted⟩ := dropBytes?_eq_some_iff.mp dropped
    refine ⟨front, fun c member => ?_, whole⟩
    rcases within with blank | deep
    · exact List.all_eq_true.mp blank c (by rw [whole]; exact List.mem_append_left _ member)
    · have inside : front <+: line.takeWhile isBlank :=
        prefix_of_byteLength_le ⟨rest, whole.symm⟩ start (by rw [counted]; exact deep)
      exact List.mem_takeWhile_imp (inside.subset member)

/-- One byte of a line that starts with a blank of two bytes. -/
example : unindent 1 ['\u00a0', 'a'] = ['a'] := by decide

/-- The common indentation is the smallest one of the visible lines. Blank lines do not count,
however short they are. -/
theorem isLeast_commonIndentation {lines : List (List Char)} (member : line ∈ lines)
    (visible : line.all isBlank = false) :
    IsLeast {depth | ∃ other ∈ lines, other.all isBlank = false ∧ indentation other = depth}
      (commonIndentation lines) := by
  have listed : indentation line ∈ (lines.filter (!·.all isBlank)).map indentation :=
    List.mem_map_of_mem (List.mem_filter.mpr ⟨member, by simp [visible]⟩)
  unfold commonIndentation
  cases least : ((lines.filter (!·.all isBlank)).map indentation).min? with
  | none =>
    rw [List.min?_eq_none_iff.mp least] at listed
    cases listed
  | some depth =>
    obtain ⟨found, smallest⟩ := List.min?_eq_some_iff.mp least
    constructor
    · obtain ⟨other, kept, same⟩ := List.mem_map.mp found
      obtain ⟨inside, shown⟩ := List.mem_filter.mp kept
      exact ⟨other, inside, by simpa using shown, same⟩
    · rintro _ ⟨other, inside, shown, rfl⟩
      exact smallest _ (List.mem_map_of_mem (List.mem_filter.mpr ⟨inside, by simp [shown]⟩))

theorem byteLength_of_single (single : ∀ c ∈ text, c.utf8Size = 1) :
    byteLength text = text.length := by
  induction text with
  | nil => rfl
  | cons c rest ih =>
    obtain ⟨here, later⟩ := List.forall_mem_cons.mp single
    rw [byteLength, here, ih later, List.length_cons, Nat.add_comm]

/-- If the blanks of a line are single bytes, bytes are dropped as characters, and the indentation
comes off exactly. -/
theorem unindent_of_single (single : ∀ c ∈ line.takeWhile isBlank, c.utf8Size = 1)
    (deep : bytes ≤ (line.takeWhile isBlank).length) : unindent bytes line = line.drop bytes := by
  have start : line.take bytes = (line.takeWhile isBlank).take bytes := by
    have whole := @List.takeWhile_append_dropWhile _ isBlank line
    conv => lhs; rw [← whole]
    exact List.take_append_of_le_length deep
  have counted : byteLength (line.take bytes) = bytes := by
    rw [start, byteLength_of_single fun c member => single c (List.mem_of_mem_take member),
      List.length_take, Nat.min_eq_left deep]
  have dropped : dropBytes? bytes line = some (line.drop bytes) :=
    dropBytes?_eq_some_iff.mpr ⟨line.take bytes, (List.take_append_drop bytes line).symm, counted⟩
  rw [unindent, dropped, Option.getD_some]

/-- A number that is not too long for the column fills it exactly, so all bars stand in one
place. -/
theorem length_padded {width number : Nat} (fits : (decimal number).length ≤ width) :
    (padded width number).length = width := by
  rw [padded, List.length_append, List.length_replicate]
  omega

/-- Trimming a row stops at the bar, which is visible. So mark, number and bar are there even in
front of an empty line. -/
theorem row_eq (marked : Bool) (width number : Nat) (text : List Char) :
    row marked width number text =
      (if marked then '>' else ' ') :: ' ' ::
      (padded width number ++ ' ' :: '|' :: trimEnd (' ' :: text)) := by
  have bar : " | ".toList = [' ', '|', ' '] := by decide
  have visible : isBlank '|' = false := by decide
  have stops := @Text.trimEnd_append_visible
    ((if marked then '>' else ' ') :: ' ' :: padded width number ++ [' ']) (' ' :: text) '|' visible
  rw [row, bar]
  simpa using stops

/-- How a row shows a line of the source, if the line in question and the last line of the excerpt
are given. -/
structure IsRow (line last number : Nat) (text row : List Char) : Prop where
  /-- The line in question is marked and no other one. -/
  mark : row.head? = some (if number = line then '>' else ' ')
  /-- The number stands at the right end of a column that is as wide as the last number. -/
  aligned : ∃ blanks, (row.drop 1).take ((decimal last).length + 1) =
    ' ' :: (List.replicate blanks ' ' ++ decimal number)
  /-- The bar stands behind the column. -/
  bar : (row.drop ((decimal last).length + 2)).take 2 = [' ', '|']
  /-- Behind the bar is the text, up to blanks at its ends. -/
  text : trim (row.drop ((decimal last).length + 4)) = trim text

theorem drop_row {width number : Nat} (fits : (decimal number).length ≤ width) (marked : Bool)
    (text : List Char) :
    (row marked width number text).drop (width + 4) = trimEnd (' ' :: text) := by
  have length := length_padded fits
  have shape : row marked width number text =
      ((if marked then '>' else ' ') :: ' ' :: (padded width number ++ [' ', '|'])) ++
        trimEnd (' ' :: text) := by
    rw [row_eq]
    simp
  rw [shape, List.drop_left' (by simp [length])]

/-- A row shows a line of which blanks were taken off at the start, provided that the number is not
beyond the last one. -/
theorem isRow_row {line last number : Nat} {left : List Char} (bounded : number ≤ last)
    (blank : ∀ c ∈ front, isBlank c = true) (whole : text = front ++ left) :
    IsRow line last number text (row (number = line) (decimal last).length number left) := by
  have fits := Text.length_decimal_mono bounded
  have length := length_padded fits
  refine ⟨?_, ?_, ?_, ?_⟩
  · simp [row_eq]
  · refine ⟨(decimal last).length - (decimal number).length, ?_⟩
    rw [row_eq, List.drop_succ_cons, List.drop_zero, List.take_succ_cons, List.take_left' length]
    rfl
  · rw [row_eq, List.drop_succ_cons, List.drop_succ_cons, List.drop_left' length]
    rfl
  · have gap : ∀ c ∈ [' '], isBlank c = true := by
      intro c member
      rw [List.mem_singleton.mp member]
      decide
    rw [drop_row fits, Text.trim_trimEnd, whole, Text.trim_blank_append blank]
    exact Text.trim_blank_append gap

/-- Rows have no newline in them if the lines have none, so an excerpt can be cut into its rows
again. -/
theorem newline_not_mem_row (clear : '\n' ∉ text) (marked : Bool) (width number : Nat) :
    '\n' ∉ row marked width number text := by
  obtain ⟨back, _, whole⟩ := Text.exists_trimEnd_append (' ' :: text)
  have behind : '\n' ∉ trimEnd (' ' :: text) := by
    intro member
    have inside : '\n' ∈ ' ' :: text := by
      rw [whole]
      exact List.mem_append_left _ member
    rcases List.mem_cons.mp inside with other | later
    · exact absurd other (by decide)
    · exact clear later
  have column : '\n' ∉ padded width number := by
    intro member
    rcases List.mem_append.mp member with filled | digit
    · exact absurd (List.eq_of_mem_replicate filled) (by decide)
    · exact absurd (Text.isDigit_of_mem_decimal digit) (by decide)
  rw [row_eq]
  cases marked <;> simp [column, behind]

/-- The window holds the lines from its first to its last number, as far as the source has them. -/
theorem getElem?_window {lines : List (List Char)} {first : Nat} (positive : 1 ≤ first)
    (last index : Nat) :
    (window lines first last)[index]? =
      if first + index ≤ last then lines[first + index - 1]?.map (first + index, ·) else none := by
  have place : first - 1 + index = first + index - 1 := by omega
  have counted : first + index - 1 + 1 = first + index := by omega
  rw [window, List.getElem?_drop, List.getElem?_take, place]
  by_cases inside : first + index ≤ last
  · rw [if_pos (show first + index - 1 < last by omega), if_pos inside]
    simp [Text.numbered, List.getElem?_zipIdx, counted, Function.comp_def]
  · rw [if_neg (show ¬ first + index - 1 < last by omega), if_neg inside]

/-- The lines of a source from one number to another, with their numbers. This is the window without
a list. -/
def shownLines (source : String) (first last : Nat) : Set (Nat × List Char) :=
  {entry | (first ≤ entry.1 ∧ entry.1 ≤ last) ∧
    (Text.lines source.toList)[entry.1 - 1]? = some entry.2}

/-- The numbers of blanks that start visible lines, over all lines that are shown. -/
def indentations (shown : Set (Nat × List Char)) : Set Nat :=
  {depth | ∃ entry ∈ shown, entry.2.all isBlank = false ∧
    (entry.2.takeWhile isBlank).length = depth}

section Window

variable {source : String} {first last : Nat} (positive : 1 ≤ first) {entry : Nat × List Char}

include positive

/-- A line that is shown stands in the window where its number says, counted from the first one. -/
theorem getElem?_window_of_shown (shown : entry ∈ shownLines source first last) :
    (window (Text.lines source.toList) first last)[entry.1 - first]? = some entry := by
  obtain ⟨⟨least, greatest⟩, found⟩ := shown
  have place : first + (entry.1 - first) = entry.1 := by omega
  rw [getElem?_window positive, place, if_pos greatest, found]
  rfl

theorem mem_window_iff :
    entry ∈ window (Text.lines source.toList) first last ↔
      entry ∈ shownLines source first last := by
  constructor
  · intro member
    obtain ⟨index, found⟩ := List.mem_iff_getElem?.mp member
    rw [getElem?_window positive] at found
    split at found
    · rename_i inside
      obtain ⟨text, listed, rfl⟩ := Option.map_eq_some_iff.mp found
      exact ⟨⟨Nat.le_add_right _ _, inside⟩, listed⟩
    · cases found
  · intro shown
    exact List.mem_of_getElem? (getElem?_window_of_shown positive shown)

end Window

/-- If the blanks that start lines are single bytes, the common indentation is counted in
characters, and it is the least of the visible lines. -/
theorem isLeast_indentations {lines : List (Nat × List Char)} {shown : Set (Nat × List Char)}
    (listed : ∀ entry, entry ∈ lines ↔ entry ∈ shown)
    (single : ∀ entry ∈ shown, ∀ c ∈ entry.2.takeWhile isBlank, c.utf8Size = 1)
    {entry : Nat × List Char} (member : entry ∈ shown) (visible : entry.2.all isBlank = false) :
    IsLeast (indentations shown) (commonIndentation (lines.map (·.2))) := by
  have counted {other : Nat × List Char} (inside : other ∈ shown) :
      indentation other.2 = (other.2.takeWhile isBlank).length :=
        byteLength_of_single (single other inside)
  have there : entry.2 ∈ lines.map (·.2) := List.mem_map_of_mem ((listed entry).mpr member)
  obtain ⟨⟨text, found, shows, same⟩, smallest⟩ := isLeast_commonIndentation there visible
  obtain ⟨other, inside, rfl⟩ := List.mem_map.mp found
  constructor
  · exact ⟨other, (listed other).mp inside,
      shows, by rw [← same, counted ((listed other).mp inside)]⟩
  · rintro _ ⟨other, inside, shows, rfl⟩
    rw [← counted inside]
    exact smallest ⟨other.2, List.mem_map_of_mem ((listed other).mpr inside), shows, rfl⟩

theorem trimEnd_cons_of_visible (c : Char) (visible : text.all isBlank = false) :
    trimEnd (c :: text) = c :: trimEnd text := by
  obtain ⟨shown, member, shows⟩ : ∃ shown ∈ text, isBlank shown = false := by simpa using visible
  obtain ⟨front, back, rfl⟩ := List.append_of_mem member
  rw [← List.cons_append, Text.trimEnd_append_visible shows, Text.trimEnd_append_visible shows]
  rfl

/-- What is left of a visible line without blanks that start it is visible, so trimming its end
stops within it. -/
theorem visible_drop (visible : line.all isBlank = false)
    (deep : bytes ≤ (line.takeWhile isBlank).length) :
    (line.drop bytes).all isBlank = false := by
  rw [Bool.eq_false_iff]
  intro blank
  rw [Bool.eq_false_iff] at visible
  apply visible
  rw [← List.take_append_drop bytes line, List.all_append, blank, Bool.and_true, List.all_eq_true]
  intro c member
  have start : line.take bytes <+: line.takeWhile isBlank := by
    refine List.prefix_of_prefix_length_le (List.take_prefix bytes line)
      (List.takeWhile_prefix isBlank) ?_
    rw [List.length_take]
    omega
  exact List.mem_takeWhile_imp (start.subset member)

/-- The rows of the lines from one number to another, before they are joined with newlines. -/
def rows (source : String) (line first last : Nat) : List (List Char) :=
  let shown := window (Text.lines source.toList) first last
  shown.map fun entry =>
    row (entry.1 = line) (decimal last).length entry.1
      (unindent (commonIndentation (shown.map (·.2))) entry.2)

/-- There is no excerpt exactly if the source does not have the line. How many lines are wanted
around it makes no difference. -/
theorem render?_eq_none_iff {source : String} {line before after : Nat} :
    render? source line before after = none ↔ line = 0 ∨
    (Text.lines source.toList).length < line := by
  unfold render?
  dsimp only
  split <;> simp_all

/-- An excerpt consists of its rows, each of them ended by a newline, and the window is cut off at
both ends of the source. -/
theorem toList_of_render? {source excerpt : String} {line before after : Nat}
    (rendered : render? source line before after = some excerpt) :
    excerpt.toList =
      (rows source line (max (line - before) 1)
        (min (line + after) (Text.lines source.toList).length)).flatMap (· ++ ['\n']) := by
  unfold render? at rendered
  dsimp only at rendered
  split at rendered
  · cases rendered
  · rw [← Option.some.inj rendered, String.toList_ofList, rows, List.flatMap_map]

section Rows

variable {source : String} {number first last : Nat} {entry : Nat × List Char}

/-- The row of a line that is shown, at the place that its number gives it among the rows. -/
theorem getElem?_rows (positive : 1 ≤ first) (shown : entry ∈ shownLines source first last) :
    (rows source number first last)[entry.1 - first]? =
      some (row (entry.1 = number) (decimal last).length entry.1
        (unindent (commonIndentation ((window (Text.lines source.toList) first last).map (·.2)))
          entry.2)) := by
  rw [rows, List.getElem?_map, getElem?_window_of_shown positive shown]
  rfl

/-- There is one row for each line that is shown, also for blank ones. -/
theorem length_rows (positive : 1 ≤ first) (inside : last ≤ (Text.lines source.toList).length) :
    (rows source number first last).length = last + 1 - first := by
  simp only [rows, window, Text.numbered, List.length_map, List.length_drop, List.length_take,
    List.length_zipIdx]
  omega

theorem isRow_rows (positive : 1 ≤ first) (shown : entry ∈ shownLines source first last)
    {shape : List Char} (found : (rows source number first last)[entry.1 - first]? = some shape) :
    IsRow number last entry.1 entry.2 shape ∧ '\n' ∉ shape := by
  rw [getElem?_rows positive shown] at found
  obtain rfl := Option.some.inj found
  have member : entry.2 ∈ (window (Text.lines source.toList) first last).map (·.2) :=
    List.mem_map_of_mem ((mem_window_iff positive).mpr shown)
  obtain ⟨front, blank, whole⟩ : ∃ front, (∀ c ∈ front, isBlank c = true) ∧
      entry.2 = front ++ unindent
        (commonIndentation ((window (Text.lines source.toList) first last).map (·.2))) entry.2 := by
    apply exists_blank_unindent
    cases visible : entry.2.all isBlank with
    | true => exact .inl rfl
    | false =>
      exact .inr ((isLeast_commonIndentation member visible).2 ⟨entry.2, member, visible, rfl⟩)
  constructor
  · exact isRow_row shown.1.2 blank whole
  · apply newline_not_mem_row
    intro newline
    have clear := (Text.getElem?_lines_iff.mp shown.2).clear
    rw [whole] at clear
    exact clear (List.mem_append_right _ newline)

/-- The row of a visible line, if the blanks that start lines are single bytes: the line without the
common indentation and the blanks at its end. -/
theorem drop_rows (positive : 1 ≤ first) (shown : entry ∈ shownLines source first last)
    {shape : List Char} (found : (rows source number first last)[entry.1 - first]? = some shape)
    (single : ∀ other ∈ shownLines source first last, ∀ c ∈ other.2.takeWhile isBlank,
      c.utf8Size = 1)
    (visible : entry.2.all isBlank = false) :
    ∃ depth, IsLeast (indentations (shownLines source first last)) depth ∧
      shape.drop ((decimal last).length + 4) = ' ' :: trimEnd (entry.2.drop depth) := by
  rw [getElem?_rows positive shown] at found
  obtain rfl := Option.some.inj found
  have least := isLeast_indentations (fun other => mem_window_iff positive) single shown visible
  have deep := least.2 ⟨entry, shown, visible, rfl⟩
  refine ⟨_, least, ?_⟩
  rw [drop_row (Text.length_decimal_mono shown.1.2), unindent_of_single (single entry shown) deep,
    trimEnd_cons_of_visible _ (visible_drop visible deep)]

end Rows

/-- There is an excerpt exactly if the source has the line in question. It has a row for each line
from the first to the last one of the window, ended by a newline, and the window does not reach
beyond the source. Every row shows its line. If the blanks that start the lines of the window are
single bytes, a visible line is shown without as many of them as the least indented visible line
has, and without the blanks at its end. -/
theorem excerpt_shows_window (source : String) (line before after : Nat) :
    let lines := Text.lines source.toList
    let first := max (line - before) 1
    let last := min (line + after) lines.length
    let shown := shownLines source first last
    (render? source line before after = none ↔ line = 0 ∨ lines.length < line) ∧
    ∀ excerpt, render? source line before after = some excerpt →
      (first ≤ line ∧ line ≤ last ∧ last ≤ lines.length) ∧
      ∃ rows : List (List Char), excerpt.toList = rows.flatMap (· ++ ['\n']) ∧
        rows.length = last + 1 - first ∧
        ∀ entry ∈ shown, ∃ row, rows[entry.1 - first]? = some row ∧ '\n' ∉ row ∧
          IsRow line last entry.1 entry.2 row ∧
          ((∀ other ∈ shown, ∀ c ∈ other.2.takeWhile isBlank, c.utf8Size = 1) →
            entry.2.all isBlank = false → ∃ depth, IsLeast (indentations shown) depth ∧
              row.drop ((decimal last).length + 4) = ' ' :: trimEnd (entry.2.drop depth)) := by
  intro lines first last shown
  have positive : 1 ≤ first := Nat.le_max_right _ _
  have inside : last ≤ lines.length := Nat.min_le_right _ _
  refine ⟨render?_eq_none_iff, fun excerpt rendered => ⟨?_, ?_⟩⟩
  · have known : ¬ (line = 0 ∨ lines.length < line) := by
      intro missing
      rw [render?_eq_none_iff.mpr missing] at rendered
      cases rendered
    omega
  · refine ⟨rows source line first last, toList_of_render? rendered, length_rows positive inside,
      fun entry member => ?_⟩
    have found := @getElem?_rows source line first last entry positive member
    obtain ⟨shows, clear⟩ := isRow_rows positive member found
    exact ⟨_, found, clear, shows, drop_rows positive member found⟩

/-- The window of the fourth line starts behind the first one and ends with the source. Its least
indented line has two blanks; the empty line does not count. -/
theorem excerpt_shows_window_indented :
    let source := "if x\n  y\n\n    z\n"
    render? source 4 2 9 = some "  2 | y\n  3 |\n> 4 |   z\n" ∧
      ∃ rows : List (List Char), rows.length = 3 ∧ ∃ row, rows[2]? = some row ∧
        IsRow 4 4 4 "    z".toList row ∧
        ∃ depth, IsLeast (indentations (shownLines source 2 4)) depth ∧
          row.drop 5 = ' ' :: trimEnd ("    z".toList.drop depth) := by
  intro source
  have rendered : render? source 4 2 9 = some "  2 | y\n  3 |\n> 4 |   z\n" := by decide +kernel
  have cut : Text.lines source.toList = ["if x".toList, "  y".toList, [], "    z".toList] := by
    decide +kernel
  have last : min (4 + 9) (Text.lines source.toList).length = 4 := by rw [cut]; rfl
  have window := excerpt_shows_window source 4 2 9
  dsimp only at window
  rw [last] at window
  obtain ⟨_, rows, _, length, each⟩ := window.2 _ rendered
  obtain ⟨row, found, _, shows, unindented⟩ :=
    each (4, "    z".toList) ⟨by decide, by rw [cut]; rfl⟩
  refine ⟨rendered, rows, length, row, found, shows, unindented ?_ (by decide)⟩
  rintro ⟨number, text⟩ ⟨⟨least, greatest⟩, listed⟩ c member
  have spaces : text.takeWhile isBlank = List.replicate (text.takeWhile isBlank).length ' ' := by
    rw [cut] at listed
    obtain rfl | rfl | rfl : number = 2 ∨ number = 3 ∨ number = 4 := by
      dsimp only at least greatest
      omega
    all_goals
      obtain rfl := Option.some.inj listed
      decide
  rw [spaces] at member
  rw [List.eq_of_mem_replicate member]
  rfl

end DialectLoader.Excerpt
