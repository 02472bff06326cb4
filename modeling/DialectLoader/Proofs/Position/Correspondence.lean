import Mathlib.Data.Prod.Lex
import Mathlib.Data.Set.Function
import Mathlib.Order.Interval.Set.Defs
import DialectLoader.Position
import DialectLoader.Proofs.Text.Pieces
import DialectLoader.Text.Digit

/-!
# Offsets and places

A position in a text is an offset, or a line and the bytes of that line before it. One function
counts the newlines before an offset, the other looks for the start of a line. They are compared at
a line in its place: it starts behind the text before it, and its number is one more than the
newlines there.

The end of a line, where its newline stands or the text ends, is a position of that line. So a line
has one more position than it has bytes, and the positions of all lines are the offsets up to the
end of the text.

Columns count bytes, so a place may be within a character; nothing here asks whether the text is
UTF-8. Numbers are unbounded, and that they fit machine words is proved of short texts.
-/

namespace DialectLoader.Position

open Text (PieceAt)

variable {text before content behind : Bytes}

/-- The lines of a text, without their newlines. A carriage return stays, and an empty line at the
end counts. -/
def lineTexts (text : Bytes) : List Bytes :=
  Text.pieces (· == newline) text

/-- The number of bytes in a line, and zero for a line that the text does not have. -/
def lineLength (text : Bytes) (line : Nat) : Nat :=
  ((lineTexts text)[line - 1]?.getD []).length

/-- The pairs of a line and a column that are positions of a text: one for each byte of a line, and
one for its end. -/
def places (text : Bytes) : Set (Nat × Nat) :=
  {place | (1 ≤ place.1 ∧ place.1 ≤ lineCount text) ∧ 1 ≤ place.2 ∧
    place.2 ≤ lineLength text place.1 + 1}

theorem length_lineTexts (text : Bytes) : (lineTexts text).length = lineCount text :=
  Text.length_pieces _ text

/-- A piece between newlines is the line with one more than the newlines before it. This is how
lines are found in their places. -/
theorem lineLength_of_pieceAt (placed : PieceAt (· == newline) text before content behind) :
    lineLength text (before.count newline + 1) = content.length := by
  have found : (lineTexts text)[before.count newline]? = some content := placed.getElem?
  simp [lineLength, found]

/-- A line has a number up to that of the last one, since the newlines before it are newlines of the
text. -/
theorem count_lt_lineCount (placed : PieceAt (· == newline) text before content behind) :
    before.count newline + 1 ≤ lineCount text := by
  rw [lineCount, placed.whole, List.count_append]
  omega

/-- Every number up to that of the last line is the number of a line, and the line has its place. -/
theorem exists_pieceAt_of_line {line : Nat} (first : 1 ≤ line) (last : line ≤ lineCount text) :
    ∃ before content behind, PieceAt (· == newline) text before content behind ∧
      before.count newline + 1 = line := by
  have inside : line - 1 < (lineTexts text).length := by
    rw [length_lineTexts]
    omega
  obtain ⟨before, behind, placed, counted⟩ := Text.exists_pieceAt (List.getElem?_eq_getElem inside)
  refine ⟨before, _, behind, placed, ?_⟩
  have same : before.count newline = line - 1 := counted
  omega

section Places

/-- Bytes that end in a newline show no column to what follows them, so columns are counted within
the line. -/
theorem takeWhile_reverse_of_opened
    (opened : before = [] ∨ ∃ front separator, before = front ++ [separator] ∧
      (separator == newline) = true) :
    before.reverse.takeWhile (· != newline) = [] := by
  rcases opened with rfl | ⟨front, separator, rfl, separates⟩
  · rfl
  · simp [beq_iff_eq.mp separates]

/-- An offset into a line has its number, and a column that counts the bytes of the line before it.
The end of the line is included. -/
theorem lineColumn_of_pieceAt (placed : PieceAt (· == newline) text before content behind)
    {bytes : Nat} (inside : bytes ≤ content.length) :
    lineColumn text (before.length + bytes) = (before.count newline + 1, bytes + 1) := by
  have cut : text.take (before.length + bytes) = before ++ content.take bytes := by
    rw [placed.whole, List.take_length_add_append, List.take_append_of_le_length inside]
  have clear : ∀ byte ∈ content.take bytes, (byte == newline) = false :=
    fun byte member => placed.clear byte (List.mem_of_mem_take member)
  have none : (content.take bytes).count newline = 0 := by
    rw [List.count_eq_zero]
    intro member
    simpa using clear newline member
  have column : (before ++ content.take bytes).reverse.takeWhile (· != newline) =
      (content.take bytes).reverse := by
    rw [List.reverse_append, List.takeWhile_append_of_pos,
      takeWhile_reverse_of_opened placed.opened, List.append_nil]
    intro byte member
    simpa using clear byte (List.mem_reverse.mp member)
  simp only [lineColumn, cut, column, List.count_append, none, List.length_reverse,
    List.length_take]
  rw [Nat.min_eq_left inside, Nat.add_zero]

/-- A line starts behind the bytes before it, which end in a newline or are none at all. -/
theorem lineStart?_of_opened
    (opened : before = [] ∨ ∃ front separator, before = front ++ [separator] ∧
      (separator == newline) = true)
    (rest : Bytes) : lineStart? (before ++ rest) (before.count newline) = some before.length := by
  induction before with
  | nil => cases rest <;> rfl
  | cons byte before ih =>
    have ends : (byte = newline ∧ before = []) ∨ ∃ front, before = front ++ [newline] := by
      rcases opened with empty | ⟨front, separator, spelled, separates⟩
      · cases empty
      · obtain rfl := beq_iff_eq.mp separates
        cases front with
        | nil =>
          obtain ⟨rfl, rfl⟩ := List.cons.inj spelled
          exact .inl ⟨rfl, rfl⟩
        | cons first front => exact .inr ⟨front, (List.cons.inj spelled).2⟩
    have later := ih
      (ends.imp And.right fun ⟨front, spelled⟩ => ⟨front, newline, spelled, by simp⟩)
    by_cases here : byte = newline
    · rw [here, List.count_cons_self, List.cons_append, lineStart?, if_pos rfl, later]
      rfl
    · obtain ⟨front, spelled⟩ := ends.resolve_left fun only => here only.1
      obtain ⟨skipped, counted⟩ : ∃ skipped, before.count newline = skipped + 1 :=
        ⟨front.count newline, by rw [spelled, List.count_append, List.count_singleton_self]⟩
      rw [List.count_cons_of_ne here, counted, List.cons_append, lineStart?, if_neg here, ← counted,
        later]
      rfl

theorem lineStart?_eq_none {skipped : Nat} (past : text.count newline < skipped) :
    lineStart? text skipped = none := by
  induction text generalizing skipped with
  | nil =>
    cases skipped with
    | zero => cases past
    | succ skipped => rfl
  | cons byte rest ih =>
    cases skipped with
    | zero => cases past
    | succ skipped =>
      rw [lineStart?, Option.map_eq_none_iff]
      apply ih
      split
      · rename_i here
        rw [here, List.count_cons_self] at past
        omega
      · rename_i other
        rwa [List.count_cons_of_ne other] at past

/-- A line reaches from its start to the next newline or to the end, so it can be cut out of the
text again. -/
theorem takeWhile_of_pieceAt (placed : PieceAt (· == newline) text before content behind) :
    (text.drop before.length).takeWhile (· != newline) = content := by
  rw [placed.whole, List.drop_left, List.takeWhile_append_of_pos]
  · rcases placed.closed with rfl | ⟨separator, rest, rfl, separates⟩
    · simp
    · simp [beq_iff_eq.mp separates]
  · intro byte member
    simpa using placed.clear byte member

/-- A column of a line is as many bytes behind its start, but not behind its end. A column of zero
counts as one. -/
theorem offsetOf_of_pieceAt (placed : PieceAt (· == newline) text before content behind)
    (column : Nat) :
    offsetOf text (before.count newline + 1) column = before.length +
    min (column - 1) content.length := by
  have start : lineStart? text (before.count newline) = some before.length := by
    rw [placed.whole]
    exact lineStart?_of_opened placed.opened _
  simp only [offsetOf, Nat.add_sub_cancel, start, takeWhile_of_pieceAt placed]

end Places

/-- A later offset is a later place: if no newline lies between, the column grows by the bytes
between. -/
theorem lineColumn_lt {offset later : Nat} (ordered : offset < later)
    (inside : later ≤ text.length) :
    toLex (lineColumn text offset) < toLex (lineColumn text later) := by
  obtain ⟨distance, rfl⟩ : ∃ distance, later = offset + distance := ⟨later - offset, by omega⟩
  have cut := @List.take_add _ text offset distance
  generalize between : (text.drop offset).take distance = middle at cut
  have length : middle.length = distance := by
    rw [← between, List.length_take, List.length_drop]
    omega
  rw [Prod.Lex.toLex_lt_toLex]
  simp only [lineColumn, cut, List.count_append]
  by_cases same : middle.count newline = 0
  · right
    have clear : ∀ byte ∈ middle.reverse, (byte != newline) = true := by
      intro byte member
      have other : byte ≠ newline := by
        rintro rfl
        exact List.count_eq_zero.mp same (List.mem_reverse.mp member)
      simpa using other
    rw [List.reverse_append, List.takeWhile_append_of_pos clear, List.length_append,
      List.length_reverse]
    omega
  · left
    omega

/-- The pair of an offset is a position, and leads back to the offset. Behind the end of the text
this fails, as all offsets there have one pair. -/
theorem offsetOf_lineColumn {offset : Nat} (inside : offset ≤ text.length) :
    lineColumn text offset ∈ places text ∧
      offsetOf text (lineColumn text offset).1 (lineColumn text offset).2 = offset := by
  obtain ⟨before, content, behind, placed, least, greatest⟩ :=
    Text.exists_pieceAt_of_le (· == newline) inside
  obtain ⟨bytes, rfl⟩ : ∃ bytes, offset = before.length + bytes :=
    ⟨offset - before.length, by omega⟩
  have bounded : bytes ≤ content.length := by omega
  rw [lineColumn_of_pieceAt placed bounded]
  refine ⟨⟨⟨by simp, count_lt_lineCount placed⟩, by simp, ?_⟩, ?_⟩
  · rw [lineLength_of_pieceAt placed]
    exact Nat.succ_le_succ bounded
  · rw [offsetOf_of_pieceAt placed, Nat.add_sub_cancel, Nat.min_eq_left bounded]

/-- The offset of a position is one of the text, and leads back to the pair, so no two positions
share an offset. -/
theorem lineColumn_offsetOf {place : Nat × Nat} (known : place ∈ places text) :
    offsetOf text place.1 place.2 ≤ text.length ∧
      lineColumn text (offsetOf text place.1 place.2) = place := by
  obtain ⟨line, column⟩ := place
  obtain ⟨⟨first, last⟩, least, greatest⟩ := known
  obtain ⟨before, content, behind, placed, rfl⟩ := exists_pieceAt_of_line first last
  dsimp only at least greatest ⊢
  rw [lineLength_of_pieceAt placed] at greatest
  have bounded : column - 1 ≤ content.length := by omega
  rw [offsetOf_of_pieceAt placed, Nat.min_eq_left bounded]
  refine ⟨?_, ?_⟩
  · rw [placed.whole, List.length_append, List.length_append]
    omega
  · rw [lineColumn_of_pieceAt placed bounded, Nat.sub_add_cancel least]

/-- The greatest offset of a line is that of its end, and columns behind it lead there and not into
the next line. -/
theorem offsetOf_of_past {line column : Nat} (first : 1 ≤ line) (last : line ≤ lineCount text)
    (past : lineLength text line < column) :
    offsetOf text line column = offsetOf text line (lineLength text line + 1) := by
  obtain ⟨before, content, behind, placed, rfl⟩ := exists_pieceAt_of_line first last
  rw [lineLength_of_pieceAt placed] at past ⊢
  rw [offsetOf_of_pieceAt placed, offsetOf_of_pieceAt placed, Nat.add_sub_cancel, Nat.min_self,
    Nat.min_eq_right (by omega)]

theorem offsetOf_of_missing {line : Nat} (past : lineCount text < line) (column : Nat) :
    offsetOf text line column = text.length := by
  have missing : lineStart? text (line - 1) = none := by
    apply lineStart?_eq_none
    rw [lineCount] at past
    omega
  simp only [offsetOf, missing]

/-- No line and no column leads behind the end of the text, so a caller may cut there without
looking. -/
theorem offsetOf_le (text : Bytes) (line column : Nat) :
    offsetOf text line column ≤ text.length := by
  have bounded {line : Nat} (first : 1 ≤ line) : offsetOf text line column ≤ text.length := by
    by_cases past : lineCount text < line
    · rw [offsetOf_of_missing past]
    · obtain ⟨before, content, behind, placed, rfl⟩ :=
        exists_pieceAt_of_line first (Nat.le_of_not_lt past)
      rw [offsetOf_of_pieceAt placed, placed.whole, List.length_append, List.length_append]
      omega
  cases line with
  | zero =>
    change offsetOf text 1 column ≤ text.length
    exact bounded (Nat.le_refl 1)
  | succ line => exact bounded (Nat.le_add_left 1 line)

/-- The numbers of a position are not greater than that of the offset behind the last byte. So a
short text has short numbers. -/
theorem le_of_mem_places {place : Nat × Nat} (known : place ∈ places text) :
    place.1 ≤ text.length + 1 ∧ place.2 ≤ text.length + 1 := by
  obtain ⟨line, column⟩ := place
  obtain ⟨⟨first, last⟩, least, greatest⟩ := known
  obtain ⟨before, content, behind, placed, rfl⟩ := exists_pieceAt_of_line first last
  dsimp only at greatest ⊢
  rw [lineLength_of_pieceAt placed] at greatest
  have counted := @List.count_le_length _ _ newline before
  rw [placed.whole, List.length_append, List.length_append]
  omega

/-- Offsets up to the end of a text and the positions of its lines correspond to each other, in the
same order, and each of the two functions undoes the other. What is outside leads to the nearest
position: offsets and lines behind the end to the end of the text, columns behind the end of their
line to that end, and zero to one. All numbers of a text that is short enough fit words of 32
bits. -/
theorem offsets_correspond_to_places (text : Bytes) (short : text.length < Text.wordBound - 1) :
    StrictMonoOn (fun offset => toLex (lineColumn text offset)) (Set.Iic text.length) ∧
    Set.BijOn (lineColumn text) (Set.Iic text.length) (places text) ∧
    Set.InvOn (fun place => offsetOf text place.1 place.2) (lineColumn text) (Set.Iic text.length)
      (places text) ∧
    (∀ offset, text.length ≤ offset → lineColumn text offset = lineColumn text text.length) ∧
    (∀ line column, offsetOf text line column ≤ text.length ∧
      (lineCount text < line → offsetOf text line column = text.length) ∧
      (1 ≤ line → line ≤ lineCount text → lineLength text line < column →
        offsetOf text line column = offsetOf text line (lineLength text line + 1)) ∧
      offsetOf text 0 column = offsetOf text 1 column ∧
      offsetOf text line 0 = offsetOf text line 1) ∧
    ∀ place ∈ places text, place.1 < Text.wordBound ∧ place.2 < Text.wordBound := by
  have inverse : Set.InvOn (fun place => offsetOf text place.1 place.2) (lineColumn text)
      (Set.Iic text.length)
      (places text) :=
    ⟨fun offset inside => (offsetOf_lineColumn inside).2,
      fun place known => (lineColumn_offsetOf known).2⟩
  refine ⟨?_, ?_, inverse, ?_, ?_, ?_⟩
  · intro offset _ later inside ordered
    exact lineColumn_lt ordered inside
  · exact inverse.bijOn (fun offset inside => (offsetOf_lineColumn inside).1)
      fun place known => (lineColumn_offsetOf known).1
  · intro offset past
    rw [lineColumn, lineColumn, List.take_of_length_le past, List.take_length]
  · intro line column
    exact ⟨offsetOf_le text line column, fun past => offsetOf_of_missing past column,
      offsetOf_of_past, rfl, rfl⟩
  · intro place known
    obtain ⟨line, column⟩ := le_of_mem_places known
    omega

/-- Six positions in four lines, of which the second and the last are empty. -/
theorem offsets_correspond_to_places_gaps :
    let text := Text.utf8 "a\n\nb\n"
    text.length < Text.wordBound - 1 ∧
      (List.range 6).map (lineColumn text) = [(1, 1), (1, 2), (2, 1), (3, 1), (3, 2), (4, 1)] ∧
      Set.BijOn (lineColumn text) (Set.Iic 5) (places text) ∧
      offsetOf text 2 7 = 2 ∧ offsetOf text 9 1 = 5 := by
  intro text
  have short : text.length < Text.wordBound - 1 := by decide
  obtain ⟨_, bijective, _, _, clamped, _⟩ := offsets_correspond_to_places text short
  refine ⟨short, by decide, bijective, ?_, (clamped 9 1).2.1 (by decide)⟩
  rw [(clamped 2 7).2.2.1 (by decide) (by decide) (by decide)]
  decide

end DialectLoader.Position
