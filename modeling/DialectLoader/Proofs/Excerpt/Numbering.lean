import DialectLoader.Proofs.Excerpt.Rows
import DialectLoader.Proofs.Position.Correspondence

/-!
# Lines of positions and lines of excerpts

A position counts newline bytes, an excerpt cuts characters into lines. An ASCII character is one
byte that no other character has, so the pieces between newlines have the same numbers in both, and
each is the UTF-8 form of the other. The two differ in what becomes of a piece: a line of an excerpt
has no carriage return before its newline, and an empty piece at the end is no line. So a position
has the line of the excerpt that it stands in, unless it stands behind the last newline of a source
at its end.

Only the numbers are compared. How a line is shown, and what the window around it is, follows in the
rows of excerpts.
-/

namespace DialectLoader

open String (utf8EncodeChar)

namespace Text

/-- Joined texts are mapped one by one, and so is what stands between them. -/
theorem flatMap_intercalate {α β : Type} (f : α → List β) (separator : List α)
    (names : List (List α)) :
    (separator.intercalate names).flatMap f = (separator.flatMap f).intercalate
      (names.map (·.flatMap f)) := by
  induction names with
  | nil => rfl
  | cons name rest ih =>
    cases rest with
    | nil => simp
    | cons next rest =>
      rw [List.intercalate_cons_cons, List.flatMap_append, List.flatMap_append, ih]
      simp only [List.map_cons, List.intercalate_cons_cons]

/-- An ASCII character cuts the bytes of a text where it cuts the text, since its byte is in no
other character. -/
theorem pieces_flatMap_encode {c : Char} (ascii : c.toNat < 0x80) (text : List Char) :
    pieces (· == UInt8.ofNat c.toNat) (text.flatMap utf8EncodeChar) =
      (pieces (· == c) text).map (·.flatMap utf8EncodeChar) := by
  have joined : [UInt8.ofNat c.toNat].intercalate
      ((pieces (· == c) text).map (·.flatMap utf8EncodeChar)) = text.flatMap utf8EncodeChar := by
    rw [← encode_ascii ascii, ← @List.flatMap_singleton _ _ utf8EncodeChar c, ← flatMap_intercalate,
      intercalate_pieces]
    exact fun d same => beq_iff_eq.mp same
  rw [← joined]
  apply pieces_intercalate
  · simp
  · simp [pieces_ne_nil]
  · simp only [List.forall_mem_map, List.mem_flatMap, forall_exists_index, and_imp]
    intro piece found byte d member among
    have other : d ≠ c := by simpa using pieces_clear text piece found d member
    rw [beq_eq_false_iff_ne]
    rintro rfl
    exact byte_not_mem_encode ascii other among

end Text

namespace Position

open Text (PieceAt utf8)

def carriageReturn : UInt8 := 13

/-- A carriage return at the end is dropped from the bytes of a piece as from its characters, so
both sides drop the same. -/
theorem flatMap_encode_dropReturn (piece : List Char) :
    (Text.dropReturn piece).flatMap utf8EncodeChar =
      if (piece.flatMap utf8EncodeChar).getLast? = some carriageReturn then
      (piece.flatMap utf8EncodeChar).dropLast
      else piece.flatMap utf8EncodeChar := by
  have ends : (piece.flatMap utf8EncodeChar).getLast? = some carriageReturn ↔
      piece.getLast? = some '\r' :=
    @Text.getLast?_flatMap_encode_iff '\r' (by decide) piece
  rcases Text.dropReturn_eq_iff.mp (rfl : Text.dropReturn piece = _) with returned | ⟨whole, kept⟩
  · generalize Text.dropReturn piece = line at returned
    subst returned
    rw [if_pos (ends.mpr List.getLast?_concat), List.flatMap_append]
    exact List.dropLast_concat.symm
  · rw [← whole] at kept
    rw [if_neg (mt ends.mp kept), ← whole]

/-- The line that starts at an offset: the bytes up to the next newline or the end of the text, less
a carriage return right before that newline. -/
def lineFrom (text : Bytes) (start : Nat) : Bytes :=
  let slice := (text.drop start).takeWhile (· != newline)
  if start + slice.length < text.length ∧ slice.getLast? = some carriageReturn then slice.dropLast
  else slice

/-- The end of a source at which no line has begun, since the source is empty or its last character
is a newline. -/
def AtOpenEnd (source : String) (offset : Nat) : Prop :=
  offset = (utf8 source).length ∧ (source = "" ∨ source.toList.getLast? = some '\n')

variable {source : String} {before content behind : Bytes}

/-- A line in its place, as bytes: without its carriage return if a newline ends it, and whole if
the text ends. -/
theorem lineFrom_of_pieceAt {text : Bytes}
    (placed : PieceAt (· == newline) text before content behind) :
    lineFrom text before.length =
      if behind ≠ [] ∧ content.getLast? = some carriageReturn then content.dropLast
      else content := by
  have ended : before.length + content.length < text.length ↔ behind ≠ [] := by
    rw [placed.whole, List.length_append, List.length_append, ← List.length_pos_iff]
    omega
  simp only [lineFrom, takeWhile_of_pieceAt placed, ended]

theorem pieces_bytes (text : List Char) :
    Text.pieces (· == newline) (text.flatMap utf8EncodeChar) =
      (Text.pieces (· == '\n') text).map (·.flatMap utf8EncodeChar) :=
  @Text.pieces_flatMap_encode '\n' (by decide) text

/-- The piece of the source that a piece of its bytes is the UTF-8 form of has the same number. Both
are counted by newlines. -/
theorem exists_piece_of_pieceAt
    (placed : PieceAt (· == newline) (utf8 source) before content behind) :
    ∃ piece, (Text.pieces (· == '\n') source.toList)[before.count newline]? = some piece ∧
      piece.flatMap utf8EncodeChar = content := by
  have found : (Text.pieces (· == newline) (utf8 source))[before.count newline]? = some content :=
    placed.getElem?
  rw [Text.utf8_eq_flatMap, pieces_bytes, List.getElem?_map] at found
  exact Option.map_eq_some_iff.mp found

/-- A piece is the last one of the source exactly if there are no bytes behind it. -/
theorem isLast_iff_of_pieceAt
    (placed : PieceAt (· == newline) (utf8 source) before content behind) :
    before.count newline + 1 = (Text.pieces (· == '\n') source.toList).length ↔ behind = [] := by
  rw [← placed.isLast_iff, Text.utf8_eq_flatMap, pieces_bytes, List.length_map]
  rfl

/-- The excerpt lists a piece between newlines as the line with the piece's number, unless it is the
end of the source and empty. -/
theorem getElem?_lines_of_pieceAt
    (placed : PieceAt (· == newline) (utf8 source) before content behind) :
    (Text.lines source.toList)[before.count newline]?.map (fun line => utf8 (String.ofList line)) =
      if content ++ behind = [] then none else some (lineFrom (utf8 source) before.length) := by
  obtain ⟨piece, found, rfl⟩ := exists_piece_of_pieceAt placed
  have isLast := isLast_iff_of_pieceAt placed
  have bounded := (List.getElem?_eq_some_iff.mp found).1
  simp only [Text.utf8_ofList, lineFrom_of_pieceAt placed, List.append_eq_nil_iff,
    Text.flatMap_encode_eq_nil_iff]
  by_cases last : behind = []
  -- Nothing is dropped from the last piece, but it has to be there.
  · by_cases empty : piece = []
    · rw [if_pos ⟨empty, last⟩, Option.map_eq_none_iff, Option.eq_none_iff_forall_ne_some]
      intro line listed
      obtain ⟨other, same, part⟩ := Text.getElem?_linesOfPieces.mp listed
      obtain rfl := Option.some.inj (found.symm.trans same)
      rcases part with ⟨inner, _⟩ | ⟨_, visible, _⟩
      · exact Nat.ne_of_lt inner (isLast.mpr last)
      · exact visible empty
    · have listed : (Text.lines source.toList)[before.count newline]? = some piece :=
        Text.getElem?_linesOfPieces.mpr ⟨piece, found, .inr ⟨isLast.mpr last, empty, rfl⟩⟩
      rw [if_neg fun both => empty both.1, if_neg fun both => both.1 last, listed, Option.map_some]
  · have inner : before.count newline + 1 < (Text.pieces (· == '\n') source.toList).length :=
      Nat.lt_of_le_of_ne bounded (mt isLast.mp last)
    have listed : (Text.lines source.toList)[before.count newline]? =
        some (Text.dropReturn piece) :=
      Text.getElem?_linesOfPieces.mpr ⟨piece, found, .inl ⟨inner, rfl⟩⟩
    rw [if_neg fun both => last both.2, listed, Option.map_some, flatMap_encode_dropReturn]
    simp only [ne_eq, last, not_false_eq_true, true_and]

/-- A place in an empty piece at the end of the source is its open end, and no other place is. -/
theorem atOpenEnd_iff_of_pieceAt
    (placed : PieceAt (· == newline) (utf8 source) before content behind) {bytes : Nat}
    (inside : bytes ≤ content.length) :
    AtOpenEnd source (before.length + bytes) ↔ content ++ behind = [] := by
  have whole := placed.whole
  have ends : (utf8 source).getLast? = some newline ↔ source.toList.getLast? = some '\n' := by
    rw [Text.utf8_eq_flatMap]
    exact @Text.getLast?_flatMap_encode_iff '\n' (by decide) source.toList
  have empty : utf8 source = [] ↔ source = "" := by
    rw [Text.utf8_eq_flatMap, Text.flatMap_encode_eq_nil_iff, String.toList_eq_nil_iff]
  rw [AtOpenEnd, ← ends, ← empty, whole, List.append_eq_nil_iff]
  constructor
  · rintro ⟨last, closed⟩
    obtain rfl : behind = [] := by
      rw [List.length_append, List.length_append] at last
      exact List.eq_nil_of_length_eq_zero (by omega)
    rw [List.append_nil] at closed ⊢
    rcases closed with ⟨_, none⟩ | ended
    · exact none
    · refine Decidable.byContradiction fun visible => ?_
      rw [List.getLast?_append, Option.or_of_isSome (List.getLast?_isSome.mpr visible)] at ended
      have clear := placed.clear newline (List.mem_of_getLast? ended)
      simp at clear
  · intro none
    obtain ⟨rfl, rfl⟩ := List.append_eq_nil_iff.mp none
    refine ⟨by simpa using inside, ?_⟩
    rcases placed.opened with rfl | ⟨front, separator, rfl, separates⟩
    · exact .inl ⟨rfl, rfl⟩
    · right
      rw [beq_iff_eq.mp separates]
      simp

end Position

namespace Excerpt

open Position (lineColumn lineFrom AtOpenEnd)
open Text (utf8)

/-- An offset has the number of the line of the excerpt that starts where its line starts. Only
behind the last newline of a source, or in an empty one, it has no such line, and there alone is no
excerpt. -/
theorem excerpt_numbers_lines_of_positions (source : String) (offset : Nat)
    (inside : offset ≤ (utf8 source).length) :
    let lines := Text.lines source.toList
    let line := (lineColumn (utf8 source) offset).1
    let column := (lineColumn (utf8 source) offset).2
    ((line ≤ lines.length ∧ ∃ start, offset = start + (column - 1) ∧
        lines[line - 1]?.map (fun line => utf8 (String.ofList line)) =
          some (lineFrom (utf8 source) start)) ∨
      AtOpenEnd source offset) ∧
    ∀ before after, render? source line before after = none ↔ AtOpenEnd source offset := by
  obtain ⟨before, content, behind, placed, least, greatest⟩ :=
    Text.exists_pieceAt_of_le (· == Position.newline) inside
  obtain ⟨bytes, rfl⟩ : ∃ bytes, offset = before.length + bytes :=
    ⟨offset - before.length, by omega⟩
  have bounded : bytes ≤ content.length := by omega
  have listed := Position.getElem?_lines_of_pieceAt placed
  rw [Position.lineColumn_of_pieceAt placed bounded,
    Position.atOpenEnd_iff_of_pieceAt placed bounded]
  dsimp only
  rw [Nat.add_sub_cancel, Nat.add_sub_cancel]
  refine ⟨?_, fun front back => ?_⟩
  · refine or_iff_not_imp_right.mpr fun visible => ?_
    rw [if_neg visible] at listed
    obtain ⟨line, found, _⟩ := Option.map_eq_some_iff.mp listed
    exact ⟨(List.getElem?_eq_some_iff.mp found).1, before.length, rfl, listed⟩
  · calc render? source (before.count Position.newline + 1) front back = none
      _ ↔ (Text.lines source.toList)[before.count Position.newline]? = none := by
        rw [render?_eq_none_iff, List.getElem?_eq_none_iff]
        omega
      _ ↔ content ++ behind = [] := by
        rw [← @Option.map_eq_none_iff _ _ _ fun line => utf8 (String.ofList line), listed]
        simp

/-- A newline behind a carriage return belongs to the first line, which is one character of two
bytes. The end behind the last newline has a number, but no line. -/
theorem excerpt_numbers_lines_of_positions_returned :
    let source := "é\r\nb\n"
    (lineColumn (utf8 source) 3 = (1, 4) ∧
      (Text.lines source.toList)[0]?.map (fun line => utf8 (String.ofList line)) =
        some [0xC3, 0xA9]) ∧
    lineColumn (utf8 source) 6 = (3, 1) ∧ ∀ before after, render? source 3 before after = none := by
  intro source
  have spelled : utf8 source = [0xC3, 0xA9, 13, 10, 98, 10] := by
    rw [Text.utf8_eq_flatMap]
    decide
  have inner : lineColumn (utf8 source) 3 = (1, 4) := by rw [spelled]; decide
  have last : lineColumn (utf8 source) 6 = (3, 1) := by rw [spelled]; decide
  refine ⟨⟨inner, ?_⟩, last, ?_⟩
  · have shown := (excerpt_numbers_lines_of_positions source 3 (by rw [spelled]; decide)).1
    rw [inner] at shown
    rcases shown with ⟨_, start, placed, listed⟩ | ⟨ended, _⟩
    · obtain rfl : start = 0 := by simpa using placed
      refine listed.trans ?_
      rw [spelled]
      decide
    · rw [spelled] at ended
      simp at ended
  · have hidden := (excerpt_numbers_lines_of_positions source 6 (by rw [spelled]; decide)).2
    rw [last] at hidden
    exact fun before after => (hidden before after).mpr ⟨by rw [spelled]; rfl, .inr (by decide)⟩

end Excerpt

end DialectLoader
