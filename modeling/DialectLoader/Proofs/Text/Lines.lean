import Mathlib.Data.List.Basic
import DialectLoader.Proofs.Text.Pieces

/-!
# Lines in their places

`IsLine` says what the lines of a text are: the pieces between its newlines, less a carriage return
where a newline follows it, and less the last piece if that is empty. The number of a line is one
more than the number of newlines before it. The lines that a text is cut into are these, under these
numbers.

A carriage return alone ends no line, and neither do other characters that some programs take for
line ends. A file and its lines are related by `IsLine` and by nothing else in what follows.
-/

namespace DialectLoader.Text

variable {number : Nat} {text line : List Char} {α : Type}

/-- A line of a text under its number, which is one more than the number of newlines before it. A
carriage return before the newline that ends a line is no part of the line, and the end of the text
ends a line only if there is one. -/
inductive IsLine (text : List Char) (number : Nat) (line : List Char) : Prop
  | returned {before rest : List Char}
      (placed : PieceAt (· == '\n') text before (line ++ ['\r']) ('\n' :: rest))
      (counted : before.count '\n' + 1 = number)
  | ended {before rest : List Char} (placed : PieceAt (· == '\n') text before line ('\n' :: rest))
      (kept : line.getLast? ≠ some '\r') (counted : before.count '\n' + 1 = number)
  | last {before : List Char} (placed : PieceAt (· == '\n') text before line [])
      (visible : line ≠ [])
      (counted : before.count '\n' + 1 = number)

/-- Dropping a carriage return leaves what stands in front of it, or everything if there is none.
Only one is dropped, so a line may still end in another. -/
theorem dropReturn_eq_iff {piece line : List Char} :
    dropReturn piece = line ↔ piece = line ++ ['\r'] ∨
    (piece = line ∧ line.getLast? ≠ some '\r') := by
  unfold dropReturn
  by_cases returned : piece.getLast? = some '\r'
  · rw [if_pos returned]
    obtain ⟨front, rfl⟩ := List.getLast?_eq_some_iff.mp returned
    rw [List.dropLast_concat, List.append_left_inj]
    constructor
    · exact .inl
    · rintro (same | ⟨rfl, other⟩)
      · exact same
      · exact absurd returned other
  · rw [if_neg returned]
    constructor
    · rintro rfl
      exact .inr ⟨rfl, returned⟩
    · rintro (rfl | ⟨same, _⟩)
      · simp at returned
      · exact same

/-- Every piece but the last is a line without its carriage return; the last one is a line if it is
not empty. -/
theorem getElem?_linesOfPieces {found : List (List Char)} {index : Nat} {line : List Char} :
    (linesOfPieces found)[index]? = some line ↔ ∃ piece, found[index]? = some piece ∧
      ((index + 1 < found.length ∧ dropReturn piece = line) ∨
        (index + 1 = found.length ∧ piece ≠ [] ∧ piece = line)) := by
  fun_induction linesOfPieces found generalizing index with
  | case1 => simp
  | case2 last empty =>
    have same : last = [] := List.isEmpty_iff.mp empty
    subst same
    cases index <;> simp
  | case3 last visible =>
    have other : last ≠ [] := fun same => visible (List.isEmpty_iff.mpr same)
    cases index with
    | zero => simp [other]
    | succ index => simp
  | case4 piece rest several ih =>
    cases index with
    | zero =>
      have more : 0 < rest.length := List.length_pos_iff.mpr several
      simp [more, Nat.ne_of_gt more]
    | succ index =>
      rw [List.getElem?_cons_succ, ih]
      simp

/-- A piece is the last one exactly if the text ends behind it, because every other piece has a
separator behind it. -/
theorem PieceAt.isLast_iff {isSeparator : α → Bool} {text before piece behind : List α}
    (placed : PieceAt isSeparator text before piece behind) :
    before.countP isSeparator + 1 = (pieces isSeparator text).length ↔ behind = [] := by
  have none : piece.countP isSeparator = 0 := by
    rw [List.countP_eq_zero]
    intro c member
    simp [placed.clear c member]
  rw [length_pieces, placed.whole, List.countP_append, List.countP_append, none]
  rcases placed.closed with rfl | ⟨separator, rest, rfl, separates⟩
  · simp
  · simp [separates]

/-- The lines that a text is cut into are the ones that it has in their places. From here on lines
are known by `IsLine` and the cutting is not looked at again. -/
theorem getElem?_lines_iff {index : Nat} :
    (lines text)[index]? = some line ↔ IsLine text (index + 1) line := by
  rw [lines, getElem?_linesOfPieces]
  constructor
  · rintro ⟨piece, found, part⟩
    obtain ⟨before, behind, placed, rfl⟩ := exists_pieceAt found
    rcases part with ⟨inner, dropped⟩ | ⟨outer, visible, rfl⟩
    · have more : behind ≠ [] := fun same => Nat.ne_of_lt inner (placed.isLast_iff.mpr same)
      obtain ⟨separator, rest, rfl, separates⟩ := placed.closed.resolve_left more
      obtain rfl : separator = '\n' := by simpa using separates
      rcases dropReturn_eq_iff.mp dropped with rfl | ⟨rfl, kept⟩
      · exact .returned placed rfl
      · exact .ended placed kept rfl
    · obtain rfl := placed.isLast_iff.mp outer
      exact .last placed visible rfl
  · have inner {before piece rest : List Char}
        (placed : PieceAt (· == '\n') text before piece ('\n' :: rest)) :
        before.countP (· == '\n') + 1 < (pieces (· == '\n') text).length := by
      have bounded := (List.getElem?_eq_some_iff.mp placed.getElem?).1
      have other : before.countP (· == '\n') + 1 ≠ (pieces (· == '\n') text).length :=
        fun same => absurd (placed.isLast_iff.mp same) (by simp)
      omega
    rintro (⟨placed, counted⟩ | ⟨placed, kept, counted⟩ | ⟨placed, visible, counted⟩) <;>
      obtain rfl := Nat.succ.inj counted
    · exact ⟨_, placed.getElem?, .inl ⟨inner placed, dropReturn_eq_iff.mpr (.inl rfl)⟩⟩
    · exact ⟨_, placed.getElem?, .inl ⟨inner placed, dropReturn_eq_iff.mpr (.inr ⟨rfl, kept⟩)⟩⟩
    · exact ⟨_, placed.getElem?, .inr ⟨placed.isLast_iff.mpr rfl, visible, rfl⟩⟩

/-- A line is found at its number, which is one more than its index in the list of lines. -/
theorem IsLine.exists_getElem? (isLine : IsLine text number line) :
    ∃ index, index + 1 = number ∧ (lines text)[index]? = some line := by
  obtain ⟨index, rfl⟩ : ∃ index, index + 1 = number := by
    rcases isLine with ⟨_, counted⟩ | ⟨_, _, counted⟩ | ⟨_, _, counted⟩ <;> exact ⟨_, counted⟩
  exact ⟨index, rfl, getElem?_lines_iff.mpr isLine⟩

/-- Elements get the numbers from one on in their order, so the numbers grow along the list and none
comes twice. -/
theorem pairwise_numbered (items : List α) :
    (numbered items).Pairwise fun first second => first.1 < second.1 := by
  have growing : (items.zipIdx.map Prod.snd).Pairwise (· < ·) := by
    rw [List.zipIdx_map_snd]
    exact List.pairwise_lt_range'
  unfold numbered
  refine List.pairwise_map.mpr ((List.pairwise_map.mp growing).imp ?_)
  rintro ⟨_, first⟩ ⟨_, second⟩ before
  exact Nat.succ_lt_succ before

/-- An element is listed under the number behind its index, and under no other number unless it
occurs again. -/
theorem mem_numbered_iff {items : List α} {item : α} :
    (number, item) ∈ numbered items ↔ ∃ index, index + 1 = number ∧ items[index]? = some item := by
  unfold numbered
  constructor
  · intro member
    obtain ⟨⟨_, index⟩, entry, same⟩ := List.mem_map.mp member
    obtain ⟨rfl, rfl⟩ := Prod.mk.inj same
    exact ⟨index, rfl, List.mem_zipIdx_iff_getElem?.mp entry⟩
  · rintro ⟨index, rfl, listed⟩
    exact List.mem_map.mpr ⟨(item, index), List.mem_zipIdx_iff_getElem?.mpr listed, rfl⟩

/-- A line is listed under a number exactly if it is the line with this number in the text. -/
theorem mem_numbered_lines_iff :
    (number, line) ∈ numbered (lines text) ↔ IsLine text number line := by
  rw [mem_numbered_iff]
  constructor
  · rintro ⟨index, rfl, listed⟩
    exact getElem?_lines_iff.mp listed
  · exact IsLine.exists_getElem?

theorem pieces_of_newlineless {line : List Char} (clear : '\n' ∉ line) :
    pieces (· == '\n') line = [line] := by
  apply pieces_of_clear
  intro c member
  rw [beq_eq_false_iff_ne]
  rintro rfl
  exact clear member

/-- The pieces of two texts with a newline in between are those of the first and those of the
second; the newline belongs to neither. -/
theorem pieces_newline (left right : List Char) :
    pieces (· == '\n') (left ++ '\n' :: right) =
      pieces (· == '\n') left ++ pieces (· == '\n') right :=
  pieces_append_separator (by decide) left right

/-- A newline ends a line, and the lines behind it follow. The line must not end in a carriage
return, which would be dropped. -/
theorem lines_append {line : List Char} (clear : '\n' ∉ line) (kept : line.getLast? ≠ some '\r')
    (rest : List Char) : lines (line ++ '\n' :: rest) = line :: lines rest := by
  obtain ⟨piece, found, cut⟩ := List.exists_cons_of_ne_nil (pieces_ne_nil (· == '\n') rest)
  rw [lines, lines, pieces_newline, pieces_of_newlineless clear, cut, List.singleton_append,
    linesOfPieces, dropReturn, if_neg kept]
  simp

/-- A line in its place, with what is dropped at its end. The three ways in which a line can end are
forgotten here. -/
theorem IsLine.placed (isLine : IsLine text number line) :
    ∃ before dropped behind, PieceAt (· == '\n') text before (line ++ dropped) behind ∧
      before.count '\n' + 1 = number := by
  rcases isLine with ⟨placed, counted⟩ | ⟨placed, _, counted⟩ | ⟨placed, _, counted⟩
  · exact ⟨_, _, _, placed, counted⟩
  · exact ⟨_, [], _, by rwa [List.append_nil], counted⟩
  · exact ⟨_, [], _, by rwa [List.append_nil], counted⟩

theorem IsLine.clear (isLine : IsLine text number line) :
    '\n' ∉ line := by
  obtain ⟨_, _, _, placed, _⟩ := isLine.placed
  intro member
  have clear := placed.clear '\n' (List.mem_append_left _ member)
  cases clear

theorem IsLine.isInfix (isLine : IsLine text number line) :
    line <:+: text := by
  obtain ⟨before, dropped, behind, placed, _⟩ := isLine.placed
  exact ⟨before, dropped ++ behind, by rw [placed.whole]; simp⟩

/-- The number of a line is positive and not greater than the number of pieces between newlines. An
empty last piece is no line, so there may be fewer lines than pieces. -/
theorem IsLine.bounds (isLine : IsLine text number line) :
    1 ≤ number ∧ number ≤ (pieces (· == '\n') text).length := by
  obtain ⟨before, dropped, behind, placed, rfl⟩ := isLine.placed
  exact ⟨Nat.le_add_left _ _, (List.getElem?_eq_some_iff.mp placed.getElem?).1⟩

theorem map_snd_numbered (items : List α) : (numbered items).map Prod.snd = items := by
  rw [numbered, List.map_map]
  exact List.zipIdx_map_fst 0 items

theorem le_length_of_mem_numbered {items : List α} {item : α}
    (member : (number, item) ∈ numbered items) : number ≤ items.length := by
  obtain ⟨index, rfl, listed⟩ := mem_numbered_iff.mp member
  exact (List.getElem?_eq_some_iff.mp listed).1

end DialectLoader.Text
