import DialectLoader.Proofs.Path.Normal

/-!
# Pieces in their places

A text that is cut at its separators falls into pieces. `PieceAt` says where in the text a piece
stands without cutting anything: in front of it is nothing or a separator, behind it is nothing or a
separator, and in it is none. The number of a piece is the number of separators before it, so the
pieces of a text and the places of its pieces correspond to each other.
-/

namespace DialectLoader.Text

variable {α : Type} {isSeparator : α → Bool} {text before piece behind : List α}

/-- A piece of a text in its place: what is before and behind it, with a separator where the text
goes on, and no separator in the piece itself. Nothing is cut to say so. -/
structure PieceAt (isSeparator : α → Bool) (text before piece behind : List α) : Prop where
  whole : text = before ++ (piece ++ behind)
  opened : before = [] ∨ ∃ front separator, before = front ++ [separator] ∧
    isSeparator separator = true
  clear : ∀ c ∈ piece, isSeparator c = false
  closed : behind = [] ∨ ∃ separator rest, behind = separator :: rest ∧ isSeparator separator = true

/-- A run ends where the next character is of another kind, or with the text. Taking and dropping
the run then give the run and the rest. -/
theorem takeWhile_run {kind : α → Bool} {run rest : List α} (inside : ∀ c ∈ run, kind c = true)
    (stops : ∀ c ∈ rest.head?, kind c = false) :
    (run ++ rest).takeWhile kind = run ∧ (run ++ rest).dropWhile kind = rest := by
  rw [List.takeWhile_append_of_pos inside, List.dropWhile_append_of_pos inside]
  cases rest with
  | nil => simp
  | cons c rest => simp [stops c rfl]

/-- There is one more piece than there are separators, since empty pieces count: a separator at
either end has an empty piece beside it. -/
theorem length_pieces (isSeparator : α → Bool) (text : List α) :
    (pieces isSeparator text).length = text.countP isSeparator + 1 := by
  induction text with
  | nil => simp [pieces]
  | cons c rest ih =>
    obtain ⟨piece, found, cut⟩ := List.exists_cons_of_ne_nil (pieces_ne_nil isSeparator rest)
    rw [cut, List.length_cons] at ih
    cases separated : isSeparator c with
    | true => simp [pieces, separated, cut, ih]
    | false => simpa [pieces, separated, cut] using ih

/-- A piece is counted by the separators before it. The induction follows the text up to the piece,
and each separator on the way is one piece more. -/
theorem PieceAt.getElem? (placed : PieceAt isSeparator text before piece behind) :
    (pieces isSeparator text)[before.countP isSeparator]? = some piece := by
  have first : ∃ later, pieces isSeparator (piece ++ behind) = piece :: later := by
    rcases placed.closed with rfl | ⟨separator, rest, rfl, separates⟩
    · exact ⟨[], by rw [List.append_nil, pieces_of_clear placed.clear]⟩
    · refine ⟨pieces isSeparator rest, ?_⟩
      rw [pieces_append_separator separates, pieces_of_clear placed.clear]
      rfl
  obtain ⟨later, cut⟩ := first
  rw [placed.whole]
  rcases placed.opened with rfl | ⟨front, separator, rfl, separates⟩
  · simp [cut]
  · have counted : (front ++ [separator]).countP isSeparator =
        (pieces isSeparator front).length := by
      simp [length_pieces, separates]
    rw [List.append_assoc, List.singleton_append, pieces_append_separator separates, cut, counted,
      List.getElem?_append_right (Nat.le_refl _), Nat.sub_self]
    rfl

/-- What a text begins with is in front of a later piece as well. A character right before the piece
has to be a separator. -/
theorem PieceAt.cons (placed : PieceAt isSeparator text before piece behind) {c : α}
    (opens : isSeparator c = true ∨ before ≠ []) :
    PieceAt isSeparator (c :: text) (c :: before) piece behind where
  whole := by rw [placed.whole, List.cons_append]
  opened := by
    rcases placed.opened with rfl | ⟨front, separator, rfl, separates⟩
    · exact .inr ⟨[], c, rfl, opens.resolve_right fun other => other rfl⟩
    · exact .inr ⟨c :: front, separator, rfl, separates⟩
  clear := placed.clear
  closed := placed.closed

/-- Without a separator before it a piece stands at the start of the text, because whatever is
before a piece ends in a separator. -/
theorem PieceAt.before_eq_nil (placed : PieceAt isSeparator text before piece behind)
    (none : before.countP isSeparator = 0) : before = [] := by
  rcases placed.opened with empty | ⟨front, separator, rfl, separates⟩
  · exact empty
  · simp [separates] at none

/-- Every piece of a text has its place, with as many separators before it as its number says.
Together with `PieceAt.getElem?` pieces and places correspond. -/
theorem exists_pieceAt {number : Nat} (found : (pieces isSeparator text)[number]? = some piece) :
    ∃ before behind, PieceAt isSeparator text before piece behind ∧
    before.countP isSeparator = number := by
  induction text generalizing number piece with
  | nil =>
    obtain ⟨bounded, rfl⟩ := List.getElem?_eq_some_iff.mp found
    obtain rfl : number = 0 := by simpa [pieces] using bounded
    exact ⟨[], [], ⟨rfl, .inl rfl, by simp [pieces], .inl rfl⟩, rfl⟩
  | cons c rest ih =>
    obtain ⟨first, others, cut⟩ := List.exists_cons_of_ne_nil (pieces_ne_nil isSeparator rest)
    cases separated : isSeparator c with
    | true =>
      simp only [pieces, separated] at found
      cases number with
      | zero =>
        obtain rfl : [] = piece := by simpa using found
        exact ⟨[], c :: rest, ⟨rfl, .inl rfl, by simp, .inr ⟨c, rest, rfl, separated⟩⟩, rfl⟩
      | succ number =>
        obtain ⟨before, behind, placed, counted⟩ := ih (by simpa using found)
        exact ⟨c :: before, behind, placed.cons (.inl separated), by simp [separated, counted]⟩
    | false =>
      simp only [pieces, separated, cut] at found
      cases number with
      | zero =>
        obtain rfl : c :: first = piece := by simpa using found
        have leads : (pieces isSeparator rest)[0]? = some first := by rw [cut]; rfl
        obtain ⟨before, behind, placed, counted⟩ := ih leads
        obtain rfl := placed.before_eq_nil counted
        refine ⟨[], behind, ⟨by rw [placed.whole]; rfl, .inl rfl, ?_, placed.closed⟩, rfl⟩
        exact List.forall_mem_cons.mpr ⟨separated, placed.clear⟩
      | succ number =>
        have follows : (pieces isSeparator rest)[number + 1]? = some piece := by
          rw [cut]; exact found
        obtain ⟨before, behind, placed, counted⟩ := ih follows
        have visible : before ≠ [] := by
          rintro rfl
          cases counted
        exact ⟨c :: before, behind, placed.cons (.inr visible), by simp [separated, counted]⟩

/-- Every position of a text is in a piece or right behind one. The position behind the last
character is one of them. -/
theorem exists_pieceAt_of_le (isSeparator : α → Bool) {text : List α} {position : Nat}
    (inside : position ≤ text.length) :
    ∃ before piece behind, PieceAt isSeparator text before piece behind ∧
      before.length ≤ position ∧ position ≤ before.length + piece.length := by
  induction text generalizing position with
  | nil =>
    obtain rfl : position = 0 := by simpa using inside
    exact ⟨[], [], [], ⟨rfl, .inl rfl, by simp, .inl rfl⟩, Nat.le_refl _, Nat.le_refl _⟩
  | cons c rest ih =>
    cases position with
    | zero =>
      obtain ⟨piece, others, cut⟩ :=
        List.exists_cons_of_ne_nil (pieces_ne_nil isSeparator (c :: rest))
      have leads : (pieces isSeparator (c :: rest))[0]? = some piece := by rw [cut]; rfl
      obtain ⟨before, behind, placed, counted⟩ := exists_pieceAt leads
      obtain rfl := placed.before_eq_nil counted
      exact ⟨[], piece, behind, placed, Nat.zero_le _, Nat.zero_le _⟩
    | succ position =>
      obtain ⟨before, piece, behind, placed, least, greatest⟩ :=
        ih (Nat.le_of_succ_le_succ inside)
      by_cases opens : isSeparator c = true ∨ before ≠ []
      · refine ⟨c :: before, piece, behind, placed.cons opens, ?_, ?_⟩
        · exact Nat.succ_le_succ least
        · rw [List.length_cons]
          omega
      -- The first piece grows by the character in front of it.
      · obtain ⟨clear, empty⟩ := not_or.mp opens
        obtain rfl : before = [] := by simpa using empty
        refine ⟨[], c :: piece, behind, ⟨by rw [placed.whole]; rfl, .inl rfl, ?_, placed.closed⟩,
          Nat.zero_le _, ?_⟩
        · exact List.forall_mem_cons.mpr ⟨by simpa using clear, placed.clear⟩
        · rw [List.length_cons]
          omega

end DialectLoader.Text
