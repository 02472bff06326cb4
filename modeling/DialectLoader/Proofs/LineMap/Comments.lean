import Mathlib.Data.List.Basic
import DialectLoader.LineMap
import DialectLoader.Proofs.Text.Decimal
import DialectLoader.Proofs.Text.Lines

/-!
# Line maps of line comments

Generated code may end its lines in comments with the number of a source line. `IsComment` says of
which parts a line with such a comment consists: anything, two dashes, blanks, digits and blanks
again. Dashes, blanks and digits are different characters. So a line read from its end has at most
one such division, however many dashes and numbers stand in front of it. The line map has an entry
for a line exactly if the line can be divided and its digits spell a positive number that fits a
word.

The code is taken as text. A comment at the end of a line that is really part of a long string of
the generated language is read like any other, and whether a compiler writes true numbers is not
asked.
-/

namespace DialectLoader

/-- Entries for different keys are all in a map. With a key that comes twice the later entry would
hide the earlier. -/
theorem getElem?_ofList_iff {κ ν : Type} [Ord κ] [Std.TransOrd κ] [Std.LawfulEqOrd κ]
    [DecidableEq κ] {entries : List (κ × ν)} {key : κ} {value : ν}
    (distinct : (entries.map Prod.fst).Nodup) :
    (Std.ExtTreeMap.ofList entries)[key]? = some value ↔ (key, value) ∈ entries := by
  have apart : entries.Pairwise fun first second => ¬ compare first.1 second.1 = .eq :=
    (List.pairwise_map.mp distinct).imp fun unlike same =>
      unlike (Std.LawfulEqOrd.eq_of_compare same)
  have listed {value : ν} (member : (key, value) ∈ entries) :
      (Std.ExtTreeMap.ofList entries)[key]? = some value :=
    Std.ExtTreeMap.getElem?_ofList_of_mem Std.ReflOrd.compare_self apart member
  constructor
  · intro found
    have known : key ∈ Std.ExtTreeMap.ofList entries :=
      Std.ExtTreeMap.mem_iff_isSome_getElem?.mpr (by rw [found]; rfl)
    rw [Std.ExtTreeMap.mem_ofList, List.contains_iff_mem] at known
    obtain ⟨⟨_, other⟩, member, rfl⟩ := List.mem_map.mp known
    obtain rfl : value = other := Option.some.inj (found.symm.trans (listed member))
    exact member
  · exact listed

namespace LineMap

open Text (isBlank isDigit)

variable {line front gap digits tail : List Char}

/-- The parts of a line that ends in a line comment: what is in front, the two dashes, the gap, the
digits and the blanks behind them. -/
structure IsComment (line front gap digits tail : List Char) : Prop where
  whole : line = front ++ '-' :: '-' :: (gap ++ (digits ++ tail))
  gap_blank : ∀ c ∈ gap, isBlank c = true
  digits_ne_nil : digits ≠ []
  digits_digits : ∀ c ∈ digits, isDigit c = true
  tail_blank : ∀ c ∈ tail, isBlank c = true

/-- Read from its end, a line with a comment is divided where the kind of the characters changes.
Reading from the front would find earlier dashes first. -/
theorem IsComment.backwards (comment : IsComment line front gap digits tail) :
    line.reverse.takeWhile isBlank = tail.reverse ∧
      (line.reverse.dropWhile isBlank).takeWhile isDigit = digits.reverse ∧
      ((line.reverse.dropWhile isBlank).dropWhile isDigit).takeWhile isBlank = gap.reverse ∧
      ((line.reverse.dropWhile isBlank).dropWhile isDigit).dropWhile isBlank =
        '-' :: '-' :: front.reverse := by
  have mirrored : line.reverse =
      tail.reverse ++ (digits.reverse ++ (gap.reverse ++ '-' :: '-' :: front.reverse)) := by
    simp [comment.whole]
  have digitsStop : ∀ c ∈ (digits.reverse ++ (gap.reverse ++ '-' :: '-' :: front.reverse)).head?,
      isBlank c = false := by
    intro c first
    have member : c ∈ digits.reverse := by
      rw [List.head?_append_of_ne_nil _ (by simpa using comment.digits_ne_nil)] at first
      exact List.mem_of_mem_head? first
    exact Text.isBlank_of_isDigit (comment.digits_digits c (List.mem_reverse.mp member))
  have gapStops : ∀ c ∈ (gap.reverse ++ '-' :: '-' :: front.reverse).head?, isDigit c = false := by
    intro c first
    by_cases empty : gap = []
    · subst empty
      obtain rfl : '-' = c := by simpa using first
      decide
    · have member : c ∈ gap.reverse := by
        rw [List.head?_append_of_ne_nil _ (by simpa using empty)] at first
        exact List.mem_of_mem_head? first
      rw [← Bool.not_eq_true]
      intro digit
      have blank := comment.gap_blank c (List.mem_reverse.mp member)
      rw [Text.isBlank_of_isDigit digit] at blank
      cases blank
  have dashesStop : ∀ c ∈ ('-' :: '-' :: front.reverse).head?, isBlank c = false := by
    intro c first
    obtain rfl : '-' = c := by simpa using first
    decide
  obtain ⟨tailTaken, tailDropped⟩ :=
    Text.takeWhile_run (fun c member => comment.tail_blank c (List.mem_reverse.mp member))
      digitsStop
  obtain ⟨digitsTaken, digitsDropped⟩ :=
    Text.takeWhile_run (fun c member => comment.digits_digits c (List.mem_reverse.mp member))
      gapStops
  obtain ⟨gapTaken, gapDropped⟩ :=
    Text.takeWhile_run (fun c member => comment.gap_blank c (List.mem_reverse.mp member)) dashesStop
  rw [mirrored, tailDropped, digitsDropped]
  exact ⟨tailTaken, digitsTaken, gapTaken, gapDropped⟩

/-- A line is divided in one way only, because each part is found from the end of the line. -/
theorem IsComment.unique {front' gap' digits' tail' : List Char}
    (comment : IsComment line front gap digits tail)
    (other : IsComment line front' gap' digits' tail') :
    front = front' ∧ gap = gap' ∧ digits = digits' ∧ tail = tail' := by
  obtain ⟨tailTaken, digitsTaken, gapTaken, rest⟩ := comment.backwards
  obtain ⟨tailTaken', digitsTaken', gapTaken', rest'⟩ := other.backwards
  have dashes : '-' :: '-' :: front.reverse = '-' :: '-' :: front'.reverse := rest.symm.trans rest'
  refine ⟨?_, ?_, ?_, ?_⟩ <;> apply List.reverse_injective
  · simpa using dashes
  · exact gapTaken.symm.trans gapTaken'
  · exact digitsTaken.symm.trans digitsTaken'
  · exact tailTaken.symm.trans tailTaken'

/-- A line with two dashes before its last digits is divided there. There must be a digit, since two
dashes alone number nothing. -/
theorem isComment_of_backwards
    (dashes : ((line.reverse.dropWhile isBlank).dropWhile isDigit).dropWhile isBlank =
      '-' :: '-' :: front)
    (visible : (line.reverse.dropWhile isBlank).takeWhile isDigit ≠ []) :
    IsComment line front.reverse
      (((line.reverse.dropWhile isBlank).dropWhile isDigit).takeWhile isBlank).reverse
      ((line.reverse.dropWhile isBlank).takeWhile isDigit).reverse
      (line.reverse.takeWhile isBlank).reverse where
  whole := by
    rw [← List.reverse_inj]
    have inner : ((line.reverse.dropWhile isBlank).dropWhile isDigit).takeWhile isBlank ++
        '-' :: '-' :: front = (line.reverse.dropWhile isBlank).dropWhile isDigit := by
      rw [← dashes, List.takeWhile_append_dropWhile]
    simp only [List.reverse_append, List.reverse_cons, List.reverse_reverse, List.append_assoc,
      List.cons_append, List.nil_append]
    rw [inner, List.takeWhile_append_dropWhile, List.takeWhile_append_dropWhile]
  gap_blank c member := List.all_eq_true.mp List.all_takeWhile c (List.mem_reverse.mp member)
  digits_ne_nil := by simpa using visible
  digits_digits c member := List.all_eq_true.mp List.all_takeWhile c (List.mem_reverse.mp member)
  tail_blank c member := List.all_eq_true.mp List.all_takeWhile c (List.mem_reverse.mp member)

/-- The number of a line is the one that the digits of its comment spell, if it is positive and fits
a word. Zero is no line. -/
theorem commentNumber?_eq_some_iff {number : Nat} :
    commentNumber? line = some number ↔ ∃ front gap digits tail,
      IsComment line front gap digits tail ∧
      Text.readDecimal? Text.wordBound digits = some number ∧ 1 ≤ number := by
  simp only [commentNumber?]
  constructor
  · intro found
    split at found
    · rename_i front dashes
      obtain ⟨read, positive⟩ := Option.filter_eq_some_iff.mp found
      have visible : (line.reverse.dropWhile isBlank).takeWhile isDigit ≠ [] := by
        simpa using (Text.isDigit_of_readDecimal? read).1
      exact ⟨_, _, _, _, isComment_of_backwards dashes visible, read, of_decide_eq_true positive⟩
    · cases found
  · rintro ⟨front, gap, digits, tail, comment, read, positive⟩
    obtain ⟨_, digitsTaken, _, dashes⟩ := comment.backwards
    rw [dashes, digitsTaken, List.reverse_reverse, read]
    exact Option.filter_eq_some_iff.mpr ⟨rfl, decide_eq_true positive⟩

/-- A line is mapped to the number of its comment, and a line without one is not in the map. -/
theorem getElem?_ofComments {code : String} {generated number : Nat} :
    (ofComments code)[generated]? = some number ↔
      ∃ line, Text.IsLine code.toList generated line ∧ commentNumber? line = some number := by
  unfold ofComments
  rw [getElem?_ofList_iff]
  · simp only [List.mem_filterMap, Option.map_eq_some_iff, Prod.mk.injEq, Prod.exists,
      Text.mem_numbered_lines_iff]
    constructor
    · rintro ⟨_, line, isLine, _, read, rfl, rfl⟩
      exact ⟨line, isLine, read⟩
    · rintro ⟨line, isLine, read⟩
      exact ⟨generated, line, isLine, number, read, rfl, rfl⟩
  · refine List.pairwise_map.mpr (List.Pairwise.filterMap _ ?_ (Text.pairwise_numbered _))
    rintro ⟨first, _⟩ ⟨second, _⟩ before entry isEntry other isOther
    obtain ⟨_, _, rfl⟩ := Option.map_eq_some_iff.mp isEntry
    obtain ⟨_, _, rfl⟩ := Option.map_eq_some_iff.mp isOther
    exact Nat.ne_of_lt before

/-- The line map of line comments has an entry for a generated line exactly if the line ends in two
dashes, digits and blanks around the digits, and the digits spell the entry, which is positive and
fits a word. A line ends so in one way only, and the numbers of the lines fit words as well. -/
theorem ofComments_exactly_trailing_comments (code : String)
    (short : (Text.lines code.toList).length < Text.wordBound - 1) :
    (∀ generated number : Nat, (ofComments code)[generated]? = some number ↔
      ∃ line front gap digits tail zeros, Text.IsLine code.toList generated line ∧
        IsComment line front gap digits tail ∧
        digits = List.replicate zeros '0' ++ Text.decimal number ∧
        1 ≤ number ∧ number < Text.wordBound) ∧
    (∀ line front gap digits tail front' gap' digits' tail', IsComment line front gap digits tail →
      IsComment line front' gap' digits' tail' → front = front' ∧ gap = gap' ∧ digits = digits' ∧
      tail = tail') ∧
    (∀ generated ∈ ofComments code, 1 ≤ generated ∧ generated < Text.wordBound) := by
  refine ⟨?_, ?_, ?_⟩
  · intro generated number
    rw [getElem?_ofComments]
    constructor
    · rintro ⟨line, isLine, found⟩
      obtain ⟨front, gap, digits, tail, comment, read, positive⟩ :=
        commentNumber?_eq_some_iff.mp found
      obtain ⟨small, zeros, spelled⟩ := Text.readDecimal?_eq_some_iff.mp read
      exact ⟨line, front, gap, digits, tail, zeros, isLine, comment, spelled, positive, small⟩
    · rintro ⟨line, front, gap, digits, tail, zeros, isLine, comment, spelled, positive, small⟩
      have read := Text.readDecimal?_eq_some_iff.mpr ⟨small, zeros, spelled⟩
      exact ⟨line, isLine,
        commentNumber?_eq_some_iff.mpr ⟨front, gap, digits, tail, comment, read, positive⟩⟩
  · intro line front gap digits tail front' gap' digits' tail' comment other
    exact comment.unique other
  · intro generated mapped
    obtain ⟨number, found⟩ :=
      Option.isSome_iff_exists.mp (Std.ExtTreeMap.mem_iff_isSome_getElem?.mp mapped)
    obtain ⟨line, isLine, _⟩ := getElem?_ofComments.mp found
    obtain ⟨index, rfl, listed⟩ := isLine.exists_getElem?
    have bounded := (List.getElem?_eq_some_iff.mp listed).1
    omega

/-- Of two numbered comments in a line the last one counts, a third dash belongs to the front, and
needless zeros are read over. A number that text follows, zero and a number that no word holds are
no entries. -/
theorem ofComments_exactly_trailing_comments_dashes :
    let code := "a --3 -- 7\t\r\nb ---010\nc -- 12 d\n-- 0\n--4294967296"
    (Text.lines code.toList).length < Text.wordBound - 1 ∧
      (ofComments code)[1]? = some 7 ∧ (ofComments code)[2]? = some 10 ∧
      3 ∉ ofComments code ∧ 4 ∉ ofComments code ∧ 5 ∉ ofComments code := by
  intro code
  have short : (Text.lines code.toList).length < Text.wordBound - 1 := by decide
  obtain ⟨entries, _, _⟩ := ofComments_exactly_trailing_comments code short
  have first : Text.IsLine code.toList 1 "a --3 -- 7\t".toList :=
    Text.getElem?_lines_iff.mp (by decide)
  have second : Text.IsLine code.toList 2 "b ---010".toList :=
    Text.getElem?_lines_iff.mp (by decide)
  refine ⟨short, (entries 1 7).mpr ?_, (entries 2 10).mpr ?_, ?_, ?_, ?_⟩
  · exact ⟨_, "a --3 ".toList, [' '], ['7'], ['\t'], 0, first,
      ⟨by decide, List.all_eq_true.mp (by decide), by decide, List.all_eq_true.mp (by decide),
        List.all_eq_true.mp (by decide)⟩, by decide, by decide, by decide⟩
  · exact ⟨_, "b -".toList, [], ['0', '1', '0'], [], 1, second,
      ⟨by decide, List.all_eq_true.mp (by decide), by decide, List.all_eq_true.mp (by decide),
        List.all_eq_true.mp (by decide)⟩, by decide, by decide, by decide⟩
  · decide
  · decide
  · decide

end LineMap

end DialectLoader
