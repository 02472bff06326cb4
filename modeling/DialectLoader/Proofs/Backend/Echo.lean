import Mathlib.Data.List.Nodup
import DialectLoader.Backend.Echo
import DialectLoader.Proofs.Backend.Outcomes
import DialectLoader.Proofs.LineMap.Comments
import DialectLoader.Proofs.LineMap.Offsets
import DialectLoader.Proofs.Text.Encoding

/-!
# Line maps of echoed code

The echoing backends repeat the lines of a source. One reports where each line starts, and counts
bytes while it goes along; these offsets lead back to the lines. The other one puts a visible line,
without its blank ends, into a block of three lines and its number into a comment behind it.
Whatever stands in the line, the comment behind it is the last one, so its number is the one that is
found.

These are the backends of the tests, which stand in for real compilers. Nothing follows from this
for another backend.
-/

namespace DialectLoader

open String (utf8EncodeChar)

/-- Entries in the order of their lines are listed by the map as they are, so a map can be given by
its list. -/
theorem LineMap.toList_ofList {entries : List (Nat × Nat)}
    (ordered : entries.Pairwise fun first second => first.1 < second.1) :
    (Std.ExtTreeMap.ofList entries : LineMap).toList = entries := by
  have listed : (Std.ExtTreeMap.ofList entries : LineMap).toList.Pairwise fun first second =>
      first.1 < second.1 :=
    Std.ExtTreeMap.ordered_keys_toList.imp Nat.compare_eq_lt.mp
  have distinct {items : List (Nat × Nat)}
      (ordered : items.Pairwise fun first second => first.1 < second.1) :
      (items.map Prod.fst).Nodup :=
    List.pairwise_map.mpr (ordered.imp Nat.ne_of_lt)
  refine List.Perm.eq_of_pairwise (fun first second _ _ before after => ?_) listed ordered ?_
  · omega
  · rw [List.perm_ext_iff_of_nodup (List.Nodup.of_map _ (distinct listed))
      (List.Nodup.of_map _ (distinct ordered))]
    rintro ⟨generated, number⟩
    rw [Std.ExtTreeMap.mem_toList_iff_getElem?_eq_some, getElem?_ofList_iff (distinct ordered)]

/-- The line of the offset behind some characters is counted by the newlines among them, whatever
the width of the characters. -/
theorem Position.line_behind (front rest : List Char) :
    (lineColumn ((front ++ rest).flatMap utf8EncodeChar) (Text.byteLength front)).1 =
      front.count '\n' + 1 := by
  have ascii : '\n'.toNat < 0x80 := by decide
  have counted : (front.flatMap utf8EncodeChar).count newline = front.count '\n' :=
    Text.count_flatMap_encode ascii front
  rw [← Text.length_flatMap_encode, List.flatMap_append, lineColumn, List.take_left, counted]

namespace Text

theorem numbered_flatMap {α β : Type} (items : List α) (first second third : α → β) :
    numbered (items.flatMap fun item => [first item, second item, third item]) =
      (numbered items).flatMap fun entry =>
        [(3 * entry.1 - 2, first entry.2), (3 * entry.1 - 1, second entry.2),
          (3 * entry.1, third entry.2)] := by
  have shifted (start : Nat) :
      ((items.flatMap fun item => [first item, second item, third item]).zipIdx (3 * start)).map
        (fun entry => (entry.2 + 1, entry.1)) =
      (items.zipIdx start).flatMap fun entry =>
        [(3 * entry.2 + 1, first entry.1), (3 * entry.2 + 2, second entry.1),
          (3 * entry.2 + 3, third entry.1)] := by
    induction items generalizing start with
    | nil => rfl
    | cons item items ih =>
      have later := ih (start + 1)
      simp only [List.flatMap_cons, List.zipIdx_append, List.map_append, List.zipIdx_cons,
        List.length_cons, List.length_nil, List.zipIdx_nil, List.map_cons, List.map_nil]
      rw [← later]
      rfl
  have whole := shifted 0
  rw [numbered, numbered, List.flatMap_map]
  exact whole

end Text

namespace Backend

open Text (isBlank numbered)

variable {source : String} {options : Options} {line : List Char}

section Moon

/-- The lines of a source, cut at newlines. Carriage returns stay, and there is always a last line,
perhaps an empty one. -/
def sourceLines (source : String) : List (List Char) :=
  Text.pieces (· == '\n') source.toList

/-- The reported offsets lead back to the lines, one header line later. The offset of a line is the
number of bytes in front of it, so the induction goes along the lines with the text that has been
passed. -/
theorem lines_of_echoReports {lines : List (List Char)} (clear : ∀ line ∈ lines, '\n' ∉ line)
    (front : List Char) :
    (echoReports (front.count '\n' + 2) (Text.byteLength front) lines).map (fun report =>
      (report.1, (Position.lineColumn
        ((front ++ ['\n'].intercalate lines).flatMap utf8EncodeChar) report.2).1)) =
    (lines.zipIdx (front.count '\n')).map fun entry => (entry.2 + 2, entry.2 + 1) := by
  induction lines generalizing front with
  | nil => rfl
  | cons line rest ih =>
    obtain ⟨here, later⟩ := List.forall_mem_cons.mp clear
    rw [echoReports, List.map_cons, List.zipIdx_cons, List.map_cons, Position.line_behind]
    cases rest with
    | nil => rfl
    | cons next rest =>
      have passed : (front ++ (line ++ ['\n'])).count '\n' = front.count '\n' + 1 := by
        simp [List.count_eq_zero.mpr here]
      have length : Text.byteLength (front ++ (line ++ ['\n'])) = Text.byteLength front +
          Text.byteLength line + 1 := by
        rw [Text.byteLength_append, Text.byteLength_append, ← Nat.add_assoc]
        rfl
      have text : front ++ ['\n'].intercalate (line :: next :: rest) =
          front ++ (line ++ ['\n']) ++ ['\n'].intercalate (next :: rest) := by
        simp [List.intercalate_cons_cons]
      have following := ih later (front ++ (line ++ ['\n']))
      rw [passed, length, ← text] at following
      rw [← following]

theorem clear_of_mem_sourceLines (member : line ∈ sourceLines source) :
    '\n' ∉ line := by
  intro inside
  have clear := Text.pieces_clear _ line member '\n' inside
  cases clear

/-- The line map of the reports: every line under the number behind its own, as the code has a
header line. -/
theorem lineMap_moonEcho (source : String) :
    LineMap.ofOffsets (Text.utf8 source) (echoReports 2 0 (sourceLines source)) =
      .ofList ((numbered (sourceLines source)).map fun entry => (entry.1 + 1, entry.1)) := by
  have whole : ['\n'].intercalate (sourceLines source) = source.toList :=
    Text.intercalate_pieces (by simp) source.toList
  have clear : ∀ line ∈ sourceLines source, '\n' ∉ line := fun _ member =>
    clear_of_mem_sourceLines member
  have reported := lines_of_echoReports clear []
  rw [List.nil_append, whole, ← Text.utf8_eq_flatMap] at reported
  rw [LineMap.ofOffsets, numbered, List.map_map]
  exact congrArg (Std.ExtTreeMap.ofList · : List (Nat × Nat) → LineMap) reported

theorem pairwise_moonEntries (source : String) :
    ((numbered (sourceLines source)).map fun entry => (entry.1 + 1, entry.1)).Pairwise
      fun first second => first.1 < second.1 :=
  List.pairwise_map.mpr ((Text.pairwise_numbered _).imp Nat.succ_lt_succ)

def headerLine : List Char := "local _moon".toList

/-- The code that repeats the lines of a source below the header line. -/
def moonCode (source : String) : String :=
  String.ofList (headerLine ++ '\n' :: (sourceLines source).flatMap (· ++ ['\n']))

/-- Cut at newlines the code is the header line, the lines of the source and nothing behind the last
newline. -/
theorem sourceLines_moonCode (source : String) :
    sourceLines (moonCode source) = headerLine :: (sourceLines source ++ [[]]) := by
  have clear : ∀ line ∈ sourceLines source, '\n' ∉ line := fun _ member =>
    clear_of_mem_sourceLines member
  have repeated {lines : List (List Char)} (clear : ∀ line ∈ lines, '\n' ∉ line) :
      Text.pieces (· == '\n') (lines.flatMap (· ++ ['\n'])) = lines ++ [[]] := by
    induction lines with
    | nil => rfl
    | cons line rest ih =>
      obtain ⟨here, later⟩ := List.forall_mem_cons.mp clear
      rw [List.flatMap_cons, List.append_assoc, List.singleton_append, Text.pieces_newline,
        Text.pieces_of_newlineless here, ih later, List.singleton_append,
        List.cons_append]
  have header : '\n' ∉ headerLine := by decide
  rw [sourceLines, moonCode, String.toList_ofList, Text.pieces_newline,
    Text.pieces_of_newlineless header, repeated clear, List.singleton_append]

theorem mem_numbered_moonCode {number : Nat}
    (member : (number, line) ∈ numbered (sourceLines source)) :
    (number + 1, line) ∈ numbered (sourceLines (moonCode source)) := by
  obtain ⟨index, rfl, listed⟩ := Text.mem_numbered_iff.mp member
  refine Text.mem_numbered_iff.mpr ⟨index + 1, rfl, ?_⟩
  rw [sourceLines_moonCode, List.getElem?_cons_succ,
    List.getElem?_append_left (List.getElem?_eq_some_iff.mp listed).1, listed]

/-- A source without the marker is repeated, even one that is empty: the header line shows
something. -/
theorem compile_moonEcho (unmarked : ¬ faultMarker.toList <:+: source.toList) :
    moonEcho.compile source options = .success (moonCode source)
      (.ofList ((numbered (sourceLines source)).map fun entry => (entry.1 + 1, entry.1))) := by
  have ascii : ∀ c ∈ faultMarker.toList, c.toNat < 0x80 := by
    have marker : faultMarker.toList = ['!', '!'] := by decide
    intro c member
    obtain rfl : c = '!' := by simpa [marker] using member
    decide
  have absent : Text.indexOf? (Text.utf8 faultMarker) (Text.utf8 source) = none := by
    rw [← Option.not_isSome_iff_eq_none, Text.isSome_indexOf?_iff, Text.utf8_eq_flatMap,
      Text.utf8_eq_flatMap]
    exact fun found => unmarked (Text.infix_of_encode ascii found)
  have header : "local _moon\n".toList = headerLine ++ ['\n'] := by decide
  have produced : moonEcho.transpile source options =
      .produced (.offsetMapped (moonCode source) (echoReports 2 0 (sourceLines source))) := by
    simp only [moonEcho, absent, header, List.append_assoc, List.singleton_append]
    rfl
  refine compile_eq_success_iff.mpr ⟨_, produced, ?_, rfl, (lineMap_moonEcho source).symm⟩
  have visible : 'l' ∈ headerLine := by decide
  exact ⟨'l', by simp [Output.code, moonCode, visible], by decide⟩

end Moon

section Yue

/-- The lines of a source that are not blank, with their numbers among all lines. -/
def visibleLines (source : String) : List (Nat × List Char) :=
  (numbered (Text.lines source.toList)).filter fun entry => !entry.2.all isBlank

/-- The first of the three lines that are generated for a visible line. -/
def openingLine : List Char := "do".toList

/-- The last of the three lines that are generated for a visible line. -/
def closingLine : List Char := "end".toList

/-- The middle one of the three lines of a visible line, with its text and its number in a
comment. -/
def annotatedLine (entry : Nat × List Char) : List Char :=
  "  ".toList ++ (Text.trim entry.2 ++ (" -- ".toList ++ Text.decimal entry.1))

theorem mem_of_mem_trim {c : Char} (member : c ∈ Text.trim line) : c ∈ line := by
  have inner := List.mem_reverse.mp ((List.dropWhile_suffix _).subset (List.mem_reverse.mp member))
  exact (List.dropWhile_suffix _).subset inner

/-- Behind the three lines of a line the next ones follow, since a newline within the line would be
cut there. -/
theorem lines_annotate {entry : Nat × List Char} (clear : '\n' ∉ entry.2) (rest : List Char) :
    Text.lines (annotate entry.1 entry.2 ++ rest) =
      openingLine :: annotatedLine entry :: closingLine :: Text.lines rest := by
  have opened : "do\n  ".toList = openingLine ++ '\n' :: "  ".toList := by decide
  have closed : "\nend\n".toList = '\n' :: (closingLine ++ ['\n']) := by decide
  have spelled : annotate entry.1 entry.2 ++ rest =
      openingLine ++ '\n' :: (annotatedLine entry ++ '\n' :: (closingLine ++ '\n' :: rest)) := by
    unfold annotate annotatedLine
    rw [opened, closed]
    generalize openingLine = first
    generalize closingLine = last
    generalize "  ".toList = indent
    generalize " -- ".toList = dashes
    simp only [List.append_assoc, List.cons_append, List.nil_append]
  have middle : '\n' ∉ annotatedLine entry := by
    intro member
    simp only [annotatedLine, List.mem_append] at member
    rcases member with blanks | line | dashes | digits
    · exact absurd blanks (by decide)
    · exact clear (mem_of_mem_trim line)
    · exact absurd dashes (by decide)
    · exact absurd (Text.isDigit_of_mem_decimal digits) (by decide)
  have kept : (annotatedLine entry).getLast? ≠ some '\r' := by
    intro ending
    have last : (Text.decimal entry.1).getLast? = some '\r' := by
      have digits : Text.decimal entry.1 ≠ [] := Nat.toDigits_ne_nil
      rwa [annotatedLine, ← List.append_assoc, ← List.append_assoc,
        List.getLast?_append_of_ne_nil _ digits] at ending
    exact absurd (Text.isDigit_of_mem_decimal (List.mem_of_getLast? last)) (by decide)
  rw [spelled, Text.lines_append (by decide) (by decide), Text.lines_append middle kept,
    Text.lines_append (by decide) (by decide)]

/-- The lines of the code are those that are generated for one line after the other. -/
theorem lines_flatMap_annotate {entries : List (Nat × List Char)}
    (clear : ∀ entry ∈ entries, '\n' ∉ entry.2) :
    Text.lines (entries.flatMap fun entry => annotate entry.1 entry.2) =
      entries.flatMap fun entry => [openingLine, annotatedLine entry, closingLine] := by
  induction entries with
  | nil => rfl
  | cons entry rest ih =>
    obtain ⟨here, later⟩ := List.forall_mem_cons.mp clear
    rw [List.flatMap_cons, lines_annotate here, ih later]
    rfl

/-- The number in the comment at the end of an annotated line is that of the line, whatever the line
holds. Comments of its own stand further in front. -/
theorem commentNumber?_annotatedLine {entry : Nat × List Char} (positive : 1 ≤ entry.1)
    (small : entry.1 < Text.wordBound) :
    LineMap.commentNumber? (annotatedLine entry) = some entry.1 := by
  refine LineMap.commentNumber?_eq_some_iff.mpr ⟨"  ".toList ++ (Text.trim entry.2 ++ [' ']), [' '],
    Text.decimal entry.1, [],
    ⟨?_, ?_, Nat.toDigits_ne_nil, fun c member => Text.isDigit_of_mem_decimal member, by simp⟩,
    Text.readDecimal?_decimal small, positive⟩
  · have dashes : " -- ".toList = [' ', '-', '-', ' '] := by decide
    rw [annotatedLine, dashes]
    generalize "  ".toList = indent
    simp
  · intro c member
    obtain rfl := List.mem_singleton.mp member
    decide

/-- The visible lines are the lines of the source with a character that is not blank. Carriage
returns are blank, so both ways of cutting agree on them. -/
theorem mem_visibleLines_iff {number : Nat} :
    (number, line) ∈ visibleLines source ↔ Text.IsLine source.toList number line ∧ ∃ c ∈ line,
    isBlank c = false := by
  simp [visibleLines, List.mem_filter, Text.mem_numbered_lines_iff]

theorem pairwise_visibleLines (source : String) :
    (visibleLines source).Pairwise fun first second => first.1 < second.1 :=
  (Text.pairwise_numbered _).filter _

theorem length_visibleLines_le (source : String) :
    (visibleLines source).length ≤ (sourceLines source).length := by
  have filtered : (visibleLines source).length ≤ (Text.lines source.toList).length := by
    refine Nat.le_trans (List.length_filter_le _ _) ?_
    rw [numbered, List.length_map, List.length_zipIdx]
  refine Nat.le_trans filtered ?_
  cases last : (Text.lines source.toList).getLast? with
  | none => simp [List.getLast?_eq_none_iff.mp last]
  | some line =>
    -- The number of the last line is the number of lines.
    rw [List.getLast?_eq_getElem?] at last
    have bounds := (Text.getElem?_lines_iff.mp last).bounds
    rw [sourceLines]
    omega

/-- The place and the number of a visible line are not greater than the number of lines, so both fit
words if there are few lines. -/
theorem bounds_of_mem_numbered_visibleLines {place number : Nat}
    (member : (place, number, line) ∈ numbered (visibleLines source)) :
    place ≤ (sourceLines source).length ∧ 1 ≤ number ∧ number ≤ (sourceLines source).length := by
  obtain ⟨_, _, listed⟩ := Text.mem_numbered_iff.mp member
  have isLine := (mem_visibleLines_iff.mp (List.mem_of_getElem? listed)).1
  exact ⟨Nat.le_trans (Text.le_length_of_mem_numbered member) (length_visibleLines_le source),
    isLine.bounds⟩

def yueCode (source : String) : String :=
  String.ofList ((visibleLines source).flatMap fun entry => annotate entry.1 entry.2)

/-- The numbered lines of the code: three for every visible line, by its place among them. -/
theorem numbered_yueCode (source : String) :
    numbered (Text.lines (yueCode source).toList) = (numbered (visibleLines source)).flatMap
      fun entry =>
      [(3 * entry.1 - 2, openingLine), (3 * entry.1 - 1, annotatedLine entry.2),
        (3 * entry.1, closingLine)] := by
  have clear : ∀ entry ∈ visibleLines source, '\n' ∉ entry.2 :=
    fun _ member => (mem_visibleLines_iff.mp member).1.clear
  rw [yueCode, String.toList_ofList, lines_flatMap_annotate clear,
    Text.numbered_flatMap _ (fun _ => openingLine) annotatedLine fun _ => closingLine]

/-- The line map of the comments: every visible line under the number of the line in the middle of
its block. -/
theorem lineMap_yueEcho (few : (sourceLines source).length < Text.wordBound) :
    LineMap.ofComments (yueCode source) =
      .ofList ((numbered (visibleLines source)).map fun entry => (3 * entry.1 - 1, entry.2.1)) := by
  rw [LineMap.ofComments, numbered_yueCode, List.filterMap_flatMap, List.map_eq_flatMap]
  refine congrArg (Std.ExtTreeMap.ofList · : List (Nat × Nat) → LineMap) (List.flatMap_congr ?_)
  rintro ⟨place, number, line⟩ member
  obtain ⟨_, positive, small⟩ := bounds_of_mem_numbered_visibleLines member
  have found : LineMap.commentNumber? (annotatedLine (number, line)) = some number :=
    commentNumber?_annotatedLine positive (Nat.lt_of_le_of_lt small few)
  have first : LineMap.commentNumber? openingLine = none := by decide
  have last : LineMap.commentNumber? closingLine = none := by decide
  simp [first, last, found]

theorem transpile_yueEcho (unmarked : ¬ faultMarker.toList <:+: source.toList) :
    yueEcho.transpile source options = .produced (.annotated (yueCode source)) := by
  have absent : ((numbered (Text.lines source.toList)).find? fun entry =>
      (Text.indexOf? faultMarker.toList entry.2).isSome) = none := by
    rw [List.find?_eq_none]
    rintro ⟨number, line⟩ member
    rw [Text.isSome_indexOf?_iff]
    exact fun found => unmarked (found.trans (Text.mem_numbered_lines_iff.mp member).isInfix)
  simp only [yueEcho, absent]
  rfl

/-- The code shows something exactly if there is a visible line; otherwise it is empty and the
backend has failed. -/
theorem visible_yueCode_iff : Text.Visible (yueCode source) ↔ visibleLines source ≠ [] := by
  constructor
  · rintro ⟨c, member, _⟩ none
    rw [yueCode, none] at member
    simp at member
  · intro some
    obtain ⟨entry, rest, cut⟩ := List.exists_cons_of_ne_nil some
    have opening : 'd' ∈ "do\n  ".toList := by decide
    refine ⟨'d', ?_, by decide⟩
    rw [yueCode, cut, String.toList_ofList, List.flatMap_cons]
    unfold annotate
    generalize "do\n  ".toList = start at opening
    simp [opening]

/-- The block of a visible line has the number of its place among them, and its text. -/
theorem exists_generated {place number : Nat}
    (member : (place, number, line) ∈ numbered (visibleLines source)) :
    ∃ generated, (3 * place - 1, generated) ∈ numbered (Text.lines (yueCode source).toList) ∧
      Text.trim line <:+: generated := by
  refine ⟨annotatedLine (number, line), ?_, ?_⟩
  · rw [numbered_yueCode]
    exact List.mem_flatMap.mpr ⟨_, member, by simp⟩
  · exact ⟨_, _, List.append_assoc _ _ _⟩

/-- Compiling a source without the marker succeeds exactly if a line shows something, with the code
and the map of its blocks. -/
theorem compile_yueEcho_iff (unmarked : ¬ faultMarker.toList <:+: source.toList)
    (few : (sourceLines source).length < Text.wordBound) {code : String} {lineMap : LineMap} :
    yueEcho.compile source options = .success code lineMap ↔
      visibleLines source ≠ [] ∧ code = yueCode source ∧
        lineMap =
          .ofList ((numbered (visibleLines source)).map fun entry =>
          (3 * entry.1 - 1, entry.2.1)) := by
  rw [compile_eq_success_iff, transpile_yueEcho unmarked, ← lineMap_yueEcho few,
    ← visible_yueCode_iff]
  simp [eq_comm, Output.code, Output.lineMap]

/-- The entries of the map grow on both sides, like the places of the visible lines and their
numbers. -/
theorem pairwise_yueEntries (source : String) :
    ((numbered (visibleLines source)).map fun entry => (3 * entry.1 - 1, entry.2.1)).Pairwise
      fun first second => first.1 < second.1 ∧ first.2 < second.2 := by
  have numbers : (numbered (visibleLines source)).Pairwise fun first second =>
      first.2.1 < second.2.1 := by
    have lines := pairwise_visibleLines source
    rwa [← Text.map_snd_numbered (visibleLines source), List.pairwise_map] at lines
  refine List.pairwise_map.mpr
    (((Text.pairwise_numbered _).and numbers).imp fun growing => ⟨?_, growing.2⟩)
  have places := growing.1
  omega

end Yue

end Backend

open Backend Text

/-- Through both echoing backends every line of a source without the marker is found again from a
generated line. The first one always succeeds: it maps the line behind every line to it, and repeats
it there. The second one succeeds if a line shows something; then the map has the lines that do,
each under the line in the middle of its block, which holds its trimmed text. -/
theorem Backends.compile_echo_leads_back (backends : Backends) (dialect : Dialect) (source : String)
    (options : Options) (few : (sourceLines source).length < 0x40000000)
    (unmarked : ¬ faultMarker.toList <:+: source.toList) :
    (∀ number line, (number, line) ∈ visibleLines source ↔
      IsLine source.toList number line ∧ ∃ c ∈ line, isBlank c = false) ∧
    (backends.backend dialect = moonEcho →
      ∃ code lineMap, backends.compile dialect source options = .success code lineMap ∧
        lineMap.toList = (numbered (sourceLines source)).map
          (fun (number, _) => (number + 1, number)) ∧
        lineMap.InWords ∧
        ∀ number line, (number, line) ∈ numbered (sourceLines source) →
          (number + 1, line) ∈ numbered (sourceLines code)) ∧
    (backends.backend dialect = yueEcho →
      ((∃ code lineMap, backends.compile dialect source options = .success code lineMap) ↔
        ∃ number line, IsLine source.toList number line ∧ ∃ c ∈ line, isBlank c = false) ∧
      ∀ code lineMap, backends.compile dialect source options = .success code lineMap →
        lineMap.toList = (numbered (visibleLines source)).map
          (fun (place, number, _) => (3 * place - 1, number)) ∧
        lineMap.toList.Pairwise (fun first second => first.1 < second.1 ∧ first.2 < second.2) ∧
        lineMap.InWords ∧
        ∀ place number line, (place, number, line) ∈ numbered (visibleLines source) →
          ∃ generated, (3 * place - 1, generated) ∈ numbered (lines code.toList) ∧
          trim line <:+: generated) := by
  have bound : Text.wordBound = 0x100000000 := rfl
  refine ⟨fun _ _ => mem_visibleLines_iff, ?_, ?_⟩
  · intro chosen
    have listed := LineMap.toList_ofList (pairwise_moonEntries source)
    refine ⟨_, _, by rw [Backends.compile, chosen, compile_moonEcho unmarked], listed, ?_,
      fun _ _ => mem_numbered_moonCode⟩
    rw [LineMap.InWords, listed, List.forall_mem_map]
    rintro ⟨number, line⟩ known
    have small := le_length_of_mem_numbered known
    constructor <;> dsimp only <;> omega
  · intro chosen
    have compiled : backends.compile dialect source options = yueEcho.compile source options := by
      rw [Backends.compile, chosen]
    have growing := pairwise_yueEntries source
    have listed := LineMap.toList_ofList (growing.imp And.left)
    rw [compiled]
    refine ⟨⟨?_, ?_⟩, ?_⟩
    · rintro ⟨_, _, success⟩
      obtain ⟨some, _⟩ := (compile_yueEcho_iff unmarked (by omega)).mp success
      obtain ⟨⟨number, line⟩, member⟩ := List.exists_mem_of_ne_nil _ some
      exact ⟨number, line, mem_visibleLines_iff.mp member⟩
    · rintro ⟨_, _, shown⟩
      have some := List.ne_nil_of_mem (mem_visibleLines_iff.mpr shown)
      exact ⟨_, _, (compile_yueEcho_iff unmarked (by omega)).mpr ⟨some, rfl, rfl⟩⟩
    · intro code lineMap success
      obtain ⟨_, rfl, rfl⟩ := (compile_yueEcho_iff unmarked (by omega)).mp success
      refine ⟨listed, by rwa [listed], ?_, fun _ _ _ => exists_generated⟩
      rw [LineMap.InWords, listed, List.forall_mem_map]
      rintro ⟨place, number, line⟩ known
      have bounds := bounds_of_mem_numbered_visibleLines known
      constructor <;> dsimp only <;> omega

/-- A numbered comment of its own, a carriage return, a blank line and dashes do not mislead. -/
theorem Backends.compile_echo_leads_back_commented :
    let source := "é -- 7\r\n \n--5"
    let backends : Backends := ⟨moonEcho, yueEcho⟩
    (sourceLines source).length < 0x40000000 ∧ ¬ faultMarker.toList <:+: source.toList ∧
      (∃ code lineMap, backends.compile .moonScript source {} = .success code lineMap ∧
        lineMap.toList = [(2, 1), (3, 2), (4, 3)] ∧
        (4, ['-', '-', '5']) ∈ numbered (sourceLines code)) ∧
      ∃ code lineMap, backends.compile .yueScript source {} = .success code lineMap ∧
        lineMap.toList = [(2, 1), (5, 3)] ∧
        ∃ generated, (2, generated) ∈ numbered (lines code.toList) ∧
          ['é', ' ', '-', '-', ' ', '7'] <:+: generated := by
  intro source backends
  have few : (sourceLines source).length < 0x40000000 := by decide
  have unmarked : ¬ faultMarker.toList <:+: source.toList := by
    rw [← isSome_indexOf?_iff]
    decide
  have numberedLines : numbered (sourceLines source) =
      [(1, ['é', ' ', '-', '-', ' ', '7', '\r']), (2, [' ']), (3, ['-', '-', '5'])] := by decide
  have visible : visibleLines source =
      [(1, ['é', ' ', '-', '-', ' ', '7']), (3, ['-', '-', '5'])] := by decide
  have trimmed : trim ['é', ' ', '-', '-', ' ', '7'] = ['é', ' ', '-', '-', ' ', '7'] := by decide
  obtain ⟨shown, moon, _⟩ := backends.compile_echo_leads_back .moonScript source {} few unmarked
  obtain ⟨_, _, yue⟩ := backends.compile_echo_leads_back .yueScript source {} few unmarked
  obtain ⟨code, lineMap, success, listed, _, repeated⟩ := moon rfl
  obtain ⟨succeeds, mapped⟩ := yue rfl
  clear_value source
  have line := (shown 1 ['é', ' ', '-', '-', ' ', '7']).mp (by rw [visible]; exact .head _)
  obtain ⟨yueCode, yueMap, yueSuccess⟩ := succeeds.mpr ⟨1, _, line⟩
  obtain ⟨yueListed, _, _, generated⟩ := mapped _ _ yueSuccess
  rw [numberedLines] at listed repeated
  rw [visible] at yueListed generated
  have block := generated 1 1 _ (.head _)
  rw [trimmed] at block
  exact ⟨few, unmarked,
    ⟨code, lineMap, success, listed, repeated 3 _ (.tail _ (.tail _ (.head _)))⟩, yueCode, yueMap,
    yueSuccess, yueListed, block⟩

end DialectLoader
