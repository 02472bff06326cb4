import Std.Data.ExtTreeMap
import DialectLoader.Text.Blank
import DialectLoader.Text.Digit
import DialectLoader.Text.Lines
import DialectLoader.Position

/-!
# Line maps

A line map sends lines of generated code to lines of the source. It is sparse: a generated
line without an entry belongs to the nearest mapped line before it.

Two kinds of backend output give a line map. One reports a byte offset into the source for
generated lines; the line of that offset is the entry. The other ends generated lines in a
comment `-- n` with the number of the source line.
-/

namespace DialectLoader

/-- Lines of generated code to lines of the source. Numbers are not bounded here. -/
abbrev LineMap := Std.ExtTreeMap Nat Nat

namespace LineMap

/-- The source line of a generated line: the entry of the greatest mapped line at or before it. -/
def nearest? (map : LineMap) (line : Nat) : Option Nat :=
  (map.getEntryLE? line).map (·.2)

/-- The line map of reported offsets. The last report for a generated line counts. -/
def ofOffsets (source : Bytes) (reports : List (Nat × Nat)) : LineMap :=
  .ofList (reports.map fun (generated, offset) =>
    (generated, (Position.lineColumn source offset).1))

/-- The number in the comment that ends a line: two dashes and a positive number that fits a
32-bit word, with nothing but blank characters around the number. The line is read from its end,
so that earlier dashes and digits do not matter. -/
def commentNumber? (line : List Char) : Option Nat :=
  let backwards := line.reverse.dropWhile Text.isBlank
  let digits := (backwards.takeWhile Text.isDigit).reverse
  match (backwards.dropWhile Text.isDigit).dropWhile Text.isBlank with
  | '-' :: '-' :: _ => (Text.readDecimal? Text.wordBound digits).filter (0 < ·)
  | _ => none

/-- The line map of code whose lines end in line comments. Lines without one have no entry. -/
def ofComments (code : String) : LineMap :=
  .ofList <| (Text.numbered (Text.lines code.toList)).filterMap fun (number, line) =>
    (commentNumber? line).map (number, ·)

end LineMap

end DialectLoader
