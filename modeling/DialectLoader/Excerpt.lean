import DialectLoader.Text.Blank
import DialectLoader.Text.Digit
import DialectLoader.Text.Lines
import DialectLoader.Text.Utf8

/-!
# Source excerpts

An excerpt shows a window of lines around one line of a source. The indentation that the
window's non-blank lines share is taken off, line numbers are aligned to the right, and the
line in question carries a mark. Rows lose their trailing blank characters.

Indentation is measured in bytes. A line in which that many bytes end inside a character, or
which is shorter, loses all its leading blank characters instead.
-/

namespace DialectLoader.Excerpt

/-- The number of bytes of the blank characters that start a line. A tabulator counts as one. -/
def indentation (line : List Char) : Nat :=
  Text.byteLength (line.takeWhile Text.isBlank)

/-- The smallest indentation of the lines that are not blank, zero if all are. -/
def commonIndentation (window : List (List Char)) : Nat :=
  ((window.filter (!·.all Text.isBlank)).map indentation).min?.getD 0

/-- What is left after the given number of bytes, if these end between two characters. -/
def dropBytes? : Nat → List Char → Option (List Char)
  | 0, line => some line
  | _ + 1, [] => none
  | bytes + 1, c :: rest =>
    if c.utf8Size ≤ bytes + 1 then dropBytes? (bytes + 1 - c.utf8Size) rest else none

/-- A line without the window's indentation, or without all its leading blanks where that cannot be
taken off exactly. -/
def unindent (bytes : Nat) (line : List Char) : List Char :=
  (dropBytes? bytes line).getD (Text.trimStart line)

/-- A number in a column of the given width, aligned to the right. -/
def padded (width number : Nat) : List Char :=
  List.replicate (width - (Text.decimal number).length) ' ' ++ Text.decimal number

/-- One row: mark, number, bar and text, without blanks at its end. -/
def row (marked : Bool) (width number : Nat) (line : List Char) : List Char :=
  Text.trimEnd ((if marked then '>' else ' ') :: ' ' :: padded width number ++ " | ".toList ++ line)

/-- The numbered lines from `first` to `last`, both included, as far as the source has them. -/
def window (lines : List (List Char)) (first last : Nat) : List (Nat × List Char) :=
  ((Text.numbered lines).take last).drop (first - 1)

/-- The excerpt around a line, counted from one, with up to `before` lines ahead of it and `after`
lines behind it. There is none for a line that the source does not have. -/
def render? (source : String) (line before after : Nat) : Option String :=
  let lines := Text.lines source.toList
  if line = 0 ∨ lines.length < line then none
  else
    let last := min (line + after) lines.length
    let shown := window lines (max (line - before) 1) last
    let indent := commonIndentation (shown.map (·.2))
    let width := (Text.decimal last).length
    some <| String.ofList <| shown.flatMap fun (number, text) =>
      row (number = line) width number (unindent indent text) ++ ['\n']

end DialectLoader.Excerpt
