import DialectLoader.Text.Utf8

/-!
# Positions in a source

A position is given as a byte offset or as a line and a column, both counted from one. Columns
count bytes from the last newline before the position, and the newline itself still belongs to
the line that it ends. The offset after the last byte is a position too.

Outside the text both views are clamped: an offset to the end of the text, a column to the end
of its line, a line past the last one to the end of the text. Line and column zero mean one.
-/

namespace DialectLoader

/-- A location in a source: line and column from one, offset in bytes. The three are stored side by
side, and nothing in the structure makes them agree. -/
structure Position where
  line : Nat
  column : Nat
  offset : Nat
deriving DecidableEq, Repr

namespace Position

def newline : UInt8 := 10

/-- The line and the column of a byte offset. An offset past the end counts as the end, since only
the bytes before it are looked at. -/
def lineColumn (text : Bytes) (offset : Nat) : Nat × Nat :=
  let before := text.take offset
  (before.count newline + 1, (before.reverse.takeWhile (· != newline)).length + 1)

/-- Where the line with a given number of newlines before it starts. There is none when the text has
fewer newlines than that. -/
def lineStart? : Bytes → Nat → Option Nat
  | _, 0 => some 0
  | [], _ + 1 => none
  | b :: rest, skipped + 1 =>
    (lineStart? rest (if b = newline then skipped else skipped + 1)).map (· + 1)

/-- The byte offset of a line and a column. A column past the end of its line is taken back to the
newline that ends it, never into the next line. -/
def offsetOf (text : Bytes) (line column : Nat) : Nat :=
  match lineStart? text (line - 1) with
  | none => text.length
  | some start =>
    let length := ((text.drop start).takeWhile (· != newline)).length
    start + min (column - 1) length

/-- The number of lines, the part after the last newline included. So a text that ends in a newline
has an empty last line, and the empty text has one line. -/
def lineCount (text : Bytes) : Nat :=
  text.count newline + 1

/-- The position of a byte offset. The offset is clamped to the text, so the position is one of the
text whatever the offset was. -/
def ofOffset (text : Bytes) (offset : Nat) : Position :=
  let (line, column) := lineColumn text offset
  ⟨line, column, min offset text.length⟩

/-- The position of a line and a column. Both are kept as they were given; only the offset is
clamped, so the position may name a place that the text does not have. -/
def ofLineColumn (text : Bytes) (line column : Nat) : Position :=
  ⟨line, column, offsetOf text line column⟩

end Position

end DialectLoader
