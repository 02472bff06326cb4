import DialectLoader.Text.Utf8

/-!
# Reading a YAML text

A cursor is a place in a text: what is still to be read, and the offset, line and column reached.
Offsets count bytes, columns count characters. Five characters break lines; a carriage return and a
newline together are one break. Breaks are read as newlines, except the two Unicode separators,
which stay what they are.

The reader of these modules says whether a text can be read and what it means. Where and why a
reading failed, which a YAML library would put into words, is not kept.
-/

namespace DialectLoader.Yaml

/-- Whether a character breaks a line. The two Unicode separators do, although editors seldom show
them so. -/
def isBreak (c : Char) : Bool :=
  c == '\n' || c == '\r' || c == '\x85' || c == '\u2028' || c == '\u2029'

/-- Whether a character is a space or a tabulator. Other blank characters are part of a text. -/
def isBlank (c : Char) : Bool :=
  c == ' ' || c == '\t'

/-- Whether a character may occur in a text at all. One that may not refuses the whole text,
wherever it stands. -/
def isPrintable (c : Char) : Bool :=
  let n := c.toNat
  n == 0x09 || n == 0x0A || n == 0x0D || (0x20 ≤ n && n ≤ 0x7E) || n == 0x85 ||
    (0xA0 ≤ n && n ≤ 0xFFFD) || 0x10000 ≤ n

/-- A place in a text. The offset is needed for the length of keys, line and column for
indentation. -/
structure Cursor where
  rest : List Char
  offset : Nat := 0
  line : Nat := 0
  column : Nat := 0

namespace Cursor

def peek (cursor : Cursor) : Option Char :=
  cursor.rest.head?

/-- The character after the given number of others, which may be on a later line. -/
def peekAt (cursor : Cursor) (count : Nat) : Option Char :=
  cursor.rest[count]?

def sees (cursor : Cursor) (c : Char) : Bool :=
  cursor.peek == some c

def seesAny (cursor : Cursor) (choices : String) : Bool :=
  cursor.peek.any (choices.toList.contains ·)

/-- Whether the text ends after the given number of characters, or goes on with a blank or a break.
An indicator counts as one only in front of such a space. -/
def spaceAt (cursor : Cursor) (count : Nat) : Bool :=
  (cursor.peekAt count).all fun c => isBlank c || isBreak c

def atLineEnd (cursor : Cursor) : Bool :=
  cursor.peek.all isBreak

/-- Skips characters within a line. The line count stays, so a break must not be among them. -/
def skip (cursor : Cursor) (count : Nat) : Cursor :=
  { cursor with
    rest := cursor.rest.drop count
    offset := cursor.offset + Text.byteLength (cursor.rest.take count)
    column := cursor.column + count }

/-- Reads the longest run of characters with a property, which no break may have. -/
def readWhile (cursor : Cursor) (property : Char → Bool) : List Char × Cursor :=
  let run := cursor.rest.takeWhile property
  (run, cursor.skip run.length)

def skipWhile (cursor : Cursor) (property : Char → Bool) : Cursor :=
  (cursor.readWhile property).2

/-- Reads a line break and gives the text that it stands for; without one nothing happens. -/
def readBreak (cursor : Cursor) : List Char × Cursor :=
  let next (rest : List Char) (size : Nat) : Cursor :=
    { rest, offset := cursor.offset + size, line := cursor.line + 1, column := 0 }
  match cursor.rest with
  | '\r' :: '\n' :: rest => (['\n'], next rest 2)
  | c :: rest =>
    if c == '\u2028' || c == '\u2029' then ([c], next rest c.utf8Size)
    else if isBreak c then (['\n'], next rest c.utf8Size)
    else ([], cursor)
  | [] => ([], cursor)

def skipBreak (cursor : Cursor) : Cursor :=
  cursor.readBreak.2

/-- Skips a comment up to the end of its line. Whether a comment may start here is for the caller to
know. -/
def skipComment (cursor : Cursor) : Cursor :=
  if cursor.sees '#' then cursor.skipWhile (!isBreak ·) else cursor

/-- Whether a line starts here with the three given characters and a space behind them. -/
def atMarker (cursor : Cursor) (marker : String) : Bool :=
  cursor.column == 0 && marker.toList.isPrefixOf cursor.rest && cursor.spaceAt 3

/-- Whether a document starts or ends here, which ends whatever is being read. -/
def atDocumentMarker (cursor : Cursor) : Bool :=
  cursor.atMarker "---" || cursor.atMarker "..."

end Cursor

end DialectLoader.Yaml
