import DialectLoader.Json.Value
import DialectLoader.Yaml.Cursor

/-!
# YAML scalars

Scalars are written plainly, in quotes or as blocks. Within plain and quoted scalars a line break
becomes a space, and of several line breaks the first is dropped. In a folded block the same holds
between lines that do not start with a blank; in a literal block every break is kept.

Loops have a fuel argument `size`, which is more than the length of the whole text.
-/

namespace DialectLoader.Yaml

/-- Blanks and line breaks between two words. Blanks next to a break do not count. -/
structure Gap where
  blanks : List Char := []
  breaks : List Char := []

namespace Gap

/-- What a gap contributes to a scalar: its blanks, or a space for one break, or the breaks without
the first. A Unicode separator in front is kept. -/
def text (gap : Gap) : List Char :=
  match gap.breaks with
  | [] => gap.blanks
  | ['\n'] => [' ']
  | '\n' :: others => others
  | breaks => breaks

/-- Reads the gap that follows. `broken` tells that a break came before, so that blanks no longer
count; `margin` is the column before which a tabulator then is an error. The fuel is the length of
the text. -/
def read (margin : Nat) : Nat → Bool → Gap → Cursor → Option (Gap × Cursor)
  | 0, _, gap, cursor => some (gap, cursor)
  | fuel + 1, broken, gap, cursor =>
    match cursor.peek with
    | none => some (gap, cursor)
    | some c =>
      if isBlank c then
        if !broken then read margin fuel broken { gap with blanks := gap.blanks ++ [c] }
          (cursor.skip 1)
        else if c == '\t' && cursor.column < margin then none
        else read margin fuel broken gap (cursor.skip 1)
      else if isBreak c then
        let (found, cursor) := cursor.readBreak
        read margin fuel true { gap with breaks := gap.breaks ++ found } cursor
      else some (gap, cursor)

end Gap

/-- Whether a plain scalar ends before the next character. Inside brackets a colon directly before
another indicator is an error, which is `none`. -/
def plainEnds? (inFlow : Bool) (cursor : Cursor) : Option Bool :=
  match cursor.peek with
  | none => some true
  | some c =>
    if isBlank c || isBreak c then some true
    else if inFlow && c == ':' && (cursor.peekAt 1).any (",?[]\x7b\x7d".toList.contains ·) then none
    else some ((c == ':' && cursor.spaceAt 1) || (inFlow && ",[]\x7b\x7d".toList.contains c))

/-- Reads the characters of a plain scalar up to the next gap or to its end. -/
def readWord (inFlow : Bool) : Nat → Cursor → Option (List Char × Cursor)
  | 0, cursor => some ([], cursor)
  | fuel + 1, cursor => do
    if ← plainEnds? inFlow cursor then return ([], cursor)
    let (word, after) ← readWord inFlow fuel (cursor.skip 1)
    return (cursor.rest.take 1 ++ word, after)

/-- Reads a plain scalar. `margin` is the least column of its further lines outside brackets, and
`found` is what has been read of it, last character first. The flag tells whether it ended behind a
line break. -/
def readPlain (inFlow : Bool) (margin size : Nat) : Nat → List Char → Gap → Cursor →
    Option (List Char × Bool × Cursor)
  | 0, found, gap, cursor => some (found.reverse, !gap.breaks.isEmpty, cursor)
  | fuel + 1, found, gap, cursor =>
    if cursor.atDocumentMarker || cursor.sees '#' then
      some (found.reverse, !gap.breaks.isEmpty, cursor)
    else do
      let (word, after) ← readWord inFlow size cursor
      let (found, gap) := if word.isEmpty then (found, gap)
        else (word.reverse ++ (gap.text.reverse ++ found), {})
      if (after.peek.any fun c => isBlank c || isBreak c) then
        let (next, after) ← Gap.read margin size (!gap.breaks.isEmpty) gap after
        if !inFlow && after.column < margin then return (found.reverse, !next.breaks.isEmpty, after)
        readPlain inFlow margin size fuel found next after
      else return (found.reverse, !gap.breaks.isEmpty, after)

/-- The character of an escape with one letter. Escapes with digits are read elsewhere. -/
def letterEscape? : Char → Option Char
  | '0' => some '\x00'
  | 'a' => some '\x07'
  | 'b' => some '\x08'
  | 't' => some '\t'
  | '\t' => some '\t'
  | 'n' => some '\n'
  | 'v' => some '\x0b'
  | 'f' => some '\x0c'
  | 'r' => some '\r'
  | 'e' => some '\x1b'
  | ' ' => some ' '
  | '"' => some '"'
  | '/' => some '/'
  | '\\' => some '\\'
  | 'N' => some '\x85'
  | '_' => some '\xa0'
  | 'L' => some '\u2028'
  | 'P' => some '\u2029'
  | _ => none

def escapeWidth? : Char → Option Nat
  | 'x' => some 2
  | 'u' => some 4
  | 'U' => some 8
  | _ => none

/-- The value of hexadecimal digits; one character that is none refuses them all. -/
def hexNumber? (digits : List Char) : Option Nat :=
  digits.foldlM (fun value c => (Json.hexValue? c).map (16 * value + ·)) 0

/-- Reads the escape behind a backslash. A number that is no character, such as a surrogate, is an
error. -/
def readEscape? (cursor : Cursor) : Option (Char × Cursor) := do
  let letter ← cursor.peek
  match escapeWidth? letter with
  | some width =>
    let digits := (cursor.rest.drop 1).take width
    guard (digits.length = width)
    let number ← hexNumber? digits
    guard (number.isValidChar)
    return (Char.ofNat number, cursor.skip (width + 1))
  | none => return (← letterEscape? letter, cursor.skip 1)

/-- Reads a quoted scalar behind its opening quote, up to and with the closing one. `found` is what
has been read of it, last character first. -/
def readQuoted (single : Bool) (size : Nat) : Nat → List Char → Cursor → Option (List Char × Cursor)
  | 0, _, _ => none
  | fuel + 1, found, cursor =>
    if cursor.atDocumentMarker then none
    else
      match cursor.peek with
      | none => none
      | some c =>
        if isBlank c || isBreak c then do
          let (gap, after) ← Gap.read 0 size false {} cursor
          readQuoted single size fuel (gap.text.reverse ++ found) after
        else if single then
          if c == '\'' then
            if cursor.peekAt 1 == some '\'' then
              readQuoted single size fuel ('\'' :: found) (cursor.skip 2)
            else some (found.reverse, cursor.skip 1)
          else readQuoted single size fuel (c :: found) (cursor.skip 1)
        else if c == '"' then some (found.reverse, cursor.skip 1)
        else if c == '\\' then
          if (cursor.peekAt 1).any isBreak then do
            let (gap, after) ← Gap.read 0 size true {} (cursor.skip 1).skipBreak
            readQuoted single size fuel (gap.breaks.reverse ++ found) after
          else do
            let (escaped, after) ← readEscape? (cursor.skip 1)
            readQuoted single size fuel (escaped :: found) after
        else readQuoted single size fuel (c :: found) (cursor.skip 1)

/-- What becomes of the line breaks at the end of a block scalar: none is kept, one, or all. -/
inductive Chomping where
  | strip
  | clip
  | keep
deriving DecidableEq

/-- Reads a sign that says how to treat the end of a block, if there is one. -/
def readChomping? (cursor : Cursor) : Option (Chomping × Cursor) :=
  match cursor.peek with
  | some '+' => some (.keep, cursor.skip 1)
  | some '-' => some (.strip, cursor.skip 1)
  | _ => none

/-- Reads a digit that fixes the indentation of a block. Zero is an error, which is `none`. -/
def readIncrement? (cursor : Cursor) : Option (Nat × Cursor) :=
  match cursor.peek with
  | some '0' => none
  | some c => if Json.isDigit c then some (c.toNat - '0'.toNat, cursor.skip 1) else some (0, cursor)
  | none => some (0, cursor)

/-- Reads the signs behind the indicator of a block scalar, in either order. The indentation is zero
when it is to be found out. -/
def readHeader? (cursor : Cursor) : Option (Chomping × Nat × Cursor) :=
  match readChomping? cursor with
  | some (chomping, after) => (readIncrement? after).map fun (increment, after) =>
    (chomping, increment, after)
  | none => do
    let (increment, after) ← readIncrement? cursor
    if increment = 0 then return (.clip, 0, after)
    match readChomping? after with
    | some (chomping, after) => return (chomping, increment, after)
    | none => return (.clip, increment, after)

/-- Reads the empty lines before a line of a block. With the indentation still unknown (zero) all
spaces are skipped, and the deepest column is remembered. -/
def readEmptyLines (indent : Nat) :
    Nat → Nat → List Char → Cursor → Option (Nat × List Char × Cursor)
  | 0, deepest, breaks, cursor => some (deepest, breaks, cursor)
  | fuel + 1, deepest, breaks, cursor =>
    let spaces := (cursor.rest.takeWhile (· == ' ')).length
    let cursor := cursor.skip (if indent = 0 then spaces else min spaces (indent - cursor.column))
    let deepest := max deepest cursor.column
    if (indent = 0 || cursor.column < indent) && cursor.sees '\t' then none
    else if cursor.peek.any isBreak then
      let (found, cursor) := cursor.readBreak
      readEmptyLines indent fuel deepest (breaks ++ found) cursor
    else some (deepest, breaks, cursor)

/-- The lines of a block scalar that have been read: the text, last character first, the break
behind the last line, the empty lines behind that, and whether the last line started with a
blank. -/
structure BlockText where
  found : List Char := []
  lastBreak : List Char := []
  emptyLines : List Char := []
  blankStart : Bool := false

/-- The text with the next line put behind it, last character first. Here folding decides what the
breaks between two lines come to. -/
def BlockText.join (block : BlockText) (folds : Bool) (line : List Char) : List Char :=
  let blank := line.head?.any isBlank
  let joint :=
    if folds && block.lastBreak == ['\n'] && !block.blankStart && !blank then
      if block.emptyLines.isEmpty then [' '] else []
    else block.lastBreak
  line.reverse ++ (block.emptyLines.reverse ++ (joint.reverse ++ block.found))

/-- Reads the lines of a block scalar whose indentation is known. The first line that is less deep
ends it. -/
def readBlockLines (folds : Bool) (indent size : Nat) :
    Nat → BlockText → Cursor → Option (BlockText × Cursor)
  | 0, block, cursor => some (block, cursor)
  | fuel + 1, block, cursor =>
    if cursor.column == indent && cursor.peek.isSome then do
      let (line, after) := cursor.readWhile (!isBreak ·)
      let (lastBreak, after) := after.readBreak
      let (_, emptyLines, after) ← readEmptyLines indent size 0 [] after
      readBlockLines folds indent size fuel
        ⟨block.join folds line, lastBreak, emptyLines, line.head?.any isBlank⟩ after
    else some (block, cursor)

/-- Reads a block scalar behind its indicator; `outer` is the indentation of what it belongs to, one
more than its column, so that zero stands for the whole document. -/
def readBlock (folds : Bool) (outer size : Nat) (cursor : Cursor) :
    Option (List Char × Cursor) := do
  let (chomping, increment, cursor) ← readHeader? cursor
  let cursor := (cursor.skipWhile isBlank).skipComment
  guard cursor.atLineEnd
  let cursor := cursor.skipBreak
  let fixed := if increment = 0 then 0 else (outer - 1) + increment
  let (deepest, emptyLines, cursor) ← readEmptyLines fixed size 0 [] cursor
  let indent := if fixed = 0 then max deepest (max outer 1) else fixed
  let (block, cursor) ← readBlockLines folds indent size size { emptyLines } cursor
  let ending := match chomping with
    | .strip => []
    | .clip => block.lastBreak
    | .keep => block.lastBreak ++ block.emptyLines
  return (block.found.reverse ++ ending, cursor)

end DialectLoader.Yaml
