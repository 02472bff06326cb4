/-!
# Lines of a text

A line ends at a newline; a carriage return directly before that newline belongs to the line
end. What follows the last newline is a line of its own only when it is not empty, and a
carriage return there is kept, since no newline follows it.
-/

namespace DialectLoader.Text

/-- Cuts a text at every separator. There is always one more piece than there are separators, so the
empty text is one empty piece. -/
def pieces {α : Type} (isSeparator : α → Bool) : List α → List (List α)
  | [] => [[]]
  | c :: rest =>
    match isSeparator c, pieces isSeparator rest with
    | true, found => [] :: found
    | false, [] => [[c]]
    | false, piece :: found => (c :: piece) :: found

/-- Drops one carriage return from the end. A second one before it belongs to the line. -/
def dropReturn (line : List Char) : List Char :=
  if line.getLast? = some '\r' then line.dropLast else line

/-- Turns the pieces between newlines into lines. All pieces but the last were ended by a newline,
and the last one counts only if it is not empty. -/
def linesOfPieces : List (List Char) → List (List Char)
  | [] => []
  | [last] => if last.isEmpty then [] else [last]
  | piece :: rest => dropReturn piece :: linesOfPieces rest

/-- The lines of a text, without their ends. The empty text has none. -/
def lines (cs : List Char) : List (List Char) :=
  linesOfPieces (pieces (· == '\n') cs)

/-- The elements of a list with their one-based numbers, as lines are counted. -/
def numbered {α : Type} (items : List α) : List (Nat × α) :=
  items.zipIdx.map fun (item, index) => (index + 1, item)

end DialectLoader.Text
