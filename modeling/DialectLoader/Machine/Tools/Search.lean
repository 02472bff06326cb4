import DialectLoader.Machine.Tools.Files
import DialectLoader.Machine.Tools.Regex

/-!
# Finding lines

The tool that writes the lines of texts in which some expression matches, or what it is asked to
tell about them. It is the `grep` of a system in its basic, extended and fixed forms; binary files
are treated as texts.
-/

namespace DialectLoader.Tools

/-- What to look for: expressions of which one has to match, or none if the search is inverted. -/
structure Search where
  regexes : List Regex
  foldsCase : Bool
  inverted : Bool

def Search.counts (search : Search) (line : List Char) : Bool :=
  (search.regexes.any fun regex => (regex.search? search.foldsCase line).isSome) != search.inverted

def Search.parts (search : Search) (line : List Char) : List (List Char) :=
  match search.regexes with
  | [] => []
  | first :: others =>
    let regex := others.foldl Regex.either first
    ((regex.all search.foldsCase line).1.map (·.text)).filter (!·.isEmpty)

def searchOf (asked : Asked) (patterns : List (List Char)) : Except String Search := do
  let spelled := (patterns.map (Text.pieces (· == '\n'))).flatten
  let regexes ← spelled.mapM fun pattern => do
    let inner ← if asked.has 'F' then .ok (Regex.literal pattern)
        else Regex.parse { extended := asked.has 'E' } pattern
    let whole := if asked.has 'x' then Regex.sequence .lineStart (.sequence inner .lineEnd)
      else inner
    return if asked.has 'w' then
      Regex.sequence (.wordEdge true false) (.sequence whole (.wordEdge false true)) else whole
  return ⟨regexes, asked.has 'i' || asked.has 'y', asked.has 'v'⟩

def shownNumbers (before behind : Nat) (counted : List Nat) (total : Nat) : List Nat :=
  (List.range total).filter fun index => counted.any fun number =>
    number ≤ index + 1 + before && index + 1 ≤ number + behind

def Search.report (search : Search) (asked : Asked) (label : List Char) (text : List Char) :
    List Char × Nat :=
  let number (letter : Char) : Option Nat :=
    (asked.value? letter).bind (Text.readDecimal? Text.wordBound)
  let lines := Text.numbered (Text.plainLines text)
  let all := lines.filter fun (_, line) => search.counts line
  let found := (number 'm').elim all all.take
  let front (mark : Char) (position : Nat) : List Char :=
    (if label.isEmpty then [] else label ++ [mark]) ++
      (if asked.has 'n' then Text.decimal position ++ [mark] else [])
  let before := (number 'B').or (number 'C') |>.getD 0
  let behind := (number 'A').or (number 'C') |>.getD 0
  let output :=
    if asked.has 'q' then []
    else if asked.has 'l' then (if found.isEmpty then [] else label ++ ['\n'])
    else if asked.has 'L' then (if found.isEmpty then label ++ ['\n'] else [])
    else if asked.has 'c' then (if label.isEmpty then [] else label ++ [':']) ++
      Text.decimal found.length ++ ['\n']
    else if asked.has 'o' then
      (found.map fun (position, line) =>
        Text.joinLines
          (if search.inverted then []
          else (search.parts line).map (front ':' position ++ ·))).flatten
    else if before = 0 && behind = 0 then
      Text.joinLines (found.map fun (position, line) => front ':' position ++ line)
    else
      let counted := found.map (·.1)
      let shown := shownNumbers before behind counted lines.length
      (shown.map fun index =>
        let gap := index != 0 && !shown.contains (index - 1) && shown.head? != some index
        let mark := if counted.contains (index + 1) then ':' else '-'
        (if gap then "--\n".toList else []) ++ front mark (index + 1) ++
          ((lines[index]?).map (·.2)).getD [] ++ ['\n']).flatten
  (output, found.length)

def grep (task : Task) : Done :=
  let known : KnownOptions := {
    plain := "EFGivcnqsolLxwhHrRayzb"
    valued := "emfABC"
    long := [("quiet", 'q'), ("silent", 'q'), ("count", 'c'), ("ignore-case", 'i'),
      ("invert-match", 'v'),
      ("line-number", 'n'), ("only-matching", 'o'), ("extended-regexp", 'E'),
      ("fixed-strings", 'F'),
      ("regexp", 'e'), ("word-regexp", 'w'), ("line-regexp", 'x'), ("max-count", 'm'),
      ("no-messages", 's'), ("text", 'a'), ("files-with-matches", 'l'), ("recursive", 'r')] }
  task.asking 2 known fun asked =>
    let asked := match task.name with
      | "egrep" => asked.adding 'E' []
      | "fgrep" => asked.adding 'F' []
      | _ => asked
    let listed := (asked.values 'f').map fun path =>
      ((task.contents path).toOption.map Text.plainLines).getD []
    let given := asked.values 'e' ++ listed.flatten
    let (patterns, operands) := if asked.has 'e' || asked.has 'f' then (given, asked.operands)
      else (asked.operands.take 1, asked.operands.drop 1)
    if patterns.isEmpty && !asked.has 'f' then
      (task.idle.complain 2 "Usage: grep [OPTION]... PATTERNS [FILE]...").complain 2 task.hint
    else
      match searchOf asked patterns with
      | .error text => task.fail 2 text
      | .ok search =>
        let deep := asked.has 'r' || asked.has 'R'
        let operands := if !deep then operands else
          ((if operands.isEmpty then [['.']] else operands).map fun operand =>
            if task.disk.isDirectoryAt (pathOf operand) then
              ((directoriesBelow task.disk 64 (pathOf operand)).map fun (directory, names) =>
                (names.filter fun name => task.disk.isFileAt (directory ++ "/" ++ name)).map
                  fun name =>
                  Text.octetsOf (directory ++ "/" ++ name)).flatten
            else [operand]).flatten
        let (found, done) := task.gather 2 plainWording operands
        let labelled := ((operands.length > 1 || deep) && !asked.has 'h') || asked.has 'H' ||
          asked.has 'l' || asked.has 'L'
        let reports := found.map fun (operand, text) =>
          let label := if operand == ['-'] then "(standard input)".toList else operand
          search.report asked (if labelled then label else []) text
        let anything := reports.any fun (_, count) => count > 0
        let errors := if asked.has 's' then [] else done.errors
        let status := if anything && (done.status == 0 || asked.has 'q') then 0
          else if done.status != 0 then 2 else 1
        { done.say (reports.map (·.1)).flatten with status, errors }

end DialectLoader.Tools
