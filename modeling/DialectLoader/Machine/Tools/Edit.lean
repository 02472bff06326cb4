import DialectLoader.Machine.Tools.Search

/-!
# Editing lines

The tool that edits texts line by line. Its script is a list of instructions, each of which may be
bound to lines by their numbers or by what is in them. A line is read into a workspace, all
instructions are followed in turn, and the workspace is written. A second text, the store, lasts
from line to line.

A block is an instruction that tells how many of those behind it to leave out where it does not
apply, so that a script is a plain list and a jump leads to one of its ends.

The language is that of `sed`, with the usual extensions of one implementation and without running
programs. Jumps may make a round endless; a number bounds them.
-/

namespace DialectLoader.Tools.Edit

inductive Address where
  | line (number : Nat)
  | finalLine
  | matching (regex : Option Regex) (foldsCase : Bool)
  | every (first step : Nat)
  | further (count : Nat)
  | multiple (count : Nat)
deriving DecidableEq

inductive NewPart where
  | text (characters : List Char)
  | group (number : Nat)
  | case (letter : Char)
deriving DecidableEq

/-- What an instruction does. Letters that need nothing else are kept as they are. -/
inductive Action where
  | substitute (regex : Option Regex) (foldsCase : Bool) (new : List NewPart) (all : Bool)
    (nth : Nat)
      (prints : Bool) (file : Option (List Char))
  | exchange (old new : List Char)
  | block (length : Nat)
  | label (name : List Char)
  | jump (name : List Char) (kind : Char)
  | append (text : List Char)
  | insert (text : List Char)
  | change (text : List Char)
  | readFile (path : List Char)
  | writeFile (path : List Char)
  | quit (prints : Bool) (status : Nat)
  | plain (letter : Char)
deriving DecidableEq

/-- An instruction with the lines that it is for. Without addresses it is for all of them. -/
structure Instruction where
  index : Nat := 0
  first : Option Address
  last : Option Address
  negated : Bool
  action : Action
deriving DecidableEq

abbrev Problem := List Char × String

def readDelimited? (brackets : Bool) (delimiter : Char) :
    Nat → Bool → List Char → Option (List Char × List Char)
  | 0, _, _ | _ + 1, _, [] => none
  | fuel + 1, inSet, '\\' :: c :: rest =>
    (readDelimited? brackets delimiter fuel inSet rest).map fun (text, after) =>
      (if c == delimiter && !inSet then c :: text
        else if c == '\n' && brackets then 'n' :: text
        else '\\' :: c :: text, after)
  | fuel + 1, inSet, c :: rest =>
    if c == delimiter && !inSet then some ([], rest)
    else if c == '\n' && brackets && !inSet then none
    else
      let (taken, rest, inSet) :=
        if !brackets then ([c], rest, false)
        else if inSet then ([c], rest, c != ']')
        else if c == '[' then
          let negation := rest.takeWhile (· == '^') |>.take 1
          let closing := (rest.drop negation.length).takeWhile (· == ']') |>.take 1
          (c :: negation ++ closing, rest.drop (negation.length + closing.length), true)
        else ([c], rest, false)
      (readDelimited? brackets delimiter fuel inSet rest).map fun (text, after) =>
        (taken ++ text, after)

def newParts : Nat → List Char → List NewPart
  | 0, _ | _ + 1, [] => []
  | fuel + 1, '&' :: rest => .group 0 :: newParts fuel rest
  | fuel + 1, '\\' :: c :: rest =>
    match Text.digitValue? c with
    | some number => .group number :: newParts fuel rest
    | none =>
      if "LUluE".toList.contains c then .case c :: newParts fuel rest
      else .text [(Regex.controlEscape? c).getD c] :: newParts fuel rest
  | fuel + 1, c :: rest => .text [c] :: newParts fuel rest

def skipBlanks (text : List Char) : List Char :=
  text.dropWhile isSpace

def readRegex (extended : Bool) (spelled rest : List Char) : Except Problem (Option Regex) :=
  if spelled.isEmpty then .ok none
  else
    match Regex.parse { extended } spelled with
    | .ok regex => .ok (some regex)
    | .error text => .error (rest, text)

def readAddress (extended : Bool) (text : List Char) :
    Except Problem (Option Address × List Char) :=
  let number (text : List Char) : Nat × List Char := Format.readNumber text
  match text with
  | '$' :: rest => .ok (some .finalLine, rest)
  | '/' :: rest => readMatching '/' rest
  | '\\' :: delimiter :: rest => readMatching delimiter rest
  | c :: _ =>
    if c.isDigit then
      let (first, rest) := number text
      match rest with
      | '~' :: more => let (step, rest) := number more; .ok (some (.every first step), rest)
      | _ => .ok (some (.line first), rest)
    else .ok (none, text)
  | [] => .ok (none, [])
where
  readMatching (delimiter : Char) (rest : List Char) : Except Problem
    (Option Address × List Char) :=
    match readDelimited? true delimiter (rest.length + 1) false rest with
    | none => .error ([], "unterminated address regex")
    | some (spelled, rest) => do
      let regex ← readRegex extended spelled rest
      let flags := rest.takeWhile fun c => c == 'I' || c == 'M'
      return (some (.matching regex (flags.contains 'I')), rest.drop flags.length)

def readLast (extended : Bool) (text : List Char) : Except Problem (Option Address × List Char) :=
  match text with
  | '+' :: rest => let (count, rest) := Format.readNumber rest; .ok (some (.further count), rest)
  | '~' :: rest => let (count, rest) := Format.readNumber rest; .ok (some (.multiple count), rest)
  | _ => readAddress extended text

def readText : List Char → List Char × List Char
  | [] => ([], [])
  | '\\' :: c :: rest => let (text, after) := readText rest; (c :: text, after)
  | '\n' :: rest => ([], rest)
  | c :: rest => let (text, after) := readText rest; (c :: text, after)

def readAddition (rest : List Char) : Except Problem (List Char × List Char) :=
  let spaced := rest.dropWhile fun c => c == ' ' || c == '\t'
  match spaced with
  | [] => .error ([], "expected \\ after \x60a', \x60c' or \x60i'")
  | '\\' :: more =>
    let body := match more.dropWhile fun c => c == ' ' || c == '\t' with
      | '\n' :: body => body
      | _ => more
    let (text, after) := readText body
    .ok (text ++ ['\n'], after)
  | _ =>
    let (text, after) := readText spaced
    .ok (text ++ ['\n'], after)

def readWord (ends : Char → Bool) (rest : List Char) : List Char × List Char :=
  let spaced := rest.dropWhile fun c => c == ' ' || c == '\t'
  let word := spaced.takeWhile (!ends ·)
  ((word.reverse.dropWhile isSpace).reverse, spaced.drop word.length)

def readSubstitution (extended : Bool) (text : List Char) :
    Except Problem (Action × List Char) := do
  let delimiter := text.headD '/'
  let rest := text.drop 1
  let some (spelled, rest) := readDelimited? true delimiter (rest.length + 1) false rest
    | .error ([], "unterminated \x60s' command")
  let some (new, rest) := readDelimited? false delimiter (rest.length + 1) false rest
    | .error ([], "unterminated \x60s' command")
  let flags := rest.takeWhile fun c => c.isDigit || "gpiIeMm".toList.contains c
  let behind := rest.drop flags.length
  let regex ← readRegex extended spelled behind
  let parts := newParts new.length new
  let most := parts.foldl (fun most part => match part with
    | .group number => max most number
    | _ => most) 0
  if let some known := regex then
    if known.groupCount < most then
      .error (behind, "invalid reference \\" ++ String.ofList (Text.decimal most) ++
        " on \x60s' command's RHS")
  let nth := (Text.readDecimal? Text.wordBound (flags.filter Char.isDigit)).getD 1
  let file := match behind with
    | 'w' :: more => some (readWord (· == '\n') more)
    | _ => none
  let action := Action.substitute regex (flags.contains 'i' || flags.contains 'I') parts
    (flags.contains 'g') nth
    (flags.contains 'p') (file.map (·.1))
  return (action, (file.map (·.2)).getD behind)

def readExchange (text : List Char) : Except Problem (Action × List Char) := do
  let delimiter := text.headD '/'
  let rest := text.drop 1
  let unescape (text : List Char) : List Char :=
    (newParts text.length text).flatMap fun
      | .text characters => characters
      | .group 0 => ['&']
      | .group number => '\\' :: Text.decimal number
      | .case letter => ['\\', letter]
  let some (old, rest) := readDelimited? false delimiter (rest.length + 1) false rest
    | .error ([], "unterminated \x60y' command")
  let some (new, rest) := readDelimited? false delimiter (rest.length + 1) false rest
    | .error ([], "unterminated \x60y' command")
  if (unescape old).length = (unescape new).length then
    return (.exchange (unescape old) (unescape new), rest)
  else .error (rest, "strings for \x60y' command are different lengths")

def readAction (extended : Bool) (letter : Char) (rest : List Char) :
    Except Problem (Action × List Char) :=
  let endsName (c : Char) : Bool := c == '\n' || c == ';' || c == '\x7d'
  match letter with
  | 's' => readSubstitution extended rest
  | 'y' => readExchange rest
  | 'a' => (readAddition rest).map fun (text, rest) => (.append text, rest)
  | 'i' => (readAddition rest).map fun (text, rest) => (.insert text, rest)
  | 'c' => (readAddition rest).map fun (text, rest) => (.change text, rest)
  | ':' => let (name, rest) :=
    readWord (fun c => c == '\n' || c == ';') rest; .ok (.label name, rest)
  | 'b' | 't' | 'T' => let (name, rest) := readWord endsName rest; .ok (.jump name letter, rest)
  | 'r' => let (path, rest) := readWord (· == '\n') rest; .ok (.readFile path, rest)
  | 'w' => let (path, rest) := readWord (· == '\n') rest; .ok (.writeFile path, rest)
  | 'q' | 'Q' =>
    let (status, rest) := Format.readNumber (rest.dropWhile fun c => c == ' ' || c == '\t')
    .ok (.quit (letter == 'q') status, rest)
  | _ =>
    if "dDpP=nNhHgGxlFz".toList.contains letter then .ok (.plain letter, rest)
    else .error (rest, "unknown command: \x60" ++ Text.ofOctets [letter] ++ "'")

def readInstructions (extended : Bool) :
    Nat → Nat → List Char → Except Problem (List Instruction × List Char)
  | 0, _, rest => .error (rest, "script too long")
  | fuel + 1, depth, text => do
    let text := text.dropWhile fun c => isSpace c || c == ';'
    let (first, rest) ← readAddress extended text
    let rest := skipBlanks rest
    let (last, rest) ← match first, rest with
      | some _, ',' :: more => do
        let (last, after) ← readLast extended (skipBlanks more)
        if last.isNone then .error (more, "unexpected \x60,'") else pure (last, skipBlanks after)
      | _, _ => pure (none, rest)
    let negated := rest.head? == some '!'
    let rest := if negated then (rest.dropWhile (· == '!')).dropWhile isSpace else rest
    match rest with
    | [] =>
      if first.isSome then .error ([], "missing command")
      else if depth > 0 then .error ([], "")
      else return ([], [])
    | '#' :: more =>
      if first.isSome then .error (more, "comments don't accept any addresses")
      else readInstructions extended fuel depth (more.dropWhile (· != '\n'))
    | '\x7d' :: more =>
      if first.isSome then .error (more, "\x7d doesn't want any addresses")
      else if depth = 0 then .error (more, "unexpected \x60\x7d'")
      else return ([], more)
    | '\x7b' :: more =>
      let (inner, more) ← readInstructions extended fuel (depth + 1) more
      let (others, more) ← readInstructions extended fuel depth more
      return ({ first, last, negated, action := .block inner.length } :: inner ++ others, more)
    | letter :: more =>
      let (action, more) ← readAction extended letter more
      let spaced := more.dropWhile fun c => c == ' ' || c == '\t'
      let ends := match action with
        | .append _ | .insert _ | .change _ => true
        | _ => spaced.isEmpty || spaced.head?.any fun c => c == ';' || c == '\n' || c == '\x7d' ||
          c == '#'
      if !ends then
        .error (spaced.drop 1, if letter == 's' then "unknown option to \x60s'"
          else "extra characters after command")
      else
        let (others, more) ← readInstructions extended fuel depth more
        return ({ first, last, negated, action } :: others, more)

/-- The state of an edit. Ranges that have begun are part of it, since they reach over several
lines. -/
structure State where
  lines : List (List Char × Bool)
  number : Nat := 0
  workspace : List Char := []
  ended : Bool := true
  store : List Char := []
  queue : List (List Char) := []
  output : List (List Char) := []
  owes : Bool := false
  replaced : Bool := false
  regex : Option Regex := none
  begun : List (Nat × Option Nat) := []
  disk : Disk
  status : Nat := 0

inductive Outcome where
  | next
  | again
  | quit

def State.write (state : State) (text : List Char) : State :=
  { state with
    output := text :: (if state.owes then ['\n'] :: state.output else state.output), owes := false }

def State.writeLine (state : State) (line : List Char) : State :=
  if state.ended then state.write (line ++ ['\n']) else { state.write line with owes := true }

def State.writeTo (state : State) (path line : List Char) : State :=
  if path == "/dev/stdout".toList then state.writeLine line
  else
    match state.disk.openFile (pathOf path) true with
    | (.ok place, disk) =>
      { state with disk := disk.appendTo place (Text.octetBytes (line ++ ['\n'])) }
    | _ => state

def State.flush (state : State) : State :=
  { state.queue.reverse.foldl State.write state with queue := [] }

def State.advance? (state : State) : Option State :=
  match state.lines with
  | [] => none
  | (line, ended) :: rest =>
    some { state with
      lines := rest, number := state.number + 1, workspace := line, ended, replaced := false }

def State.tells (state : State) : Address → Bool × State
  | .line number => (state.number == number, state)
  | .finalLine => (state.lines.isEmpty, state)
  | .every first step =>
    (if step = 0 then state.number == first else first ≤ state.number &&
      (state.number - first) % step == 0, state)
  | .matching regex foldsCase =>
    let used := regex.or state.regex
    ((used.bind fun regex => regex.search? foldsCase state.workspace).isSome,
      { state with regex := used })
  | .further _ | .multiple _ => (false, state)

def State.lastLine (state : State) : Address → Option Nat
  | .line number => some number
  | .further count => some (state.number + count)
  | .multiple count =>
    some (if count = 0 then state.number else (state.number + count - 1) / count * count)
  | _ => none

def State.applies (state : State) (instruction : Instruction) : Bool × Bool × State :=
  let close (state : State) : State :=
    { state with begun := state.begun.filter (·.1 != instruction.index) }
  match instruction.first, instruction.last with
  | none, _ => (true, true, state)
  | some first, none => let (told, state) := state.tells first; (told, true, state)
  | some first, some last =>
    match state.begun.lookup instruction.index with
    | some (some stop) =>
      if state.number < stop then (true, false, state)
      else if state.number = stop then (true, true, close state)
      else
        let (told, state) := (close state).tells first
        if told then begins state last else (false, false, state)
    | some none =>
      let (told, state) := state.tells last
      if told then (true, true, close state) else (true, false, state)
    | none =>
      if first == .line 0 && state.number = 1 then
        let (told, state) := state.tells last
        if told then (true, true, state)
        else (true, false, { state with begun := (instruction.index, none) :: state.begun })
      else
        let (told, state) := state.tells first
        if told then begins state last else (false, false, state)
where
  begins (state : State) (last : Address) : Bool × Bool × State :=
    match state.lastLine last with
    | some stop =>
      if stop ≤ state.number then (true, true, state)
      else (true, false, { state with begun := (instruction.index, some stop) :: state.begun })
    | none =>
      if last == .finalLine && state.lines.isEmpty then (true, true, state)
      else (true, false, { state with begun := (instruction.index, none) :: state.begun })

def build (found : Regex.Found) : Option Char → Option Char → List NewPart → List Char
  | _, _, [] => []
  | _, _, .case 'E' :: rest => build found none none rest
  | lasting, once, .case letter :: rest =>
    if letter == 'L' || letter == 'U' then build found (some letter) once rest
    else build found lasting (some letter) rest
  | lasting, once, part :: rest =>
    let text := match part with
      | .text characters => characters
      | .group number => found.group number
      | .case _ => []
    let change (kind : Option Char) (c : Char) : Char :=
      match kind with
      | some 'U' | some 'u' => c.toUpper
      | some 'L' | some 'l' => c.toLower
      | _ => c
    match text with
    | [] => build found lasting once rest
    | c :: others =>
      change (once.or lasting) c :: others.map (change lasting) ++ build found lasting none rest

def replace? (regex : Regex) (foldsCase : Bool) (new : List NewPart) (all : Bool) (nth : Nat)
    (text : List Char) : Option (List Char) :=
  let (found, last) := regex.all foldsCase text
  if found.length < nth then none
  else
    some (((Text.numbered found).map fun (number, hit) =>
      let chosen := number == nth || (all && nth < number)
      hit.before ++ if chosen then build hit none none new else hit.text).flatten ++ last)

def visible (text : List Char) : List Char :=
  (text.flatMap fun c =>
    match c with
    | '\\' => ['\\', '\\']
    | '\x07' => ['\\', 'a']
    | '\x08' => ['\\', 'b']
    | '\x0c' => ['\\', 'f']
    | '\n' => ['\\', 'n']
    | '\r' => ['\\', 'r']
    | '\t' => ['\\', 't']
    | '\x0b' => ['\\', 'v']
    | _ =>
      if ' ' ≤ c && c ≤ '~' then [c]
      else
        let digits := Nat.toDigits 8 c.toNat
        '\\' :: List.replicate (3 - digits.length) '0' ++ digits) ++ ['$']

def follow (script : List Instruction) (quiet : Bool) :
    Nat → List Instruction → State → Outcome × State
  | 0, _, state => (.quit, { state with status := 4 })
  | _ + 1, [], state => (.next, if quiet then state else state.writeLine state.workspace)
  | fuel + 1, instruction :: rest, state =>
    let (told, closes, state) := state.applies instruction
    if told == instruction.negated then
      match instruction.action with
      | .block length => follow script quiet fuel (rest.drop length) state
      | _ => follow script quiet fuel rest state
    else
      let goOn (state : State) := follow script quiet fuel rest state
      let shown (state : State) : State := if quiet then state else state.writeLine state.workspace
      match instruction.action with
      | .block _ | .label _ => goOn state
      | .substitute regex foldsCase new all nth prints file =>
        let used := regex.or state.regex
        match used.bind fun regex => replace? regex foldsCase new all nth state.workspace with
        | none => goOn { state with regex := used }
        | some text =>
          let state := { state with regex := used, workspace := text, replaced := true }
          let state := if prints then state.writeLine text else state
          goOn (file.elim state fun path => state.writeTo path text)
      | .exchange old new =>
        goOn { state with
          workspace := state.workspace.map fun c => ((old.zip new).lookup c).getD c }
      | .jump name kind =>
        let jumps := kind == 'b' || (kind == 't') == state.replaced
        let state := if kind == 'b' then state else { state with replaced := false }
        if !jumps then goOn state
        else if name.isEmpty then follow script quiet fuel [] state
        else follow script quiet fuel
          ((script.dropWhile fun known => known.action != .label name).drop 1) state
      | .append text => goOn { state with queue := text :: state.queue }
      | .insert text => goOn (state.write text)
      | .change text =>
        let state := if closes || instruction.negated then state.write text else state
        (.next, state)
      | .readFile path =>
        match state.disk.readAt (pathOf path) with
        | .ok bytes => goOn { state with queue := Text.octets bytes :: state.queue }
        | .error _ => goOn state
      | .writeFile path => goOn (state.writeTo path state.workspace)
      | .quit prints status => (.quit, { (if prints then shown state else state) with status })
      | .plain letter =>
        let line := state.workspace.takeWhile (· != '\n')
        match letter with
        | 'd' => (.next, state)
        | 'D' =>
          if line.length = state.workspace.length then (.next, state)
          else (.again, { state with workspace := state.workspace.drop (line.length + 1) })
        | 'p' => goOn (state.writeLine state.workspace)
        | 'P' => goOn (state.write (line ++ ['\n']))
        | '=' => goOn (state.write (Text.decimal state.number ++ ['\n']))
        | 'l' => goOn (state.write (visible state.workspace ++ ['\n']))
        | 'n' =>
          let state := shown state
          match state.flush.advance? with
          | some next => goOn { next with replaced := state.replaced }
          | none => (.quit, state)
        | 'N' =>
          match state.flush.advance? with
          | some next =>
            goOn { next with workspace := state.workspace ++ '\n' :: next.workspace, replaced :=
              state.replaced }
          | none => (.quit, shown state)
        | 'h' => goOn { state with store := state.workspace }
        | 'H' => goOn { state with store := state.store ++ '\n' :: state.workspace }
        | 'g' => goOn { state with workspace := state.store }
        | 'G' => goOn { state with workspace := state.workspace ++ '\n' :: state.store }
        | 'x' => goOn { state with workspace := state.store, store := state.workspace }
        | 'z' => goOn { state with workspace := [] }
        | 'F' => goOn (state.write ['-', '\n'])
        | _ => goOn state

def rounds (script : List Instruction) (quiet : Bool) : Nat → Bool → State → State
  | 0, _, state => state
  | fuel + 1, reads, state =>
    match if reads then state.advance? else some state with
    | none => state
    | some state =>
      match follow script quiet (100000 + 1000 * script.length) script state with
      | (.quit, state) => state.flush
      | (.next, state) => rounds script quiet fuel true state.flush
      | (.again, state) => rounds script quiet fuel false state.flush

def linesOf (texts : List (List Char)) : List (List Char × Bool) :=
  (texts.map fun text => (wholeLines text).map fun whole =>
    let (line, newline) := splitNewline whole
    (line, !newline.isEmpty)).flatten

def edit (script : List Instruction) (quiet : Bool) (texts : List (List Char)) (disk : Disk) :
    State :=
  let lines := linesOf texts
  rounds script quiet (100 * lines.length + 1000) true { lines, disk }

def plainScript : List Char → List Char
  | '\\' :: 'x' :: upper :: lower :: rest =>
    match Json.hexValue? upper, Json.hexValue? lower with
    | some high, some low =>
      let c := Char.ofNat (16 * high + low)
      (if c == '\n' then ['\\', 'n'] else if "$*.[\\]^&/".toList.contains c then ['\\', c]
        else [c]) ++ plainScript rest
    | _, _ => '\\' :: 'x' :: plainScript (upper :: lower :: rest)
  | '\\' :: c :: rest => '\\' :: c :: plainScript rest
  | c :: rest => c :: plainScript rest
  | [] => []

def scriptOf (extended : Bool) (pieces : List (List Char)) : Except String (List Instruction) :=
  let text := plainScript (['\n'].intercalate pieces)
  match readInstructions extended (2 * text.length + 8) 0 text with
  | .error (rest, problem) =>
    let place := if problem.isEmpty then 0 else text.length - rest.length
    .error ("-e expression #1, char " ++ String.ofList (Text.decimal place) ++ ": " ++
      (if problem.isEmpty then "unmatched \x60\x7b'" else problem))
  | .ok (instructions, _) =>
    let script := instructions.zipIdx.map fun (instruction, index) => { instruction with index }
    let lost := script.findSome? fun instruction =>
      match instruction.action with
      | .jump name _ =>
        if name.isEmpty || script.any (·.action == .label name) then none else some name
      | _ => none
    match lost with
    | some name => .error ("can't find label for jump to \x60" ++ Text.ofOctets name ++ "'")
    | none => .ok script

def editFiles (task : Task) (script : List Instruction) (quiet : Bool)
    (operands : List (List Char)) : Done :=
  operands.foldl
    (fun done operand =>
      match done.disk.readAt (pathOf operand) with
      | .error .isDirectory =>
        done.complain 4 ("sed: couldn't edit " ++ pathOf operand ++ ": not a regular file")
      | .error cause => done.complain 2 ("sed: can't read " ++ plainWording operand cause.reason)
      | .ok bytes =>
        let final := edit script quiet [Text.octets bytes] done.disk
        let written :=
          final.disk.writeAt (pathOf operand) (Text.octetBytes final.output.reverse.flatten)
        { done with disk := written.2, status := max done.status final.status })
    task.idle

end DialectLoader.Tools.Edit

namespace DialectLoader.Tools

def sed (task : Task) : Done :=
  let arguments := task.arguments.map fun argument =>
    if "-i".toList.isPrefixOf argument && argument.length > 2 && !argument.contains 'n' &&
      !argument.contains 'E' then
      ['-', 'i'] else argument
  let known : KnownOptions := {
    plain := "nErsizu"
    valued := "ef"
    long := [("expression", 'e'), ("quiet", 'n'), ("silent", 'n'), ("regexp-extended", 'E'),
      ("in-place", 'i'), ("file", 'f'), ("separate", 's'), ("posix", 'u')] }
  Task.asking { task with arguments } 1 known fun asked =>
    let given := (asked.options.filter fun (letter, _) => letter == 'e' || letter == 'f').map
      fun (letter, value) =>
      if letter == 'e' then value
      else
        let text := (task.contents value).toOption.getD []
        if text.getLast? == some '\n' then text.dropLast else text
    let (pieces, operands) := if given.isEmpty then (asked.operands.take 1, asked.operands.drop 1)
      else (given, asked.operands)
    if pieces.isEmpty then
      task.idle.complain 1
        "Usage: sed [OPTION]... \x7bscript-only-if-no-other-script\x7d [input-file]..."
    else
      match Edit.scriptOf (asked.has 'E' || asked.has 'r') pieces with
      | .error text => task.fail 1 text
      | .ok script =>
        let quiet := asked.has 'n' || "#n\n".toList.isPrefixOf (pieces.headD [] ++ ['\n'])
        if asked.has 'i' then Edit.editFiles task script quiet operands
        else
          let wording (operand : List Char) (reason : String) : String :=
            if reason == "Is a directory" then "read error on " ++ plainWording operand reason
            else "can't read " ++ plainWording operand reason
          let (found, done) := task.gather 2 wording operands
          let final := Edit.edit script quiet (found.map (·.2)) done.disk
          { done with
            output := final.output.reverse.flatten, disk := final.disk, status :=
            max done.status final.status }

end DialectLoader.Tools
