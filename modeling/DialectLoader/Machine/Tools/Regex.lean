import DialectLoader.Machine.CharClass
import DialectLoader.Text.Digit

/-!
# Regular expressions

A regular expression describes texts: characters and sets of them, sequences, alternatives,
repetitions, groups that later parts can ask for again, and positions in a line. It has two
spellings. In the basic one parentheses, braces, bars, plus signs and question marks have their
meaning only behind a backslash, in the extended one only without.

Of all matches in a text the leftmost counts. A repetition takes as much as it can; where
alternatives compete, the longest match counts. What the groups of such a match hold may differ from
what another implementation finds.

Only the tools use these expressions. Locations in error messages are found without them, by the
scans of `Remap`.
-/

namespace DialectLoader

/-- A regular expression. Groups are numbered by their opening signs, from left to right. -/
inductive Regex where
  | empty
  | oneOf (characters : Text.CharSet)
  | sequence (first second : Regex)
  | either (first second : Regex)
  | repeated (inner : Regex) (least : Nat) (most : Option Nat)
  | group (number : Nat) (inner : Regex)
  | again (number : Nat)
  | lineStart
  | lineEnd
  | wordEdge (start stop : Bool)
  | noEdge
deriving DecidableEq

namespace Regex

structure Spelling where
  extended : Bool
  escapesInSets : Bool := false

/-- What is being read, and the number of groups that have been opened. -/
structure Reading where
  rest : List Char
  groups : Nat := 0

abbrev Reader (α : Type) := Reading → Except String (α × Reading)

def controlEscape? : Char → Option Char
  | 'n' => some '\n'
  | 't' => some '\t'
  | 'f' => some '\x0c'
  | 'v' => some '\x0b'
  | 'a' => some '\x07'
  | 'r' => some '\r'
  | _ => none

def wordRanges : List (Char × Char) :=
  [('0', '9'), ('A', 'Z'), ('_', '_'), ('a', 'z')]

def isWordChar (c : Char) : Bool :=
  Text.CharSet.contains ⟨false, wordRanges⟩ c

def anyChar : Regex := .oneOf ⟨true, []⟩

def char (c : Char) : Regex := .oneOf (.single c)

def readRanges (escapes : Bool) :
    Nat → Bool → List Char → Except String (List (Char × Char) × List Char)
  | 0, _, _ | _ + 1, _, [] => .error "unterminated address regex"
  | fuel + 1, first, ']' :: rest =>
    if first then ranged fuel ']' rest else .ok ([], rest)
  | fuel + 1, _, '[' :: ':' :: rest =>
    match Text.readNamedClass? rest with
    | some (ranges, rest) => do
      let (others, rest) ← readRanges escapes fuel false rest
      return (ranges ++ others, rest)
    | none => .error "Invalid character class name"
  | fuel + 1, _, '\\' :: c :: rest =>
    if escapes then ranged fuel ((controlEscape? c).getD c) rest
    else
      match controlEscape? c with
      | some escaped =>
        if c == 'n' || c == 't' then ranged fuel escaped rest else ranged fuel '\\' (c :: rest)
      | none => ranged fuel '\\' (c :: rest)
  | fuel + 1, _, c :: rest => ranged fuel c rest
where
  ranged (fuel : Nat) (c : Char) (rest : List Char) : Except String
    (List (Char × Char) × List Char) :=
    match rest with
    | '-' :: last :: after =>
      if last == ']' then do
        let (others, rest) ← readRanges escapes fuel false rest
        return ((c, c) :: others, rest)
      else if last < c then .error "Invalid range end"
      else do
        let (others, rest) ← readRanges escapes fuel false after
        return ((c, last) :: others, rest)
    | _ => do
      let (others, rest) ← readRanges escapes fuel false rest
      return ((c, c) :: others, rest)

def readSet (spelling : Spelling) : Reader Regex := fun reading => do
  let negated := reading.rest.head? == some '^'
  let inner := if negated then reading.rest.drop 1 else reading.rest
  let (ranges, rest) ← readRanges spelling.escapesInSets (inner.length + 1) true inner
  return (.oneOf ⟨negated, ranges⟩, { reading with rest })

def escaped? (c : Char) : Option Regex :=
  match c with
  | 'w' => some (.oneOf ⟨false, wordRanges⟩)
  | 'W' => some (.oneOf ⟨true, wordRanges⟩)
  | 's' => some (.oneOf ⟨false, [('\t', '\r'), (' ', ' ')]⟩)
  | 'S' => some (.oneOf ⟨true, [('\t', '\r'), (' ', ' ')]⟩)
  | 'b' => some (.wordEdge true true)
  | '<' => some (.wordEdge true false)
  | '>' => some (.wordEdge false true)
  | 'B' => some .noEdge
  | '\x60' => some .lineStart
  | '\'' => some .lineEnd
  | _ =>
    match Text.digitValue? c with
    | some number => if number = 0 then none else some (.again number)
    | none => (controlEscape? c).map char

def sign? (spelling : Spelling) (text : List Char) : Option (Char × List Char) :=
  let isSign (c : Char) : Bool := "()\x7b\x7d|+?".toList.contains c
  match text with
  | '\\' :: c :: rest => if !spelling.extended && isSign c then some (c, rest) else none
  | c :: rest => if spelling.extended && isSign c then some (c, rest) else none
  | [] => none

def readBounds? (spelling : Spelling) (text : List Char) :
    Option ((Nat × Option Nat) × List Char) :=
  let number (text : List Char) : Option Nat × List Char :=
    let digits := text.takeWhile fun c => (Text.digitValue? c).isSome
    (Text.readDecimal? Text.wordBound digits, text.drop digits.length)
  let (least, rest) := number text
  let (bounds, rest) := match rest with
    | ',' :: rest => let (most, rest) := number rest; ((least.getD 0, most), rest)
    | _ => ((least.getD 0, some (least.getD 0)), rest)
  match spelling.extended, rest with
  | true, '\x7d' :: after => some (bounds, after)
  | false, '\\' :: '\x7d' :: after => some (bounds, after)
  | _, _ => none

def readRepetitions (spelling : Spelling) : Nat → Regex → Reader Regex
  | 0, inner, reading => .ok (inner, reading)
  | fuel + 1, inner, reading =>
    let goOn (least : Nat) (most : Option Nat) (rest : List Char) :=
      readRepetitions spelling fuel (.repeated inner least most) { reading with rest }
    match reading.rest with
    | '*' :: rest => goOn 0 none rest
    | _ =>
      match sign? spelling reading.rest with
      | some ('+', rest) => goOn 1 none rest
      | some ('?', rest) => goOn 0 (some 1) rest
      | some ('\x7b', rest) =>
        match readBounds? spelling rest with
        | some ((least, most), rest) => goOn least most rest
        | none =>
          if spelling.extended then .ok (inner, reading)
          else .error "Invalid content of \\\x7b\\\x7d"
      | _ => .ok (inner, reading)

mutual

def readEither (spelling : Spelling) : Nat → Reader Regex
  | 0, _ => .error "Regular expression too big"
  | fuel + 1, reading => do
    let (first, reading) ← readSequence spelling fuel true reading
    match sign? spelling reading.rest with
    | some ('|', rest) =>
      let (second, reading) ← readEither spelling fuel { reading with rest }
      return (.either first second, reading)
    | _ => return (first, reading)

def readSequence (spelling : Spelling) : Nat → Bool → Reader Regex
  | 0, _, _ => .error "Regular expression too big"
  | fuel + 1, first, reading =>
    match reading.rest, sign? spelling reading.rest with
    | [], _ => .ok (.empty, reading)
    | _, some ('|', _) => .ok (.empty, reading)
    | _, some (')', _) =>
      if reading.groups = 0 && spelling.extended then readOn fuel false reading
      else .ok (.empty, reading)
    | '^' :: rest, _ =>
      if spelling.extended || first then do
        let (others, reading) ← readSequence spelling fuel (!spelling.extended)
            { reading with rest }
        return (.sequence .lineStart others, reading)
      else readOn fuel first reading
    | '$' :: rest, _ =>
      let ends := rest.isEmpty || (sign? spelling rest).any fun (c, _) => c == ')' || c == '|'
      if spelling.extended || ends then do
        let (others, reading) ← readSequence spelling fuel false { reading with rest }
        return (.sequence .lineEnd others, reading)
      else readOn fuel first reading
    | '*' :: rest, _ =>
      if first then do
        let (part, reading) ← readRepetitions spelling rest.length (char '*') { reading with rest }
        let (others, reading) ← readSequence spelling fuel false reading
        return (.sequence part others, reading)
      else readOn fuel first reading
    | _, _ => readOn fuel first reading
where
  readOn (fuel : Nat) (first : Bool) : Reader Regex := fun reading => do
    let (part, reading) ← readPart spelling fuel first reading
    let (part, reading) ← readRepetitions spelling reading.rest.length part reading
    let (others, reading) ← readSequence spelling fuel false reading
    return (.sequence part others, reading)

def readPart (spelling : Spelling) : Nat → Bool → Reader Regex
  | 0, _, _ => .error "Regular expression too big"
  | fuel + 1, _, reading =>
    match reading.rest, sign? spelling reading.rest with
    | _, some ('(', rest) => do
      let number := reading.groups + 1
      let (inner, reading) ← readEither spelling fuel ⟨rest, number⟩
      match sign? spelling reading.rest with
      | some (')', rest) => return (.group number inner, { reading with rest })
      | _ => .error "Unmatched ( or \\("
    | '.' :: rest, _ => .ok (anyChar, { reading with rest })
    | '[' :: rest, _ => readSet spelling { reading with rest }
    | '\\' :: c :: rest, _ =>
      .ok ((escaped? c).getD (char c), { reading with rest })
    | ['\\'], _ => .error "Trailing backslash"
    | c :: rest, _ => .ok (char c, { reading with rest })
    | [], _ => .ok (.empty, reading)

end

def parse (spelling : Spelling) (text : List Char) : Except String Regex := do
  let (regex, reading) ← readEither spelling (4 * text.length + 8) { rest := text }
  if reading.rest.isEmpty then .ok regex else .error "Unmatched ) or \\)"

def literal (text : List Char) : Regex :=
  text.foldr (fun c rest => .sequence (char c) rest) .empty

def hasChoice : Regex → Bool
  | .either _ _ => true
  | .sequence first second => first.hasChoice || second.hasChoice
  | .repeated inner _ _ | .group _ inner => inner.hasChoice
  | _ => false

def groupCount : Regex → Nat
  | .either first second | .sequence first second => first.groupCount + second.groupCount
  | .repeated inner _ _ => inner.groupCount
  | .group _ inner => inner.groupCount + 1
  | _ => 0

structure Cursor where
  before : Option Char
  rest : List Char
  groups : List (Nat × List Char) := []

structure Mode where
  foldsCase : Bool := false
  longest : Bool := false

def Mode.accepts (mode : Mode) (characters : Text.CharSet) (c : Char) : Bool :=
  characters.contains c ||
    (mode.foldsCase && (characters.contains c.toLower || characters.contains c.toUpper))

def Mode.better (mode : Mode) (first : Option Cursor) (second : Unit → Option Cursor) :
    Option Cursor :=
  match first with
  | none => second ()
  | some found =>
    if mode.longest then
      match second () with
      | some other => if other.rest.length < found.rest.length then some other else first
      | none => first
    else first

abbrev Next := Cursor → Option Cursor

def iterate (mode : Mode) (step : Cursor → Next → Option Cursor) :
    Nat → Nat → Option Nat → Cursor → Next → Option Cursor
  | 0, least, _, cursor, next => if least = 0 then next cursor else none
  | fuel + 1, least, most, cursor, next =>
    if most == some 0 then (if least = 0 then next cursor else none)
    else
      let onward := step cursor fun reached =>
        if reached.rest.length = cursor.rest.length then (if least ≤ 1 then next reached else none)
        else iterate mode step fuel (least - 1) (most.map (· - 1)) reached next
      mode.better onward fun _ => if least = 0 then next cursor else none

def matchAt (mode : Mode) : Regex → Cursor → Next → Option Cursor
  | .empty, cursor, next => next cursor
  | .oneOf characters, cursor, next =>
    match cursor.rest with
    | c :: rest =>
      if mode.accepts characters c then next { cursor with before := some c, rest } else none
    | [] => none
  | .sequence first second, cursor, next =>
    matchAt mode first cursor fun reached => matchAt mode second reached next
  | .either first second, cursor, next =>
    mode.better (matchAt mode first cursor next) fun _ => matchAt mode second cursor next
  | .repeated inner least most, cursor, next =>
    iterate mode (matchAt mode inner) (cursor.rest.length + least + 1) least most cursor next
  | .group number inner, cursor, next =>
    matchAt mode inner cursor fun reached =>
      let text := cursor.rest.take (cursor.rest.length - reached.rest.length)
      next { reached with groups := (number, text) :: reached.groups }
  | .again number, cursor, next =>
    let text := (cursor.groups.lookup number).getD []
    if text.isPrefixOf cursor.rest then
      next { cursor with
        before := text.getLast?.or cursor.before
        rest := cursor.rest.drop text.length }
    else none
  | .lineStart, cursor, next => if cursor.before.isNone then next cursor else none
  | .lineEnd, cursor, next => if cursor.rest.isEmpty then next cursor else none
  | .wordEdge start stop, cursor, next =>
    let left := cursor.before.any isWordChar
    let right := cursor.rest.head?.any isWordChar
    if (start && !left && right) || (stop && left && !right) then next cursor else none
  | .noEdge, cursor, next =>
    if cursor.before.any isWordChar == cursor.rest.head?.any isWordChar then next cursor else none

structure Found where
  before : List Char
  text : List Char
  behind : List Char
  groups : List (Nat × List Char)

def Found.group (found : Found) (number : Nat) : List Char :=
  if number = 0 then found.text else (found.groups.lookup number).getD []

def find? (regex : Regex) (mode : Mode) (before : Option Char) : List Char → Option Found
  | [] => (matchAt mode regex ⟨before, [], []⟩ some).map fun reached => ⟨[], [], [], reached.groups⟩
  | c :: others =>
    match matchAt mode regex ⟨before, c :: others, []⟩ some with
    | some reached =>
      some ⟨[], (c :: others).take (others.length + 1 - reached.rest.length), reached.rest,
        reached.groups⟩
    | none => (find? regex mode (some c) others).map fun found =>
      { found with before := c :: found.before }

def mode (regex : Regex) (foldsCase : Bool) : Mode :=
  { foldsCase, longest := regex.hasChoice }

def search? (regex : Regex) (foldsCase : Bool) (line : List Char) : Option Found :=
  regex.find? (regex.mode foldsCase) none line

def occurs (regex : Regex) (line : List Char) : Bool :=
  (regex.search? false line).isSome

def findAll (regex : Regex) (foldsCase : Bool) :
    Nat → Option Char → Bool → List Char → List Found × List Char
  | 0, _, _, text => ([], text)
  | fuel + 1, before, directly, text =>
    match regex.find? (regex.mode foldsCase) before text with
    | none => ([], text)
    | some found =>
      if found.text.isEmpty then
        let skips := directly && found.before.isEmpty
        match found.behind with
        | [] => (if skips then [] else [found], [])
        | c :: rest =>
          let (others, last) := findAll regex foldsCase fuel (some c) false rest
          let here := { found with behind := c :: rest }
          match others, skips with
          | [], true => ([], c :: last)
          | [], false => ([here], c :: last)
          | other :: more, true =>
            ({ other with before := found.before ++ c :: other.before } :: more, last)
          | other :: more, false =>
            (here :: { other with before := c :: other.before } :: more, last)
      else
        let (others, last) := findAll regex foldsCase fuel found.text.getLast? true found.behind
        (found :: others, last)

def all (regex : Regex) (foldsCase : Bool) (line : List Char) : List Found × List Char :=
  regex.findAll foldsCase (line.length + 2) none false line

end Regex

end DialectLoader
