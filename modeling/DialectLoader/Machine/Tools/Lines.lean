import DialectLoader.Machine.CharClass
import DialectLoader.Machine.Tools.Format
import DialectLoader.Machine.Tools.Task

/-!
# Tools for lines

Tools that read texts and write them changed: parts of them, counts, sorted or joined lines, fields
of lines, exchanged characters. Characters are bytes and the order of texts is that of their bytes,
as in the plain locale; other locales are not modelled.
-/

namespace DialectLoader.Tools

def wholeLines (text : List Char) : List (List Char) :=
  let step (c : Char) (lines : List (List Char)) : List (List Char) :=
    match lines with
    | [] => [[c]]
    | line :: others => if c == '\n' then [c] :: line :: others else (c :: line) :: others
  text.foldr step []

def splitNewline (line : List Char) : List Char × List Char :=
  if line.getLast? = some '\n' then (line.dropLast, ['\n']) else (line, [])

def readCount? (argument : List Char) : Option (Option Char × Nat) :=
  match argument with
  | '+' :: digits => (Text.readDecimal? Text.longWordBound digits).map (some '+', ·)
  | '-' :: digits => (Text.readDecimal? Text.longWordBound digits).map (some '-', ·)
  | digits => (Text.readDecimal? Text.longWordBound digits).map (none, ·)

def spellOut (arguments : List (List Char)) : List (List Char) :=
  match arguments with
  | ('-' :: c :: digits) :: rest =>
    if c.isDigit then ['-', 'n'] :: (c :: digits) :: rest else arguments
  | _ => arguments

def heading (first : Bool) (operand : List Char) : List Char :=
  (if first then [] else ['\n']) ++ "==> ".toList ++
    (if operand == ['-'] then "standard input".toList else operand) ++ " <==\n".toList

def excerpts (found : List (List Char × List Char)) (headed : Bool) (cut : List Char → List Char) :
    List Char :=
  (found.zipIdx.map fun ((operand, text), index) =>
    (if headed then heading (index == 0) operand else []) ++ cut text).flatten

def excerpt (task : Task) (cut : Bool → Option Char → Nat → List Char → List Char) : Done :=
  let task := { task with arguments := spellOut task.arguments }
  task.asking 1 { plain := "qv", valued := "nc", long := [("lines", 'n'), ("bytes", 'c')] }
    fun asked =>
    let bytes := asked.has 'c'
    let spelled := ((asked.value? 'c').or (asked.value? 'n')).getD ['1', '0']
    match readCount? spelled with
    | none =>
      task.fail 1
        ("invalid number of " ++ (if bytes then "bytes" else "lines") ++ ": " ++ quotedName spelled)
    | some (sign, count) =>
      let wording (operand : List Char) (reason : String) : String :=
        if reason == "Is a directory" then "error reading " ++ quotedName operand ++ ": " ++ reason
        else "cannot open " ++ quotedName operand ++ " for reading: " ++ reason
      let (found, done) := task.gather 1 wording asked.operands
      let headed := (asked.operands.length > 1 || asked.has 'v') && !asked.has 'q'
      done.say (excerpts found headed (cut bytes sign count))

def head (task : Task) : Done :=
  excerpt task fun bytes sign count text =>
    let lines := wholeLines text
    if bytes then text.take (if sign == some '-' then text.length - count else count)
    else (lines.take (if sign == some '-' then lines.length - count else count)).flatten

def tail (task : Task) : Done :=
  excerpt task fun bytes sign count text =>
    let lines := wholeLines text
    if bytes then text.drop (if sign == some '+' then count - 1 else text.length - count)
    else (lines.drop (if sign == some '+' then count - 1 else lines.length - count)).flatten

def isSpace (c : Char) : Bool :=
  c == ' ' || ('\t' ≤ c && c ≤ '\r')

def wordsOf (text : List Char) : List (List Char) :=
  (Text.pieces isSpace text).filter (!·.isEmpty)

def padLeft (width : Nat) (text : List Char) : List Char :=
  List.replicate (width - text.length) ' ' ++ text

def wc (task : Task) : Done :=
  task.asking 1
    { plain := "lwcmL", long := [("lines", 'l'), ("words", 'w'), ("bytes", 'c'), ("chars", 'm')] }
    fun asked =>
    let letters := if asked.options.isEmpty then "lwc".toList else asked.options.map (·.1)
    let kinds := "lwmc".toList.filter (letters.contains ·)
    let counts (text : List Char) : List Nat := kinds.map fun kind =>
      match kind with
      | 'l' => text.count '\n'
      | 'w' => (wordsOf text).length
      | _ => text.length
    let (found, done) := task.gather 1 plainWording asked.operands
    let sizes := found.map (·.2.length)
    let width :=
      if kinds.length ≤ 1 && asked.operands.length ≤ 1 then 1
      else if asked.operands.isEmpty || asked.operands.contains ['-'] then 7
      else (Text.decimal (sizes.foldl (· + ·) 0)).length
    let row (numbers : List Nat) (name : List Char) : List Char :=
      [' '].intercalate (numbers.map fun number => padLeft width (Text.decimal number)) ++
        (if name.isEmpty then [] else ' ' :: name) ++ ['\n']
    let rows := found.map fun (operand, text) =>
      row (counts text) (if asked.operands.isEmpty then [] else operand)
    let totals := found.foldl (fun sums (_, text) => List.zipWith (· + ·) sums (counts text))
      (kinds.map fun _ => 0)
    done.say (rows.flatten ++ if asked.operands.length > 1 then row totals "total".toList else [])

/-- A key by which lines are sorted: the fields and characters between which it lies, and its own
options. -/
structure SortKey where
  first : Nat × Nat
  last : Option (Nat × Nat)
  options : List Char

def readPosition? (text : List Char) : Option ((Nat × Nat) × List Char × List Char) := do
  let field := text.takeWhile Char.isDigit
  let rest := text.drop field.length
  let place := match rest with
    | '.' :: more => more.takeWhile Char.isDigit
    | _ => []
  let rest := if place.isEmpty then rest else rest.drop (place.length + 1)
  let options := rest.takeWhile Char.isAlpha
  let number ← Text.readDecimal? Text.wordBound field
  return ((number, (Text.readDecimal? Text.wordBound place).getD 0), options,
    rest.drop options.length)

def readKey? (text : List Char) : Option SortKey := do
  let (first, options, rest) ← readPosition? text
  match rest with
  | [] => return ⟨first, none, options⟩
  | ',' :: rest =>
    let (last, more, rest) ← readPosition? rest
    if rest.isEmpty then return ⟨first, some last, options ++ more⟩ else none
  | _ => none

def fieldStarts (separator : Option Char) (line : List Char) : List Nat :=
  let isBlank (c : Char) : Bool := c == ' ' || c == '\t'
  let starts (index : Nat) (before : Option Char) (c : Char) : Bool :=
    match separator with
    | some mark => before == some mark || index == 0
    | none => index == 0 || (isBlank c && !(before.any isBlank))
  let marked :=
    (List.zip (none :: line.map some) (line ++ (if separator.isSome then ['\n'] else []))).zipIdx
  marked.filterMap fun ((before, c), index) => if starts index before c then some index else none

def SortKey.part (key : SortKey) (separator : Option Char) (line : List Char) : List Char :=
  let starts := fieldStarts separator line
  let start (field place : Nat) : Nat := (starts[field - 1]?.map (· + (place - 1))).getD line.length
  let first := start key.first.1 key.first.2
  let stop := match key.last with
    | none => line.length
    | some (field, 0) =>
      match starts[field]? with
      | some next => if separator.isSome then next - 1 else next
      | none => line.length
    | some (field, place) => start field 1 + place
  (line.take stop).drop first

def leadingNumber (text : List Char) : Text.Ratio :=
  let text := text.dropWhile fun c => c == ' ' || c == '\t'
  let (negative, size) := match text with
    | '-' :: rest => (true, rest)
    | _ => (false, text)
  let digits := size.takeWhile fun c => c.isDigit || c == '.'
  let value := ((Text.Ratio.readSize? digits).map (·.1)).getD (.ofInt 0)
  if negative then value.negate else value

def compareBy (options : List Char) (left right : List Char) : Ordering :=
  let trimmed (text : List Char) : List Char :=
    if options.contains 'b' then text.dropWhile fun c => c == ' ' || c == '\t' else text
  let folded (text : List Char) : List Char := if options.contains 'f' then text.map Char.toUpper
    else text
  let order :=
    if options.contains 'n' || options.contains 'g' then
      let first := leadingNumber left
      let second := leadingNumber right
      if first.isLess second then .lt else if second.isLess first then .gt else .eq
    else
      let first := folded (trimmed left)
      let second := folded (trimmed right)
      if first < second then .lt else if second < first then .gt else .eq
  if options.contains 'r' then order.swap else order

def sort (task : Task) : Done :=
  let known : KnownOptions := {
    plain := "nrufbsgdiMhVz"
    valued := "kto"
    long := [("reverse", 'r'), ("numeric-sort", 'n'), ("unique", 'u'), ("key", 'k'),
      ("field-separator", 't')] }
  task.asking 2 known fun asked =>
    let general := asked.options.map (·.1)
    match (asked.values 'k').mapM readKey? with
    | none => task.fail 2 "invalid field specification"
    | some keys =>
      let separator := (asked.value? 't').bind List.head?
      let wording (operand : List Char) (reason : String) : String :=
        if reason == "Is a directory" then "read failed: " ++ pathOf operand ++ ": " ++ reason
        else "cannot read: " ++ pathOf operand ++ ": " ++ reason
      let (found, done) := task.gather 2 wording asked.operands
      if done.status != 0 then done
      else
        let lines := (found.map fun (_, text) => Text.plainLines text).flatten
        let byKeys (left right : List Char) : Ordering :=
          if keys.isEmpty then compareBy general left right
          else
            keys.foldl
              (fun order key =>
                let options := if key.options.isEmpty then general else key.options
                order.then (compareBy options (key.part separator left) (key.part separator right)))
              .eq
        let plain := !keys.isEmpty || "nfbg".toList.any (general.contains ·)
        let order (left right : List Char) : Ordering :=
          if plain && !asked.has 's' && !asked.has 'u' then
            (byKeys left right).then (compareBy (if asked.has 'r' then ['r'] else []) left right)
          else byKeys left right
        let sorted := lines.mergeSort fun left right => order left right != .gt
        let step (line : List Char) (kept : List (List Char)) : List (List Char) :=
          match kept with
          | next :: rest => if byKeys line next == .eq then line :: rest else line :: kept
          | [] => [line]
        let output := Text.joinLines (if asked.has 'u' then sorted.foldr step [] else sorted)
        match asked.value? 'o' with
        | none => done.say output
        | some path =>
          done.take (done.disk.writeAt (pathOf path) (Text.octetBytes output))
            ("sort: open failed: " ++ pathOf path)

def runs (same : List Char → List Char → Bool) (lines : List (List Char)) :
    List (Nat × List Char) :=
  let step (runs : List (Nat × List Char)) (line : List Char) : List (Nat × List Char) :=
    match runs with
    | (count, known) :: rest =>
      if same known line then (count + 1, known) :: rest else (1, line) :: runs
    | [] => [(1, line)]
  (lines.foldl step []).reverse

def uniq (task : Task) : Done :=
  task.asking 1 { plain := "cdui", long := [("count", 'c'), ("repeated", 'd'), ("unique", 'u')] }
    fun asked =>
    let (found, done) := task.gather 1 plainWording (asked.operands.take 1)
    let fold (line : List Char) : List Char := if asked.has 'i' then line.map Char.toLower else line
    let lines := (found.map fun (_, text) => Text.plainLines text).flatten
    let shown := (runs (fun left right => fold left == fold right) lines).filter fun (count, _) =>
      !(asked.has 'd' && count == 1) && !(asked.has 'u' && count > 1)
    done.say (Text.joinLines (shown.map fun (count, line) =>
      if asked.has 'c' then padLeft 7 (Text.decimal count) ++ ' ' :: line else line))

def readRanges? (text : List Char) : Option (List (Nat × Option Nat)) :=
  (Text.pieces (fun c => c == ',' || c == ' ') text).mapM fun piece => do
    let first := piece.takeWhile (· != '-')
    let number (digits : List Char) : Option Nat :=
      (Text.readDecimal? Text.wordBound digits).filter (0 < ·)
    match piece.drop first.length with
    | [] => (number first).map fun value => (value, some value)
    | _ :: [] => (number first).map fun value => (value, none)
    | _ :: last => do
      let stop ← number last
      let start ← if first.isEmpty then some 1 else number first
      if stop < start then none else return (start, some stop)

def selectItems {α : Type} (ranges : List (Nat × Option Nat)) (others : Bool) (items : List α) :
    List α :=
  (Text.numbered items).filterMap fun (number, item) =>
    let chosen := ranges.any fun (first, last) => first ≤ number && last.all (number ≤ ·)
    if chosen != others then some item else none

def cut (task : Task) : Done :=
  let known : KnownOptions := {
    plain := "snC"
    valued := "dfcbO"
    long := [("delimiter", 'd'), ("fields", 'f'), ("characters", 'c'), ("bytes", 'b'),
      ("output-delimiter", 'O'), ("complement", 'C'), ("only-delimited", 's')] }
  let refuse (text : String) : Done := (task.fail 1 text).complain 1 task.hint
  task.asking 1 known fun asked =>
    match asked.value? 'f', (asked.value? 'c').or (asked.value? 'b') with
    | none, none => refuse "you must specify a list of bytes, characters, or fields"
    | fields, places =>
      let delimiter := (asked.value? 'd').getD ['\t']
      if delimiter.length != 1 then refuse "the delimiter must be a single character"
      else
        match readRanges? ((fields.or places).getD []) with
        | none => refuse (if fields.isSome then "fields are numbered from 1"
          else "byte/character positions are numbered from 1")
        | some ranges =>
          let (found, done) := task.gather 1 plainWording asked.operands
          let joint := (asked.value? 'O').getD delimiter
          let cutLine (line : List Char) : Option (List Char) :=
            if fields.isNone then some (selectItems ranges (asked.has 'C') line)
            else
              let pieces := Text.pieces (delimiter.contains ·) line
              if pieces.length = 1 then (if asked.has 's' then none else some line)
              else some (joint.intercalate (selectItems ranges (asked.has 'C') pieces))
          done.say (Text.joinLines
            ((found.map fun (_, text) => (Text.plainLines text).filterMap cutLine).flatten))

def delimiters : Nat → List Char → List (List Char)
  | 0, _ | _ + 1, [] => []
  | fuel + 1, '\\' :: '0' :: rest => [] :: delimiters fuel rest
  | fuel + 1, '\\' :: c :: rest => [(Format.letterEscape? c).getD c] :: delimiters fuel rest
  | fuel + 1, c :: rest => [c] :: delimiters fuel rest

def joinBy (marks : List (List Char)) : Nat → List (List Char) → List Char
  | _, [] => []
  | _, [text] => text
  | index, text :: rest =>
    text ++ marks.getD (index % marks.length) [] ++ joinBy marks (index + 1) rest

def takeRow : List (Option (List (List Char))) → List (List Char) →
    List (List Char) × List (Option (List (List Char))) × List (List Char)
  | [], input => ([], [], input)
  | source :: others, input =>
    let (line, source, input) := match source with
      | some lines => (lines.headD [], some (lines.drop 1), input)
      | none => (input.headD [], none, input.drop 1)
    let (row, sources, input) := takeRow others input
    (line :: row, source :: sources, input)

def pasteRows (marks : List (List Char)) :
    Nat → List (Option (List (List Char))) → List (List Char) → List (List Char)
  | 0, _, _ => []
  | fuel + 1, sources, input =>
    let isEmpty := sources.all fun source => (source.getD input).isEmpty
    if isEmpty then []
    else
      let (row, sources, input) := takeRow sources input
      joinBy marks 0 row :: pasteRows marks fuel sources input

def paste (task : Task) : Done :=
  task.asking 1 { plain := "s", valued := "d", long := [("serial", 's'), ("delimiters", 'd')] }
    fun asked =>
    let spelled := (asked.value? 'd').getD ['\t']
    let marks := delimiters spelled.length spelled
    let operands := if asked.operands.isEmpty then [['-']] else asked.operands
    let (found, done) := task.gather 1 plainWording operands
    if done.status != 0 then done
    else if asked.has 's' then
      done.say (Text.joinLines (found.map fun (_, text) => joinBy marks 0 (Text.plainLines text)))
    else
      let lines := found.map fun (operand, text) =>
        if operand == ['-'] then none else some (Text.plainLines text)
      let input := Text.plainLines task.input
      let count := (found.map fun (_, text) => text.length).foldl (· + ·) task.input.length
      done.say (Text.joinLines (pasteRows marks (count + 1) lines input))

def setItems : Nat → List Char → List (Option Char × Char)
  | 0, _ | _ + 1, [] => []
  | fuel + 1, '[' :: ':' :: rest =>
    match Text.readNamedClass? rest with
    | some (ranges, rest) =>
      (ranges.map fun (first, last) => Text.rangeChars first last).flatten.map
        (fun c => (some c, c)) ++ setItems fuel rest
    | none => (some '[', '[') :: setItems fuel (':' :: rest)
  | fuel + 1, '[' :: c :: '*' :: rest =>
    let digits := rest.takeWhile Char.isDigit
    match rest.drop digits.length with
    | ']' :: rest =>
      let count := (Text.readDecimal? Text.wordBound digits).getD 0
      (if count = 0 then [(none, c)] else List.replicate count (some c, c)) ++ setItems fuel rest
    | _ => (some '[', '[') :: setItems fuel (c :: '*' :: rest)
  | fuel + 1, text =>
    let (first, rest) := readOne text
    match rest with
    | '-' :: _ :: _ =>
      let (last, rest) := readOne (rest.drop 1)
      (Text.rangeChars first last).map (fun c => (some c, c)) ++ setItems fuel rest
    | _ => (some first, first) :: setItems fuel rest
where
  readOne (text : List Char) : Char × List Char :=
    match text with
    | '\\' :: rest =>
      match Format.readEscape rest with
      | ([c], after) => if c == '\\' && after.length = rest.length then
        (rest.headD '\\', rest.drop 1) else (c, after)
      | _ => ('\\', rest)
    | c :: rest => (c, rest)
    | [] => (' ', [])

def setChars (length : Nat) (spelled : List Char) : List Char :=
  let items := setItems spelled.length spelled
  let missing := length - (items.filter (·.1.isSome)).length
  (items.map fun (known, c) => match known with
    | some c => [c]
    | none => List.replicate missing c).flatten

def squeeze (set : Char → Bool) : Option Char → List Char → List Char
  | _, [] => []
  | before, c :: rest =>
    if before == some c && set c then squeeze set before rest else c :: squeeze set (some c) rest

def tr (task : Task) : Done :=
  let known : KnownOptions := {
    plain := "dscCt"
    long := [("delete", 'd'), ("squeeze-repeats", 's'), ("complement", 'c')] }
  let refuse (text : String) : Done := (task.fail 1 text).complain 1 task.hint
  task.asking 1 known fun asked =>
    let others := asked.has 'c' || asked.has 'C'
    let done := { task.idle with input := [] }
    match asked.operands with
    | [] => refuse "missing operand"
    | [spelled] =>
      let set := setChars 0 spelled
      let chosen (c : Char) : Bool := set.contains c != others
      if asked.has 'd' then done.say (task.input.filter (!chosen ·))
      else if asked.has 's' then done.say (squeeze chosen none task.input)
      else
        ((task.fail 1 ("missing operand after " ++ quotedName spelled)).complain 1
          "Two strings must be given when translating.").complain 1 task.hint
    | [first, second] =>
      let old := setChars 0 first
      let new := setChars old.length second
      let chosen (c : Char) : Bool := old.contains c != others
      if asked.has 'd' then
        if asked.has 's' then
          done.say (squeeze (new.contains ·) none (task.input.filter (!chosen ·)))
        else
          ((task.fail 1 ("extra operand " ++ quotedName second)).complain 1
            "Only one string may be given when deleting without squeezing repeats.").complain 1
            task.hint
      else
        let exchanged (c : Char) : Char :=
          if others then (if chosen c then new.getLastD c else c)
          else
            match (List.range old.length).reverse.find? fun index => old[index]? == some c with
            | some index => new.getD index (if asked.has 't' then c else new.getLastD c)
            | none => c
        let text := task.input.map exchanged
        done.say (if asked.has 's' then squeeze (new.contains ·) none text else text)
    | _ :: _ :: extra :: _ => refuse ("extra operand " ++ quotedName extra)

def rev (task : Task) : Done :=
  let wording (operand : List Char) (reason : String) : String :=
    "cannot open " ++ pathOf operand ++ ": " ++ reason
  let (found, done) := task.gather 1 wording task.arguments
  done.say ((found.map fun (_, text) => ((wholeLines text).map fun whole =>
    let (line, newline) := splitNewline whole
    line.reverse ++ newline).flatten).flatten)

def tac (task : Task) : Done :=
  let wording (operand : List Char) (reason : String) : String :=
    "failed to open " ++ quotedName operand ++ " for reading: " ++ reason
  let (found, done) := task.gather 1 wording task.arguments
  done.say ((found.map fun (_, text) => (wholeLines text).reverse.flatten).flatten)

def nl (task : Task) : Done :=
  let known : KnownOptions := { plain := "p", valued := "bwsnvilhfd" }
  task.asking 1 known fun asked =>
    let (found, done) := task.gather 1 plainWording asked.operands
    let number (letter : Char) (otherwise : Nat) : Nat :=
      ((asked.value? letter).bind (Text.readDecimal? Text.wordBound)).getD otherwise
    let width := number 'w' 6
    let mark := (asked.value? 's').getD ['\t']
    let every := asked.value? 'b' == some ['a']
    let shown (value : Nat) : List Char :=
      let digits := Text.decimal value
      match asked.value? 'n' with
      | some ['l', 'n'] => digits ++ List.replicate (width - digits.length) ' '
      | some ['r', 'z'] => List.replicate (width - digits.length) '0' ++ digits
      | _ => padLeft width digits
    let lines := (found.map fun (_, text) => Text.plainLines text).flatten
    let (written, _) := lines.foldl
      (fun (written, value) line =>
        if every || (!line.isEmpty && asked.value? 'b' != some ['n']) then
          (written ++ [shown value ++ mark ++ line], value + number 'i' 1)
        else (written ++ [List.replicate (width + mark.length) ' ' ++ line], value))
      ([], number 'v' 1)
    done.say (Text.joinLines written)

def steps : Nat → Int → Int → Int → List Int
  | 0, _, _, _ => []
  | fuel + 1, first, step, last =>
    if (0 < step && last < first) || (step < 0 && first < last) then []
    else first :: steps fuel (first + step) step last

def integerText (value : Int) : List Char :=
  (if value < 0 then ['-'] else []) ++ Text.decimal value.natAbs

def seq (task : Task) : Done :=
  let arguments := task.arguments
  let mark := match arguments with
    | ['-', 's'] :: mark :: _ => mark
    | ('-' :: 's' :: mark) :: _ => mark
    | _ => ['\n']
  let operands := match arguments with
    | ['-', 's'] :: _ :: rest | ['-', 'w'] :: rest => rest
    | ('-' :: 's' :: _) :: rest => rest
    | _ => arguments
  let refuse (text : String) : Done := (task.fail 1 text).complain 1 task.hint
  let integer? (text : List Char) : Option Int :=
    match text with
    | '-' :: digits => (Text.readDecimal? Text.longWordBound digits).map fun value => -(value : Int)
    | _ => (Text.readSigned? Text.longWordBound text).map Int.ofNat
  match operands.find? fun operand => (integer? operand).isNone with
  | some operand => refuse ("invalid floating point argument: " ++ quotedName operand)
  | none =>
    let bounds := match operands.filterMap integer? with
      | [last] => some (1, 1, last)
      | [first, last] => some (first, 1, last)
      | [first, step, last] => some (first, step, last)
      | _ => none
    match bounds with
    | none => refuse
      (if operands.isEmpty then "missing operand"
      else "extra operand " ++ quotedName (operands.getD 3 []))
    | some (_, 0, _) => refuse "invalid Zero increment value: '0'"
    | some (first, step, last) =>
      let numbers := (steps ((last - first).natAbs + 1) first step last).map integerText
      let width := numbers.foldl (fun width digits => max width digits.length) 0
      let padded := if arguments.head? == some ['-', 'w'] then
        numbers.map fun digits => List.replicate (width - digits.length) '0' ++ digits else numbers
      if padded.isEmpty then task.idle else task.idle.say (mark.intercalate padded ++ ['\n'])

def tee (task : Task) : Done :=
  task.asking 1 { plain := "ai", long := [("append", 'a')] } fun asked =>
    let start := { task.idle with output := task.input, input := [] }
    asked.operands.foldl
      (fun done operand =>
        match done.disk.openFile (pathOf operand) (asked.has 'a') with
        | (.ok place, disk) =>
          { done with disk := disk.appendTo place (Text.octetBytes task.input) }
        | (.error cause, disk) =>
          { done with disk }.complain 1 ("tee: " ++ plainWording operand cause.reason))
      start

def foldLine (width : Nat) : Nat → List Char → List (List Char)
  | 0, line => [line]
  | fuel + 1, line =>
    if line.length ≤ width then [line] else line.take width :: foldLine width fuel (line.drop width)

def fold (task : Task) : Done :=
  task.asking 1 { plain := "sb", valued := "w", long := [("width", 'w')] } fun asked =>
    let spelled := (asked.value? 'w').getD ['8', '0']
    match (Text.readDecimal? Text.wordBound spelled).filter (0 < ·) with
    | none => task.fail 1 ("invalid number of columns: " ++ quotedName spelled)
    | some width =>
      let (found, done) := task.gather 1 plainWording asked.operands
      done.say ((found.map fun (_, text) => ((wholeLines text).map fun whole =>
        let (line, newline) := splitNewline whole
        ['\n'].intercalate (foldLine width line.length line) ++ newline).flatten).flatten)

end DialectLoader.Tools
