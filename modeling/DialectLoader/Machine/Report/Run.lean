import DialectLoader.Machine.Report.Program
import DialectLoader.Machine.Report.Value
import DialectLoader.Machine.Tools.Files

/-!
# Running report programs

A report program reads records, one after the other, and for each of them runs the actions of the
rules whose patterns hold. Rules for the start run before the first record and rules for the end
behind the last one. A number bounds the nesting of calls and the rounds of loops.

This stands in for the `awk` of a system. It is no part of the loader: a session takes what starting
a program comes to as a parameter, and nothing is proved about the programs themselves. Functions
that need floating point numbers, random numbers or other programs are there only in name or to some
places.
-/

namespace DialectLoader.Report

/-- How a program goes on. Everything but the plain way on is passed outwards until something
handles it. -/
inductive Flow where
  | going
  | next
  | exiting
  | breaking
  | continuing
  | returning (value : Value)
deriving DecidableEq

/-- What a parameter of a function stands for. Tables are passed by name and not copied, values are
copied. -/
inductive Slot where
  | value (value : Value)
  | table (name : String)
  | open (name : String)
deriving DecidableEq

/-- The state of a running program. Variables and tables are kept apart, each under names of their
own. -/
structure State where
  name : String
  program : Program
  bindings : List (String × Value)
  tables : List (String × List (List Char × Value))
  frame : List (String × Slot) := []
  record : List Char := []
  fields : List (List Char) := []
  input : List Char := []
  files : List (List Char) := []
  sources : List (List Char × List Char) := []
  opened : List (List Char × Place) := []
  output : List (List Char) := []
  errors : List (List Char) := []
  standardInput : List Char
  disk : Disk
  status : Nat := 0
  flow : Flow := .going
  isBroken : Bool := false
  begun : List Nat := []
  made : Nat := 0

namespace State

def plain (state : State) (name : String) : Value :=
  (state.bindings.lookup name).getD .unset

def format (state : State) : List Char :=
  (state.plain "CONVFMT").toText "%.6g".toList

def textOf (state : State) (name : String) : List Char :=
  (state.plain name).toText "%.6g".toList

def bind (state : State) (name : String) (value : Value) : State :=
  { state with bindings := (name, value) :: state.bindings.filter (·.1 != name) }

def separator (state : State) : Separator :=
  Separator.of (state.textOf "FS")

def setRecord (state : State) (record : List Char) : State :=
  let found := state.separator.fields record
  let fields := if state.textOf "RS" == [] && state.separator != .blanks then
      (found.map (Text.pieces (· == '\n'))).flatten
    else found
  { state with record, fields }.bind "NF" (.ofNat fields.length)

def rejoin (state : State) (fields : List (List Char)) : State :=
  { state with fields, record := (state.textOf "OFS").intercalate fields }.bind "NF"
    (.ofNat fields.length)

def setField (state : State) (number : Nat) (text : List Char) : State :=
  if number = 0 then state.setRecord text
  else
    let filled := state.fields ++ List.replicate (number - state.fields.length) []
    state.rejoin (filled.set (number - 1) text)

def value (state : State) (name : String) : Value :=
  match state.frame.lookup name with
  | some (.value value) => value
  | some _ => .unset
  | none => state.plain name

def setName (state : State) (name : String) (value : Value) : State :=
  match state.frame.lookup name with
  | some _ => { state with frame := (name, .value value) :: state.frame.filter (·.1 != name) }
  | none =>
    if name == "NF" then
      let count := value.toNumber.whole.toNat
      state.rejoin (state.fields.take count ++ List.replicate (count - state.fields.length) [])
    else state.bind name value

def tableName (state : State) (name : String) : String :=
  match state.frame.lookup name with
  | some (.table table) | some (.open table) => table
  | _ => name

def table (state : State) (name : String) : List (List Char × Value) :=
  (state.tables.lookup (state.tableName name)).getD []

def setTable (state : State) (name : String) (entries : List (List Char × Value)) : State :=
  let table := state.tableName name
  { state with tables := (table, entries) :: state.tables.filter (·.1 != table) }

def setElement (state : State) (name : String) (key : List Char) (value : Value) : State :=
  let entries := state.table name
  let changed := if entries.any (·.1 == key) then
      entries.map fun (known, before) => (known, if known == key then value else before)
    else entries ++ [(key, value)]
  state.setTable name changed

def abort (state : State) (text : String) : State :=
  { state with
    errors := Text.octetsOf (state.name ++ ": " ++ text ++ "\n") :: state.errors
    status := 2
    flow := .exiting
    isBroken := true }

def writeTo (state : State) (path : List Char) (append : Bool) (text : List Char) : State :=
  match String.ofList path with
  | "/dev/stdout" | "-" => { state with output := text :: state.output }
  | "/dev/stderr" => { state with errors := text :: state.errors }
  | "/dev/null" => state
  | _ =>
    match state.opened.lookup path with
    | some place => { state with disk := state.disk.appendTo place (Text.octetBytes text) }
    | none =>
      match state.disk.openFile (pathOf path) append with
      | (.ok place, disk) =>
        { state with disk := disk.appendTo place (Text.octetBytes text), opened :=
          (path, place) :: state.opened }
      | (.error _, disk) =>
        { state with disk }.abort ("cannot open \"" ++ pathOf path ++ "\" for output")

def operandAssignment? (operand : List Char) : Option (String × List Char) :=
  let name := operand.takeWhile isNameChar
  match operand.drop name.length, name with
  | '=' :: value, c :: _ => if c.isDigit then none else some (String.ofList name, value)
  | _, _ => none

def outsideValue (text : List Char) : Value :=
  let unescaped := match readString (2 * text.length + 4)
    (text.flatMap (fun c => if c == '"' then ['\\', '"'] else [c]) ++ ['"']) with
    | .ok (found, _) => found
    | .error _ => text
  .outside unescaped

def readNext : Nat → State → Option (List Char) × State
  | 0, state => (none, state)
  | fuel + 1, state =>
    match nextRecord? (state.textOf "RS") state.input with
    | some (record, rest) => (some record, { state with input := rest })
    | none =>
      match state.files with
      | [] => (none, state)
      | file :: others =>
        match operandAssignment? file with
        | some (name, value) =>
          readNext fuel ({ state with files := others }.setName name (outsideValue value))
        | none =>
          let named :=
            ({ state with files := others }.bind "FILENAME" (.text file)).bind "FNR" (.ofNat 0)
          if file == ['-'] || file == "/dev/stdin".toList then
            readNext fuel { named with input := state.standardInput, standardInput := [] }
          else
            match state.disk.readAt (pathOf file) with
            | .ok bytes => readNext fuel { named with input := Text.octets bytes }
            | .error cause =>
              (none, named.abort ("cannot open \"" ++ pathOf file ++ "\" (" ++ cause.reason ++ ")"))

def counted (state : State) : State :=
  let up (name : String) (state : State) : State :=
    state.bind name (.number ((state.plain name).toNumber.add (.ofInt 1)))
  up "NR" (up "FNR" state)

def advance (state : State) : Option (List Char) × State :=
  match state.readNext (state.files.length + 1) with
  | (some record, state) => (some record, state.counted)
  | (none, state) => (none, state)

end State

def combine (operator : String) (left right : Text.Ratio) : Value :=
  match operator with
  | "+" => .number (left.add right)
  | "-" => .number (left.subtract right)
  | "*" => .number (left.multiply right)
  | "/" =>
    match left.divide? right with
    | some value => .number value
    | none => .text (if left.isZero then "-nan".toList else if left.numerator < 0 then "-inf".toList
      else "inf".toList)
  | "%" => ((left.remainder? right).map Value.number).getD (.text "-nan".toList)
  | _ =>
    let power := left.power right.whole.natAbs
    if right.numerator < 0 then ((Text.Ratio.divide? (.ofInt 1) power).map Value.number).getD
      (.text "inf".toList)
    else .number power

def replacement (found : List Char) : List Char → List Char
  | [] => []
  | '\\' :: '&' :: rest => '&' :: replacement found rest
  | '\\' :: '\\' :: '&' :: rest => '\\' :: found ++ replacement found rest
  | '&' :: rest => found ++ replacement found rest
  | c :: rest => c :: replacement found rest

def substitute (regex : Regex) (new : List Char) (all : Bool) (text : List Char) :
    List Char × Nat :=
  let (found, last) := regex.all false text
  let changed := found.zipIdx.map fun (hit, index) =>
    hit.before ++ if all || index == 0 then replacement hit.text new else hit.text
  (changed.flatten ++ last, if all then found.length else min found.length 1)

def writeFormat (format : List Char) : Nat → List Char → List Value → List Char
  | 0, _, _ | _ + 1, [], _ => []
  | fuel + 1, '%' :: '%' :: rest, values => '%' :: writeFormat format fuel rest values
  | fuel + 1, '%' :: rest, values =>
    match Format.readDirective? rest (values.map fun value => value.toNumber.whole) with
    | none => ['%']
    | some (directive, stars, behind) =>
      let values := values.drop (values.length - stars.length)
      let value := values.headD .unset
      let written := match directive.kind with
        | 's' => directive.string (value.toText format)
        | 'c' =>
          match value with
          | .number code => directive.fill [Char.ofNat (code.whole.toNat % 256)]
          | other => directive.fill ((other.toText format).take 1)
        | _ =>
          ((directive.whole? value.toNumber.whole).or (directive.real? value.toNumber)).getD
            ('%' :: rest.take (rest.length - behind.length))
      written ++ writeFormat format fuel behind (values.drop 1)
  | fuel + 1, c :: rest, values => c :: writeFormat format fuel rest values

def substring (text : List Char) (start : Text.Ratio) (count : Option Text.Ratio) : List Char :=
  let round (value : Text.Ratio) : Int :=
    let half := value.add (.of 1 2)
    half.numerator.fdiv half.denominator
  let first := round start
  let stop : Int := match count with
    | some count => first + round count
    | none => text.length + 1
  let from' := max first 1
  if stop ≤ from' then [] else (text.drop (from' - 1).toNat).take (stop - from').toNat

def squareRoot (value : Text.Ratio) : Text.Ratio :=
  let scaled := value.numerator.natAbs * value.denominator
  let precise := Nat.sqrt scaled
  if precise * precise = scaled then .of precise value.denominator
  else
    let wide := Text.Ratio.tens 12
    .of (Nat.sqrt (scaled * wide * wide)) (value.denominator * wide)

mutual

def evaluate : Nat → Expression → State → Value × State
  | 0, _, state => (.unset, { state with flow := .exiting, status := 2 })
  | fuel + 1, expression, state =>
    match expression with
    | .number value => (.number value, state)
    | .string text => (.text text, state)
    | .regex regex => (.truth (regex.occurs state.record), state)
    | .grouped inner => evaluate fuel inner state
    | .name name => (state.value name, state)
    | .element table keys =>
      let (key, state) := keyOf fuel keys state
      match (state.table table).lookup key with
      | some value => (value, state)
      | none => (.unset, state.setElement table key .unset)
    | .field number =>
      let (number, state) := evaluate fuel number state
      let index := number.toNumber.whole.toNat
      if index = 0 then (.outside state.record, state)
      else (((state.fields[index - 1]?).map Value.outside).getD .unset, state)
    | .assign target operator value =>
      let (value, state) := evaluate fuel value state
      if operator.isEmpty then assign fuel target value state
      else
        let (before, state) := evaluate fuel target state
        assign fuel target (combine operator before.toNumber value.toNumber) state
    | .conditional condition first second =>
      let (truth, state) := evaluate fuel condition state
      evaluate fuel (if truth.isTrue then first else second) state
    | .both left right =>
      let (first, state) := evaluate fuel left state
      if !first.isTrue then (.truth false, state)
      else
        let (second, state) := evaluate fuel right state
        (.truth second.isTrue, state)
    | .either left right =>
      let (first, state) := evaluate fuel left state
      if first.isTrue then (.truth true, state)
      else
        let (second, state) := evaluate fuel right state
        (.truth second.isTrue, state)
    | .contained keys table =>
      let (key, state) := keyOf fuel keys state
      (.truth ((state.table table).any (·.1 == key)), state)
    | .matching text pattern holds =>
      let (text, state) := evaluate fuel text state
      let (regex, state) := regexOf fuel pattern state
      (.truth (regex.occurs (text.toText state.format) == holds), state)
    | .binary operator left right =>
      let (first, state) := evaluate fuel left state
      let (second, state) := evaluate fuel right state
      let order := first.compare state.format second
      let value := match operator with
        | "<" => .truth (order == .lt)
        | "<=" => .truth (order != .gt)
        | "==" => .truth (order == .eq)
        | "!=" => .truth (order != .eq)
        | ">" => .truth (order == .gt)
        | ">=" => .truth (order != .lt)
        | _ => combine operator first.toNumber second.toNumber
      (value, state)
    | .concat left right =>
      let (first, state) := evaluate fuel left state
      let (second, state) := evaluate fuel right state
      (.text (first.toText state.format ++ second.toText state.format), state)
    | .sign operator operand =>
      let (value, state) := evaluate fuel operand state
      match operator with
      | '!' => (.truth !value.isTrue, state)
      | '-' => (.number value.toNumber.negate, state)
      | _ => (.number value.toNumber, state)
    | .step target amount first =>
      let (before, state) := evaluate fuel target state
      let changed := before.toNumber.add (.ofInt amount)
      let (_, state) := assign fuel target (.number changed) state
      (.number (if first then changed else before.toNumber), state)
    | .call name arguments => call fuel name arguments state
    | .builtin name arguments => callBuiltin fuel name arguments state
    | .getline target none =>
      match state.advance with
      | (none, state) => (.ofNat 0, state)
      | (some record, state) =>
        match target with
        | none => (.ofNat 1, state.setRecord record)
        | some target =>
          let (_, state) := assign fuel target (.outside record) state; (.ofNat 1, state)
    | .getline target (some source) =>
      let (path, state) := evaluate fuel source state
      let name := path.toText state.format
      let known := match state.sources.lookup name with
        | some text => some text
        | none =>
          if name == ['-'] || name == "/dev/stdin".toList then some state.standardInput
          else (state.disk.readAt (pathOf name)).toOption.map Text.octets
      match known with
      | none => (.number (.ofInt (-1)), state)
      | some text =>
        match nextRecord? (state.textOf "RS") text with
        | none =>
          (.ofNat 0, { state with sources := (name, []) :: state.sources.filter (·.1 != name) })
        | some (record, rest) =>
          let state := { state with sources := (name, rest) :: state.sources.filter (·.1 != name) }
          match target with
          | none => (.ofNat 1, state.setRecord record)
          | some target =>
            let (_, state) := assign fuel target (.outside record) state; (.ofNat 1, state)

def assign : Nat → Expression → Value → State → Value × State
  | 0, _, value, state => (value, state)
  | fuel + 1, target, value, state =>
    match target with
    | .name name => (value, state.setName name value)
    | .element table keys =>
      let (key, state) := keyOf fuel keys state
      (value, state.setElement table key value)
    | .field number =>
      let (number, state) := evaluate fuel number state
      (value, state.setField number.toNumber.whole.toNat (value.toText state.format))
    | .grouped inner => assign fuel inner value state
    | _ => (value, state)

def keyOf : Nat → List Expression → State → List Char × State
  | 0, _, state => ([], state)
  | fuel + 1, keys, state =>
    let (values, state) := evaluateAll fuel keys state
    ((state.textOf "SUBSEP").intercalate (values.map (Value.toText state.format)), state)

def evaluateAll : Nat → List Expression → State → List Value × State
  | 0, _, state => ([], state)
  | _ + 1, [], state => ([], state)
  | fuel + 1, expression :: rest, state =>
    let (value, state) := evaluate fuel expression state
    let (others, state) := evaluateAll fuel rest state
    (value :: others, state)

def regexOf : Nat → Expression → State → Regex × State
  | 0, _, state => (.empty, state)
  | fuel + 1, expression, state =>
    match expression with
    | .regex regex => (regex, state)
    | other =>
      let (value, state) := evaluate fuel other state
      match Parsing.regexOf (value.toText state.format) with
      | .ok regex => (regex, state)
      | .error problem => (.empty, state.abort problem.text)

def call : Nat → String → List Expression → State → Value × State
  | 0, _, _, state => (.unset, { state with flow := .exiting, status := 2 })
  | fuel + 1, name, arguments, state =>
    match state.program.functions.lookup name with
    | none => (.unset, state.abort ("line 2: function " ++ name ++ " never defined"))
    | some function =>
      let (slots, prepared) := slotsOf fuel function.parameters arguments state
      let inner := execute fuel function.body { prepared with frame := slots }
      let value := match inner.flow with
        | .returning value => value
        | _ => .unset
      let flow := match inner.flow with
        | .returning _ => .going
        | other => other
      (value, { inner with frame := prepared.frame, flow })

def slotsOf : Nat → List String → List Expression → State → List (String × Slot) × State
  | 0, _, _, state => ([], state)
  | _ + 1, [], _, state => ([], state)
  | fuel + 1, parameter :: parameters, arguments, state =>
    let (slot, state) := match arguments.head? with
      | none => (Slot.open ("table " ++ String.ofList (Text.decimal state.made)),
        { state with made := state.made + 1 })
      | some (.name name) =>
        match state.frame.lookup name with
        | some (.value .unset) | some (.open _) => (Slot.open (state.tableName name), state)
        | some slot => (slot, state)
        | none =>
          if (state.tables.lookup name).isSome then (Slot.table name, state)
          else if (state.bindings.lookup name).isSome then (Slot.value (state.value name), state)
          else (Slot.open name, state)
      | some argument =>
        let (value, state) := evaluate fuel argument state; (Slot.value value, state)
    let (others, state) := slotsOf fuel parameters (arguments.drop 1) state
    ((parameter, slot) :: others, state)

def callBuiltin : Nat → String → List Expression → State → Value × State
  | 0, _, _, state => (.unset, { state with flow := .exiting, status := 2 })
  | fuel + 1, name, arguments, state =>
    match name, arguments with
    | "length", [] => (.ofNat state.record.length, state)
    | "length", [.name table] =>
      if (state.tables.lookup (state.tableName table)).isSome then
        (.ofNat (state.table table).length, state)
      else (.ofNat ((state.value table).toText state.format).length, state)
    | "split", text :: .name table :: more =>
      let (text, state) := evaluate fuel text state
      let (separator, state) := match more with
        | [.regex regex] => (Separator.matching regex, state)
        | other :: _ =>
          let (spelled, state) := evaluate fuel other state
          (Separator.of (spelled.toText state.format), state)
        | [] => (state.separator, state)
      let pieces := separator.fields (text.toText state.format)
      let entries := (Text.numbered pieces).map fun (number, piece) =>
        (Text.decimal number, Value.outside piece)
      (.ofNat pieces.length, state.setTable table entries)
    | "sub", pattern :: new :: more | "gsub", pattern :: new :: more =>
      let target := more.headD (.field (.number (.ofInt 0)))
      let (regex, state) := regexOf fuel pattern state
      let (new, state) := evaluate fuel new state
      let (before, state) := evaluate fuel target state
      let (text, count) :=
        substitute regex (new.toText state.format) (name == "gsub") (before.toText state.format)
      if count = 0 then (.ofNat 0, state)
      else
        let (_, state) := assign fuel target (.text text) state
        (.ofNat count, state)
    | "match", [text, pattern] =>
      let (text, state) := evaluate fuel text state
      let (regex, state) := regexOf fuel pattern state
      let (start, length) := match regex.search? false (text.toText state.format) with
        | some found => ((found.before.length + 1 : Int), (found.text.length : Int))
        | none => (0, -1)
      let marked :=
        (state.bind "RSTART" (.number (.ofInt start))).bind "RLENGTH" (.number (.ofInt length))
      (.number (.ofInt start), marked)
    | _, _ =>
      let (values, state) := evaluateAll fuel arguments state
      let first := values.headD .unset
      let text := first.toText state.format
      let value := match name, values with
        | "length", _ => .ofNat text.length
        | "substr", [_, start] => .text (substring text start.toNumber none)
        | "substr", _ :: start :: count :: _ =>
          .text (substring text start.toNumber (some count.toNumber))
        | "index", [_, part] =>
          .ofNat (((Text.indexOf? (part.toText state.format) text).map (· + 1)).getD 0)
        | "sprintf", _ :: others => .text (writeFormat state.format text.length text others)
        | "tolower", _ => .text (text.map Char.toLower)
        | "toupper", _ => .text (text.map Char.toUpper)
        | "int", _ => .number (.ofInt first.toNumber.whole)
        | "sqrt", _ => .number (squareRoot first.toNumber)
        | _, _ => .ofNat 0
      let state := if name == "close" then
          { state with
            sources := state.sources.filter (·.1 != text)
            opened := state.opened.filter (·.1 != text) }
        else state
      (value, state)

def execute : Nat → List Statement → State → State
  | 0, _, state => { state with flow := .exiting, status := 2 }
  | _ + 1, [], state => state
  | fuel + 1, statement :: rest, state =>
    let after := executeOne fuel statement state
    if after.flow == .going then execute fuel rest after else after

def executeOne : Nat → Statement → State → State
  | 0, _, state => { state with flow := .exiting, status := 2 }
  | fuel + 1, statement, state =>
    match statement with
    | .expression expression => (evaluate fuel expression state).2
    | .print arguments destination =>
      let (values, state) := evaluateAll fuel arguments state
      let format := state.textOf "OFMT"
      let line := if arguments.isEmpty then state.record
        else (state.textOf "OFS").intercalate (values.map (Value.toText format))
      write fuel destination (line ++ state.textOf "ORS") state
    | .printf arguments destination =>
      let (values, state) := evaluateAll fuel arguments state
      let format := (values.headD .unset).toText state.format
      write fuel destination (writeFormat state.format format.length format (values.drop 1)) state
    | .branch condition success failure =>
      let (truth, state) := evaluate fuel condition state
      execute fuel (if truth.isTrue then success else failure) state
    | .while condition body => repeatWhile fuel (some condition) [] body state
    | .doWhile body condition =>
      let after := execute fuel body state
      match after.flow with
      | .going | .continuing =>
        repeatWhile fuel (some condition) [] body { after with flow := .going }
      | .breaking => { after with flow := .going }
      | _ => after
    | .for start condition step body =>
      let begun := execute fuel start state
      if begun.flow == .going then repeatWhile fuel condition step body begun else begun
    | .each name table body => repeatEach fuel name ((state.table table).map (·.1)) body state
    | .block statements => execute fuel statements state
    | .next => { state with flow := .next }
    | .exit status =>
      match status with
      | none => { state with flow := .exiting }
      | some status =>
        let (value, state) := evaluate fuel status state
        { state with flow := .exiting, status := (value.toNumber.whole.emod 256).toNat }
    | .return value =>
      match value with
      | none => { state with flow := .returning .unset }
      | some value =>
        let (value, state) := evaluate fuel value state; { state with flow := .returning value }
    | .break => { state with flow := .breaking }
    | .continue => { state with flow := .continuing }
    | .delete table none => state.setTable table []
    | .delete table (some keys) =>
      let (key, state) := keyOf fuel keys state
      state.setTable table ((state.table table).filter (·.1 != key))

def write : Nat → Destination → List Char → State → State
  | 0, _, _, state => state
  | fuel + 1, destination, text, state =>
    match destination with
    | .output => { state with output := text :: state.output }
    | .file path append =>
      let (path, state) := evaluate fuel path state
      state.writeTo (path.toText state.format) append text
    | .command command =>
      let (_, state) := evaluate fuel command state
      { state with output := text :: state.output }

def repeatWhile : Nat → Option Expression → List Statement → List Statement → State → State
  | 0, _, _, _, state => { state with flow := .exiting, status := 2 }
  | fuel + 1, condition, step, body, state =>
    let (holds, state) := match condition with
      | none => (true, state)
      | some condition => let (truth, state) := evaluate fuel condition state; (truth.isTrue, state)
    if !holds || state.flow != .going then state
    else
      let after := execute fuel body state
      match after.flow with
      | .going | .continuing =>
        let stepped := execute fuel step { after with flow := .going }
        if stepped.flow == .going then repeatWhile fuel condition step body stepped else stepped
      | .breaking => { after with flow := .going }
      | _ => after

def repeatEach : Nat → String → List (List Char) → List Statement → State → State
  | 0, _, _, _, state => { state with flow := .exiting, status := 2 }
  | _ + 1, _, [], _, state => state
  | fuel + 1, name, key :: keys, body, state =>
    let after := execute fuel body (state.setName name (.outside key))
    match after.flow with
    | .going | .continuing => repeatEach fuel name keys body { after with flow := .going }
    | .breaking => { after with flow := .going }
    | _ => after

end

def runEnds (fuel : Nat) (isWanted : Pattern → Bool) : List Rule → State → State
  | [], state => state
  | rule :: rules, state =>
    if !isWanted rule.pattern || state.flow != .going then runEnds fuel isWanted rules state
    else runEnds fuel isWanted rules (execute fuel rule.action state)

def applies (fuel : Nat) (index : Nat) (pattern : Pattern) (state : State) : Bool × State :=
  match pattern with
  | .start | .finish => (false, state)
  | .always => (true, state)
  | .when condition => let (truth, state) := evaluate fuel condition state; (truth.isTrue, state)
  | .between first last =>
    let ends (state : State) : Bool × State :=
      let (truth, state) := evaluate fuel last state
      (true, if truth.isTrue then { state with begun := state.begun.filter (· != index) }
        else state)
    if state.begun.contains index then ends state
    else
      let (truth, state) := evaluate fuel first state
      if truth.isTrue then ends { state with begun := index :: state.begun } else (false, state)

def runRules (fuel : Nat) : List (Rule × Nat) → State → State
  | [], state => state
  | (rule, index) :: rules, state =>
    let (told, state) := applies fuel index rule.pattern state
    if state.flow != .going then state
    else
      let after := if told then execute fuel rule.action state else state
      if after.flow == .going then runRules fuel rules after else after

def runRecords (fuel : Nat) : Nat → State → State
  | 0, state => state
  | rounds + 1, state =>
    match state.advance with
    | (none, state) => state
    | (some record, state) =>
      let after := runRules fuel state.program.rules.zipIdx (state.setRecord record)
      match after.flow with
      | .going | .next => runRecords fuel rounds { after with flow := .going }
      | _ => after

def nestingLimit : Nat := 200000

def run (program : Program) (assignments : List (String × List Char)) (operands : List (List Char))
    (task : Task) : Done :=
  let plain : List (String × Value) := [
    ("NF", .ofNat 0), ("NR", .ofNat 0), ("FNR", .ofNat 0), ("FS", .text [' ']),
    ("OFS", .text [' ']),
    ("ORS", .text ['\n']), ("RS", .text ['\n']), ("SUBSEP", .text ['\x1c']),
    ("CONVFMT", .text "%.6g".toList),
    ("OFMT", .text "%.6g".toList), ("RSTART", .ofNat 0), ("RLENGTH", .number (.ofInt (-1))),
    ("FILENAME", .unset), ("ARGC", .ofNat (operands.length + 1))]
  let environment := task.environment.map fun (name, value) =>
    (Text.octetsOf name, Value.outside value)
  let arguments :=
    (("awk".toList :: operands).zipIdx.map fun (operand, index) =>
      (Text.decimal index, Value.outside operand))
  let files := if operands.all fun operand => (State.operandAssignment? operand).isSome then
    operands ++ [['-']] else operands
  let initial : State := {
    name := task.name
    program
    bindings := plain
    tables := [("ENVIRON", environment), ("ARGV", arguments)]
    files
    standardInput := task.input
    disk := task.disk }
  let prepared := assignments.foldl
    (fun state (name, value) => state.setName name (State.outsideValue value)) initial
  let isStart : Pattern → Bool
    | .start => true
    | _ => false
  let isFinish : Pattern → Bool
    | .finish => true
    | _ => false
  let reads := program.rules.any fun rule => !isStart rule.pattern
  let started := runEnds nestingLimit isStart program.rules prepared
  let size := task.input.length + (operands.map fun operand =>
    ((task.disk.readAt (pathOf operand)).toOption.map List.length).getD 0).foldl (· + ·) 0
  let rounded := if started.flow == .going && reads then runRecords nestingLimit (size + 1) started
    else started
  let final := if rounded.isBroken then rounded
    else runEnds nestingLimit isFinish program.rules { rounded with flow := .going }
  { output := final.output.reverse.flatten
    errors := final.errors.reverse.flatten
    status := final.status
    input := if reads then [] else task.input
    disk := final.disk }

end DialectLoader.Report

namespace DialectLoader.Tools

/-- Runs a report program, given as an argument or in files, with the options for variables and
separators. -/
def awk (task : Task) : Done :=
  let known : KnownOptions :=
    { plain := "", valued := "Fvf",
      long := [("assign", 'v'), ("field-separator", 'F'), ("file", 'f')] }
  -- Options end at the first argument that is none.
  let given := splitOptions task.arguments.length task.arguments
  match Asked.readFrom known given.1.length given.1 with
  | .error text => (task.fail 2 text)
  | .ok asked =>
    let read := (asked.values 'f').map fun path =>
      (task.contents path).mapError fun reason =>
        "cannot open \"" ++ pathOf path ++ "\" (" ++ reason ++ ")"
    let texts := read.filterMap Except.toOption
    if let some problem := read.findSome? fun result => match result with
      | .error text => some text
      | .ok _ => none then task.fail 2 problem
    else
    let (text, operands) := if texts.isEmpty then (given.2.headD [], given.2.drop 1)
      else (['\n'].intercalate texts, given.2)
    if texts.isEmpty && given.2.isEmpty then
      { task.idle.complain 2 "Usage: mawk [Options] [Program] [file ...]" with status := 2 }
    else
      match Report.Program.parse text with
      | .error problem => task.fail 2 problem
      | .ok program =>
        let separator := (asked.value? 'F').map fun value =>
          ("FS", if value == ['t'] then ['\t'] else value)
        let declared := (asked.values 'v').map fun value =>
          let name := value.takeWhile (· != '=')
          (String.ofList name, value.drop (name.length + 1))
        Report.run program (separator.toList ++ declared) operands task
where
  splitOptions : Nat → List (List Char) → List (List Char) × List (List Char)
    | 0, arguments => ([], arguments)
    | fuel + 1, arguments =>
      match arguments with
      | ['-', '-'] :: rest => ([], rest)
      | ['-', letter] :: value :: rest =>
        if "Fvf".toList.contains letter then
          let (options, others) := splitOptions fuel rest
          (['-', letter] :: value :: options, others)
        else ([], arguments)
      | ('-' :: c :: more) :: rest =>
        let (options, others) := splitOptions fuel rest
        (('-' :: c :: more) :: options, others)
      | _ => ([], arguments)

end DialectLoader.Tools
