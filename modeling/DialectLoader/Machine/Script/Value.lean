import DialectLoader.Machine.Script.Program
import DialectLoader.Machine.LetterCase
import DialectLoader.Text.Search
import DialectLoader.Machine.Tools.Task

/-!
# Values of scripts

The values that a running script works with. Lists, dictionaries, sets, functions and open files can
change or be shared, so a value only refers to the cell that holds them. All cells are part of the
state of the script, and so are the places of variables.

An action changes the state and has a result, or it is interrupted: by an exception, by leaving a
loop or a function, or because a bound on its steps is reached.
-/

namespace DialectLoader.Script

/-- A value. What can change or be shared is only referred to, so that values can be compared and
copied freely. -/
inductive Value where
  | none
  | bool (value : Bool)
  | int (value : Int)
  | real (value : Text.Ratio)
  | text (content : List Char)
  | bytes (content : List Char)
  | tuple (items : List Value)
  | range (first last step : Int)
  | ref (index : Nat)
  | known (name : String)
  | module (name : String)
  | method (object : Value) (name : String)
  | exception (kind : String) (arguments : List Value)
  | stream (number : Nat) (isBinary : Bool)
  | ellipsis

/-- A function of a script, with the variables that it saw when it was defined. -/
structure Function where
  name : String
  parameters : List (String × ParameterKind × Option Value)
  body : List (Nat × Statement)
  scope : List Nat

/-- An open file. What is to be read was read when it was opened; what is written goes to its place
at once. -/
structure Handle where
  path : List Char
  isBinary : Bool
  unread : List Char
  place : Option Place
  isClosed : Bool := false

/-- What a cell holds. Variables are in cells too, since functions share them. -/
inductive Cell where
  | list (items : List Value)
  | dict (entries : List (Value × Value))
  | set (items : List Value)
  | function (function : Function)
  | iterator (items : List Value)
  | file (handle : Handle)
  | scope (bindings : List (String × Value)) (globals outers : List String)

/-- Why an action is interrupted. Loops, calls and handlers each wait for their own kind and pass on
the others. -/
inductive Interruption where
  | raised (exception : Value) (trace : List (Nat × String))
  | broken
  | continued
  | returned (value : Value)
  | exhausted

/-- The state of a running script. Cells are never given back, so a reference stays valid. -/
structure State where
  cells : Array Cell
  scope : List Nat
  calls : List (Nat × String) := []
  line : Nat := 0
  function : String := "<module>"
  handled : List Value := []
  input : List Char
  output : List (List Char) := []
  errors : List (List Char) := []
  disk : Disk

abbrev Act := ExceptT Interruption (StateM State)

namespace Act

def attempt {α : Type} (action : Act α) : Act (Except Interruption α) :=
  fun state =>
    let (result, state) := action.run state
    (.ok result, state)

def resume {α : Type} (result : Except Interruption α) : Act α :=
  fun state => (result, state)

def interrupt {α : Type} (interruption : Interruption) : Act α :=
  fun state => (.error interruption, state)

def raiseValue {α : Type} (exception : Value) : Act α := do
  let state ← get
  interrupt (.raised exception (((state.line, state.function) :: state.calls).reverse))

def raise {α : Type} (kind text : String) : Act α :=
  raiseValue (.exception kind [.text text.toList])

def raiseFile {α : Type} (cause : FileError) (path : List Char) : Act α :=
  let kind := match cause.kind with
    | .notFound => "FileNotFoundError"
    | .alreadyExists => "FileExistsError"
    | .isADirectory => "IsADirectoryError"
    | .notADirectory => "NotADirectoryError"
    | .permissionDenied => "PermissionError"
    | _ => "OSError"
  let number := (cause.number?.bind String.toNat?).getD 0
  raiseValue (.exception kind [.int number, .text cause.reason.toList, .text path])

def cell (index : Nat) : Act Cell := do
  return (← get).cells.getD index (.list [])

def setCell (index : Nat) (content : Cell) : Act Unit :=
  modify fun state => { state with cells := state.cells.setIfInBounds index content }

def allocate (content : Cell) : Act Value := do
  let index := (← get).cells.size
  modify fun state => { state with cells := state.cells.push content }
  return .ref index

end Act

def parentKind? (kind : String) : Option String :=
  match kind with
  | "BaseException" => none
  | "SystemExit" | "KeyboardInterrupt" | "Exception" => some "BaseException"
  | "IndexError" | "KeyError" => some "LookupError"
  | "ZeroDivisionError" | "OverflowError" => some "ArithmeticError"
  | "FileNotFoundError" | "FileExistsError" | "IsADirectoryError" | "NotADirectoryError"
  | "PermissionError" =>
    some "OSError"
  | "UnicodeDecodeError" | "UnicodeEncodeError" => some "UnicodeError"
  | "UnicodeError" | "json.JSONDecodeError" => some "ValueError"
  | "UnboundLocalError" => some "NameError"
  | "ModuleNotFoundError" => some "ImportError"
  | "RecursionError" | "NotImplementedError" => some "RuntimeError"
  | _ => some "Exception"

def isKind : Nat → String → String → Bool
  | 0, _, _ => false
  | fuel + 1, kind, other => kind == other || (parentKind? kind).any fun parent =>
    isKind fuel parent other

def exceptionKinds : List String :=
  ["BaseException", "SystemExit", "KeyboardInterrupt", "Exception", "LookupError", "IndexError",
    "KeyError",
   "ArithmeticError", "ZeroDivisionError", "OverflowError", "OSError", "FileNotFoundError",
   "FileExistsError",
   "IsADirectoryError", "NotADirectoryError", "PermissionError", "ValueError", "UnicodeError",
   "UnicodeDecodeError",
   "UnicodeEncodeError", "NameError", "UnboundLocalError", "ImportError", "ModuleNotFoundError",
   "RuntimeError",
   "RecursionError", "NotImplementedError", "TypeError", "AttributeError", "AssertionError",
   "StopIteration", "EOFError"]

namespace State

def target? (state : State) : Value → Option Cell
  | .ref index => state.cells[index]?
  | _ => none

def typeName (state : State) (value : Value) : String :=
  match value with
  | .none => "NoneType"
  | .bool _ => "bool"
  | .int _ => "int"
  | .real _ => "float"
  | .text _ => "str"
  | .bytes _ => "bytes"
  | .tuple _ => "tuple"
  | .range .. => "range"
  | .known name => if exceptionKinds.contains name ||
    ["int", "str", "list", "dict"].contains name then "type"
    else "builtin_function_or_method"
  | .module _ => "module"
  | .method .. => "builtin_function_or_method"
  | .exception kind _ => kind
  | .stream _ isBinary => if isBinary then "_io.BufferedWriter" else "_io.TextIOWrapper"
  | .ellipsis => "ellipsis"
  | .ref _ =>
    match state.target? value with
    | some (.list _) => "list"
    | some (.dict _) => "dict"
    | some (.set _) => "set"
    | some (.function _) => "function"
    | some (.iterator _) => "iterator"
    | some (.file handle) => if handle.isBinary then "_io.BufferedReader" else "_io.TextIOWrapper"
    | some (.scope ..) | none => "object"

def rangeSize (first last step : Int) : Nat :=
  if step == 0 then 0
  else if 0 < step then ((last - first + step - 1).fdiv step).toNat
  else ((first - last - step - 1).fdiv (-step)).toNat

def rangeItems (first last step : Int) : List Value :=
  (List.range (rangeSize first last step)).map fun (index : Nat) =>
    .int (first + step * (index : Int))

def holds (state : State) (value : Value) : Bool :=
  match value with
  | .none => false
  | .bool value => value
  | .int value => value != 0
  | .real value => !value.isZero
  | .text content | .bytes content => !content.isEmpty
  | .tuple items => !items.isEmpty
  | .range first last step => rangeSize first last step != 0
  | _ =>
    match state.target? value with
    | some (.list items) | some (.set items) => !items.isEmpty
    | some (.dict entries) => !entries.isEmpty
    | _ => true

end State

def Value.number? : Value → Option Text.Ratio
  | .bool value => some (.ofInt (if value then 1 else 0))
  | .int value => some (.ofInt value)
  | .real value => some value
  | _ => Option.none

def Value.int? : Value → Option Int
  | .bool value => some (if value then 1 else 0)
  | .int value => some value
  | _ => Option.none

def depthLimit : Nat := 100

namespace State

def areEqual (state : State) : Nat → Value → Value → Bool
  | 0, _, _ => false
  | fuel + 1, left, right =>
    let allEqual (left right : List Value) : Bool :=
      left.length == right.length && (left.zip right).all fun (left, right) =>
        areEqual state fuel left right
    match left, right with
    | .none, .none | .ellipsis, .ellipsis => true
    | .text left, .text right => left == right
    | .bytes left, .bytes right => left == right
    | .tuple left, .tuple right => allEqual left right
    | .range a b c, .range d e f => allEqual (rangeItems a b c) (rangeItems d e f)
    | .known left, .known right => left == right
    | .module left, .module right => left == right
    | .stream left _, .stream right _ => left == right
    | .ref first, .ref second =>
      first == second ||
        match state.target? left, state.target? right with
        | some (.list left), some (.list right) => allEqual left right
        | some (.set left), some (.set right) =>
          left.length == right.length && left.all fun item => right.any (areEqual state fuel item)
        | some (.dict left), some (.dict right) =>
          left.length == right.length && left.all fun (key, value) =>
            right.any fun (other, held) => areEqual state fuel key other &&
              areEqual state fuel value held
        | _, _ => false
    | _, _ =>
      match left.number?, right.number? with
      | some left, some right => left == right
      | _, _ => false

def same (state : State) (left right : Value) : Bool :=
  state.areEqual depthLimit left right

def isBefore : List Char → List Char → Bool
  | _, [] => false
  | [], _ :: _ => true
  | c :: left, d :: right => c.toNat < d.toNat || (c == d && isBefore left right)

def isLess? (state : State) : Nat → Value → Value → Option Bool
  | 0, _, _ => none
  | fuel + 1, left, right =>
    let rec items (fuel : Nat) : List Value → List Value → Option Bool
      | _, [] => some false
      | [], _ :: _ => some true
      | first :: left, second :: right =>
        if state.same first second then items fuel left right else isLess? state fuel first second
    match left, right with
    | .text left, .text right | .bytes left, .bytes right => some (isBefore left right)
    | .tuple left, .tuple right => items fuel left right
    | _, _ =>
      match left.number?, right.number?, state.target? left, state.target? right with
      | some left, some right, _, _ => some (left.isLess right)
      | _, _, some (.list left), some (.list right) => items fuel left right
      | _, _, some (.set left), some (.set right) =>
        some (left.length < right.length && left.all fun item => right.any (state.same item))
      | _, _, _, _ => none

def less? (state : State) (left right : Value) : Option Bool :=
  state.isLess? depthLimit left right

def lookup? (state : State) (entries : List (Value × Value)) (key : Value) : Option Value :=
  (entries.find? fun (known, _) => state.same known key).map (·.2)

def inserted (state : State) (entries : List (Value × Value)) (key value : Value) :
    List (Value × Value) :=
  if entries.any fun (known, _) => state.same known key then
    entries.map fun (known, before) => (known, if state.same known key then value else before)
  else entries ++ [(key, value)]

def distinct (state : State) (items : List Value) : List Value :=
  (items.foldl (fun found item => if found.any (state.same item) then found else item :: found)
    []).reverse

end State

def padded (width : Nat) (digits : List Char) : List Char :=
  List.replicate (width - digits.length) '0' ++ digits

def intText (value : Int) : List Char :=
  (if value < 0 then ['-'] else []) ++ Text.decimal value.natAbs

def realText (value : Text.Ratio) : List Char :=
  let sign := if value.numerator < 0 then ['-'] else []
  let exact := (List.range 16).map (· + 1) |>.find? fun precision =>
    (Text.Ratio.readSize? (value.exponential (precision - 1))).any fun (read, _) =>
      read == (⟨value.numerator.natAbs, value.denominator⟩ : Text.Ratio)
  let precision := exact.getD 16
  let (digits, exponent) := value.scientific (precision - 1)
  if exponent < -4 || 16 ≤ exponent then
    sign ++ Text.Ratio.trimPlaces (Text.Ratio.pointed (precision - 1) digits) ++ 'e' ::
      Text.Ratio.exponentText exponent
  else
    let plain := Text.Ratio.trimPlaces (value.fixed ((precision : Int) - 1 - exponent).toNat)
    sign ++ plain ++ (if plain.contains '.' then [] else ['.', '0'])

def quoted (isBytes : Bool) (content : List Char) : List Char :=
  let quote := if content.contains '\'' && !content.contains '"' then '"' else '\''
  let hex (width code : Nat) : List Char := padded width (Nat.toDigits 16 code)
  let written (c : Char) : List Char :=
    let code := c.toNat
    if c == quote || c == '\\' then ['\\', c]
    else if c == '\n' then ['\\', 'n']
    else if c == '\r' then ['\\', 'r']
    else if c == '\t' then ['\\', 't']
    else if code < 0x20 || code == 0x7f || (isBytes && 0x7f < code) then '\\' :: 'x' :: hex 2 code
    else if (0x80 ≤ code && code ≤ 0xa0) || code == 0xad then '\\' :: 'x' :: hex 2 code
    else if (0x2000 ≤ code && code ≤ 0x200f) || (0x2028 ≤ code && code ≤ 0x202f) || code == 0xfeff
        || (0xe000 ≤ code && code ≤ 0xf8ff) || code == 0x3000 then '\\' :: 'u' :: hex 4 code
    else [c]
  (if isBytes then ['b'] else []) ++ quote :: content.flatMap written ++ [quote]

namespace State

def shown (state : State) : Nat → Value → List Char
  | 0, _ => "...".toList
  | fuel + 1, value =>
    let listed (items : List Value) : List Char :=
      ", ".toList.intercalate (items.map (shown state fuel))
    match value with
    | .none => "None".toList
    | .bool value => (if value then "True" else "False").toList
    | .int value => intText value
    | .real value => realText value
    | .text content => quoted false content
    | .bytes content => quoted true content
    | .ellipsis => "Ellipsis".toList
    | .tuple [item] => '(' :: shown state fuel item ++ [',', ')']
    | .tuple items => '(' :: listed items ++ [')']
    | .range first last step =>
      "range(".toList ++
        listed ([.int first, .int last] ++ if step == 1 then [] else [.int step]) ++ [')']
    | .known name =>
      let isType := exceptionKinds.contains name ||
        ["int", "str", "float", "bool", "list", "dict", "set", "tuple", "bytes",
        "range"].contains name
      ((if isType then "<class '" else "<built-in function ") ++ name ++
        (if isType then "'>" else ">")).toList
    | .module name => ("<module '" ++ name ++ "'>").toList
    | .method _ name => ("<built-in method " ++ name ++ ">").toList
    | .exception kind arguments => kind.toList ++ '(' :: listed arguments ++ [')']
    | .stream number _ => ("<_io.TextIOWrapper name='" ++
        ["<stdin>", "<stdout>", "<stderr>"].getD number "" ++ "'>").toList
    | .ref _ =>
      match state.target? value with
      | some (.list items) => '[' :: listed items ++ [']']
      | some (.set []) => "set()".toList
      | some (.set items) => '\x7b' :: listed items ++ ['\x7d']
      | some (.dict entries) =>
        let entry := fun ((key, value) : Value × Value) =>
          shown state fuel key ++ ':' :: ' ' :: shown state fuel value
        '\x7b' :: ", ".toList.intercalate (entries.map entry) ++ ['\x7d']
      | some (.function function) => ("<function " ++ function.name ++ ">").toList
      | _ => "<object>".toList

def repr (state : State) (value : Value) : List Char :=
  state.shown depthLimit value

def exceptionText (state : State) (kind : String) (arguments : List Value) : List Char :=
  let plain (value : Value) : List Char := match value with
    | .text content => content
    | other => state.repr other
  match arguments with
  | [] => []
  | [argument] => if kind == "KeyError" then state.repr argument else plain argument
  | [number, reason, path] =>
    if isKind 5 kind "OSError" then
      "[Errno ".toList ++ plain number ++ "] ".toList ++ plain reason ++ ": ".toList ++
        state.repr path
    else state.repr (.tuple arguments)
  | _ => state.repr (.tuple arguments)

def textOf (state : State) (value : Value) : List Char :=
  match value with
  | .text content => content
  | .exception kind arguments => state.exceptionText kind arguments
  | other => state.repr other

end State

def encoded (content : List Char) : List Char :=
  Text.octetsOf (String.ofList content)

def decoded (octets : List Char) : List Char :=
  (Text.ofOctets octets).toList

def unifiedNewlines : List Char → List Char
  | '\r' :: '\n' :: rest => '\n' :: unifiedNewlines rest
  | '\r' :: rest => '\n' :: unifiedNewlines rest
  | c :: rest => c :: unifiedNewlines rest
  | [] => []

def linesOf (content : List Char) : List (List Char) :=
  let pieces := Text.pieces (· == '\n') content
  (pieces.dropLast.map (· ++ ['\n'])) ++ (pieces.getLast?.toList.filter (!·.isEmpty))

namespace Act

def wrongType {α : Type} (value : Value) (start rest : String) : Act α := do
  raise "TypeError" (start ++ "'" ++ (← get).typeName value ++ "'" ++ rest)

def takeInput : Act (List Char) := do
  let input := (← get).input
  modify fun state => { state with input := [] }
  return input

def items (value : Value) : Act (List Value) := do
  match value with
  | .text content => return content.map fun c => .text [c]
  | .bytes content => return content.map fun c => .int c.toNat
  | .tuple items => return items
  | .range first last step => return State.rangeItems first last step
  | .stream _ isBinary =>
    let input ← takeInput
    if isBinary then return (linesOf input).map .bytes
    else return (linesOf (unifiedNewlines (decoded input))).map .text
  | .ref index =>
    match ← cell index with
    | .list items | .set items => return items
    | .dict entries => return entries.map (·.1)
    | .iterator items =>
      setCell index (.iterator [])
      return items
    | .file handle =>
      setCell index (.file { handle with unread := [] })
      return (linesOf handle.unread).map fun line =>
        if handle.isBinary then .bytes line else .text line
    | _ => wrongType value "" " object is not iterable"
  | _ => wrongType value "" " object is not iterable"

def list (items : List Value) : Act Value :=
  allocate (.list items)

def size (value : Value) : Act Nat := do
  match value with
  | .text content | .bytes content => return content.length
  | .tuple items => return items.length
  | .range first last step => return State.rangeSize first last step
  | _ =>
    match (← get).target? value with
    | some (.list items) | some (.set items) => return items.length
    | some (.dict entries) => return entries.length
    | _ => wrongType value "object of type " " has no len()"

def write (number : Nat) (octets : List Char) : Act Unit :=
  modify fun state =>
    if number == 1 then { state with output := octets :: state.output }
    else { state with errors := octets :: state.errors }

end Act

end DialectLoader.Script
