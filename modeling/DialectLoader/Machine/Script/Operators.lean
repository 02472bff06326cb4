import DialectLoader.Machine.Script.Host
import DialectLoader.Machine.CharClass

/-!
# Operators and functions of the language

What operators do with values, and the functions that every script can call. A function that needs a
function of the script is given a way to call it.

Numbers with places are ratios, so arithmetic is exact where a machine would round. Many modules are
known by name only, and what they hold is missing.
-/

namespace DialectLoader.Script

def combinedBits (combine : Nat → Nat → Nat) (left right : Int) : Int :=
  let width := Nat.log2 (max left.natAbs right.natAbs) + 2
  let bound : Int := Nat.shiftLeft 1 width
  let bits (value : Int) : Nat := (value.emod bound).toNat
  let found : Int := combine (bits left) (bits right)
  if 2 * found < bound then found else found - bound

def intPower (base : Int) : Nat → Int
  | 0 => 1
  | exponent + 1 => base * intPower base exponent

def floorOf (value : Text.Ratio) : Int :=
  value.numerator.fdiv value.denominator

namespace Act

def noOperator {α : Type} (operator : String) (left right : Value) : Act α := do
  let state ← get
  let shown := if operator == "**" then "** or pow()" else operator
  match operator, left, state.target? left with
  | "+", .text _, _ =>
    raise "TypeError" ("can only concatenate str (not \"" ++ state.typeName right ++ "\") to str")
  | "+", .tuple _,
    _ => raise "TypeError" ("can only concatenate tuple (not \"" ++ state.typeName right ++
    "\") to tuple")
  | "+", _,
    some (.list _) =>
    raise "TypeError" ("can only concatenate list (not \"" ++ state.typeName right ++ "\") to list")
  | _, _, _ =>
    raise "TypeError"
      ("unsupported operand type(s) for " ++ shown ++ ": '" ++ state.typeName left ++ "' and '" ++
    state.typeName right ++ "'")

def repeatedItems {α : Type} (items : List α) (count : Int) : List α :=
  (List.replicate count.toNat items).flatten

def operateInts (operator : String) (left right : Int) : Act (Option Value) := do
  match operator with
  | "+" => return some (.int (left + right))
  | "-" => return some (.int (left - right))
  | "*" => return some (.int (left * right))
  | "//" =>
    if right == 0 then raise "ZeroDivisionError" "integer division or modulo by zero"
    return some (.int (left.fdiv right))
  | "%" =>
    if right == 0 then raise "ZeroDivisionError" "integer modulo by zero"
    return some (.int (left.fmod right))
  | "**" =>
    if right < 0 then return none
    if 100000 < right then raise "OverflowError" "exponent too large"
    return some (.int (intPower left right.toNat))
  | "<<" => return some (.int (left * (Nat.shiftLeft 1 right.toNat : Nat)))
  | ">>" => return some (.int (left.fdiv (Nat.shiftLeft 1 right.toNat : Nat)))
  | "|" => return some (.int (combinedBits Nat.lor left right))
  | "&" => return some (.int (combinedBits Nat.land left right))
  | "^" => return some (.int (combinedBits Nat.xor left right))
  | _ => return none

def operateReals (operator : String) (left right : Text.Ratio) : Act (Option Value) := do
  match operator with
  | "+" => return some (.real (left.add right))
  | "-" => return some (.real (left.subtract right))
  | "*" => return some (.real (left.multiply right))
  | "/" | "//" | "%" =>
    match left.divide? right with
    | none => raise "ZeroDivisionError" (if operator == "/" then "division by zero"
      else "float floor division by zero")
    | some quotient =>
      let whole := Text.Ratio.ofInt (floorOf quotient)
      return some (.real (if operator == "/" then quotient else if operator == "//" then whole
        else left.subtract (right.multiply whole)))
  | "**" =>
    if !right.isWhole then return none
    let size := left.power right.numerator.natAbs
    return (if right.numerator < 0 then (Text.Ratio.ofInt 1).divide? size else some size).map .real
  | _ => return none

def operate (operator : String) (left right : Value) : Act Value := do
  let state ← get
  match operator, left, right with
  | "+", .text left, .text right => return .text (left ++ right)
  | "+", .bytes left, .bytes right => return .bytes (left ++ right)
  | "+", .tuple left, .tuple right => return .tuple (left ++ right)
  | "*", .text content, _ | "*", _, .text content =>
    match (if left matches .text _ then right else left).int? with
    | some count => return .text (repeatedItems content count)
    | none =>
      raise "TypeError"
        ("can't multiply sequence by non-int of type '" ++ state.typeName right ++ "'")
  | "*", .bytes content, .int count => return .bytes (repeatedItems content count)
  | "*", .tuple items, .int count => return .tuple (repeatedItems items count)
  | "%", .text content, _ => return .text (← percent content right)
  | "%", .bytes content, _ => return .bytes (← percent content right)
  | "|", .bool left, .bool right => return .bool (left || right)
  | "&", .bool left, .bool right => return .bool (left && right)
  | "^", .bool left, .bool right => return .bool (left != right)
  | _, _, _ =>
    let whole ← match left.int?, right.int? with
      | some left, some right => operateInts operator left right
      | _, _ => pure none
    if let some value := whole then return value
    let real ← match left.number?, right.number? with
      | some left, some right => operateReals operator left right
      | _, _ => pure none
    if let some value := real then return value
    let has (items : List Value) (item : Value) : Bool := items.any (state.same item)
    match operator, state.target? left, state.target? right with
    | "+", some (.list left), some (.list right) => list (left ++ right)
    | "*", some (.list items), _ =>
      match right.int? with
      | some count => list (repeatedItems items count)
      | none => noOperator operator left right
    | "|", some (.set left), some (.set right) => allocate (.set (state.distinct (left ++ right)))
    | "&", some (.set left), some (.set right) => allocate (.set (left.filter (has right)))
    | "-", some (.set left), some (.set right) => allocate (.set (left.filter (!has right ·)))
    | "^", some (.set left), some (.set right) =>
      allocate (.set (left.filter (!has right ·) ++ right.filter (!has left ·)))
    | "|", some (.dict left), some (.dict right) =>
      allocate (.dict
        (right.foldl (fun entries (key, value) => state.inserted entries key value) left))
    | _, _, _ => noOperator operator left right

def identical (left right : Value) : Act Bool := do
  match left, right with
  | .ref first, .ref second => return first == second
  | .bool first, .bool second => return first == second
  | .bool _, _ | _, .bool _ => return false
  | _, _ => return (← get).same left right

def compare (operator : String) (left right : Value) : Act Bool := do
  let state ← get
  let ordered (first second : Value) : Act Bool := do
    match state.less? first second with
    | some found => return found
    | none =>
      raise "TypeError"
        ("'" ++ operator ++ "' not supported between instances of '" ++ state.typeName left ++
      "' and '" ++ state.typeName right ++ "'")
  match operator with
  | "==" => return state.same left right
  | "!=" => return !state.same left right
  | "<" => ordered left right
  | ">" => ordered right left
  | "<=" => return (← ordered left right) || state.same left right
  | ">=" => return (← ordered right left) || state.same left right
  | "in" => contains right left
  | "not in" => return !(← contains right left)
  | "is" => identical left right
  | _ => return !(← identical left right)

def operateOne (operator : String) (value : Value) : Act Value := do
  match operator, value with
  | "not", _ => return .bool (!(← get).holds value)
  | "-", .real number => return .real number.negate
  | "+", .real _ => return value
  | _, _ =>
    match value.int?, operator with
    | some number, "-" => return .int (-number)
    | some number, "+" => return .int number
    | some number, "~" => return .int (-number - 1)
    | _, _ => wrongType value ("bad operand type for unary " ++ operator ++ ": ") ""

def readInt (content : List Char) (base : Nat) : Act Int := do
  let trimmed := (((content.dropWhile isGap).reverse.dropWhile isGap).reverse)
  let (isNegative, digits) := match trimmed with
    | '-' :: rest => (true, rest)
    | '+' :: rest => (false, rest)
    | _ => (false, trimmed)
  let mark := (digits.take 2).map Char.toLower
  let (base, digits) :=
    if (base == 16 || base == 0) && mark == ['0', 'x'] then (16, digits.drop 2)
    else if (base == 8 || base == 0) && mark == ['0', 'o'] then (8, digits.drop 2)
    else if (base == 2 || base == 0) && mark == ['0', 'b'] then (2, digits.drop 2)
    else (if base == 0 then 10 else base, digits)
  let plain := digits.filter (· != '_')
  if plain.isEmpty || !plain.all (isDigitTo base) then
    raise "ValueError" ("invalid literal for int() with base " ++ toString base ++ ": " ++
      String.ofList (quoted false content))
  return if isNegative then -(valueOf base plain : Int) else (valueOf base plain : Int)

def isOfType (value : Value) (type : String) : Act Bool := do
  match value with
  | .exception kind _ => return isKind 6 kind type
  | _ =>
    let name := (← get).typeName value
    return name == type || (name == "bool" && type == "int") || type == "object"

def typesOf (value : Value) : List String :=
  match value with
  | .known name => [name]
  | .tuple types => types.filterMap fun type => match type with
    | .known name => some name
    | _ => none
  | _ => []

def print (arguments : List Value) (named : List (String × Value)) : Act Value := do
  let state ← get
  let option (name : String) (usual : List Char) : List Char := match named.lookup name with
    | some (.text content) => content
    | _ => usual
  let line := (option "sep" [' ']).intercalate (arguments.map state.textOf) ++ option "end" ['\n']
  match named.lookup "file" with
  | none | some .none => write 1 (encoded line)
  | some target =>
    let _ ← method (fun _ _ => return .none) target "write" [.text line] []
    pure ()
  return .none

def extreme (call : Value → List Value → Act Value) (name : String) (arguments : List Value)
    (named : List (String × Value)) : Act Value := do
  let values ← match arguments with
    | [value] => items value
    | _ => pure arguments
  let keys ← match named.lookup "key" with
    | none | some .none => pure values
    | some function => values.mapM fun value => call function [value]
  match keys.zip values with
  | [] =>
    match named.lookup "default" with
    | some value => return value
    | none => raise "ValueError" (name ++ "() iterable argument is empty")
  | first :: rest =>
    let best ← rest.foldlM
      (fun (best : Value × Value) (candidate : Value × Value) => do
        let isBetter ← if name == "min" then compare "<" candidate.1 best.1
            else compare ">" candidate.1 best.1
        return if isBetter then candidate else best)
      first
    return best.2

def zipped : Nat → List (List Value) → List Value
  | 0, _ => []
  | fuel + 1, lists =>
    if lists.isEmpty || lists.any List.isEmpty then []
    else .tuple (lists.filterMap List.head?) :: zipped fuel (lists.map (·.drop 1))

def rounded (value : Text.Ratio) (places : Nat) : Text.Ratio :=
  let size := Text.Ratio.nearest (value.numerator.natAbs * Text.Ratio.tens places) value.denominator
  .of (if value.numerator < 0 then -(size : Int) else size) (Text.Ratio.tens places)

def builtin (call : Value → List Value → Act Value) (name : String) (arguments : List Value)
    (named : List (String × Value)) : Act Value := do
  let state ← get
  let first := arguments.headD .none
  let iterator (items : List Value) : Act Value := allocate (.iterator items)
  let based (base : Nat) (mark : String) : Act Value := do
    let number ← wholeOf first
    return .text
      ((if number < 0 then ['-'] else []) ++ mark.toList ++ Nat.toDigits base number.natAbs)
  match name with
  | "print" => print arguments named
  | "len" => return .int (← size first)
  | "str" =>
    match arguments, first with
    | [], _ => return .text []
    | [_], _ => return .text (state.textOf first)
    | _, .bytes content => textMethod true content "decode" (arguments.drop 1) named
    | _, _ => return .text (state.textOf first)
  | "repr" | "ascii" => return .text (state.repr first)
  | "int" =>
    match arguments, first with
    | [], _ => return .int 0
    | _, .real number => return .int number.whole
    | _, .text content | _, .bytes content =>
      let base ← match (arguments[1]?).orElse fun _ => named.lookup "base" with
        | some value => wholeOf value
        | none => pure 10
      return .int (← readInt content base.toNat)
    | _, _ =>
      match first.int? with
      | some number => return .int number
      | none =>
        wrongType first
          "int() argument must be a string, a bytes-like object or a real number, not " ""
  | "float" =>
    match first with
    | .text content =>
      let trimmed := ((content.dropWhile isGap).reverse.dropWhile isGap).reverse
      match Text.Ratio.read? trimmed with
      | some (value, []) => return .real value
      | _ => raise "ValueError" ("could not convert string to float: " ++
        String.ofList (quoted false content))
    | _ =>
      match first.number? with
      | some number => return .real number
      | none => return .real (.ofInt 0)
  | "bool" => return .bool (state.holds first)
  | "list" => if arguments.isEmpty then list [] else list (← items first)
  | "tuple" => if arguments.isEmpty then return .tuple [] else return .tuple (← items first)
  | "set" | "frozenset" =>
    if arguments.isEmpty then allocate (.set [])
    else allocate (.set (state.distinct (← items first)))
  | "dict" =>
    let made ← allocate (.dict [])
    match made with
    | .ref index =>
      let _ ← dictMethod index [] "update" arguments named
      return made
    | _ => return made
  | "bytes" | "bytearray" =>
    match arguments, first with
    | [], _ => return .bytes []
    | _, .text content => textMethod false content "encode" (arguments.drop 1) named
    | _, .bytes _ => return first
    | _, .int size => return .bytes (List.replicate size.toNat '\x00')
    | _, _ =>
      let codes ← (← items first).mapM wholeOf
      return .bytes (codes.map fun code => Char.ofNat code.toNat)
  | "range" =>
    match ← arguments.mapM wholeOf with
    | [last] => return .range 0 last 1
    | [first, last] => return .range first last 1
    | [first, last, step] =>
      if step == 0 then raise "ValueError" "range() arg 3 must not be zero"
      return .range first last step
    | _ => raise "TypeError" "range expected at least 1 argument, got 0"
  | "enumerate" =>
    let start ← match (arguments[1]?).orElse fun _ => named.lookup "start" with
      | some value => wholeOf value
      | none => pure 0
    iterator ((← items first).zipIdx.map fun (item, index) => .tuple [.int (start + index), item])
  | "zip" =>
    let lists ← arguments.mapM items
    iterator (zipped ((lists.headD []).length + 1) lists)
  | "map" =>
    let lists ← (arguments.drop 1).mapM items
    let rows := zipped ((lists.headD []).length + 1) lists
    iterator (← rows.mapM fun row => match row with
      | .tuple values => call first values
      | other => call first [other])
  | "filter" =>
    iterator (← (← items (arguments.getD 1 .none)).filterM fun item => do
      match first with
      | .none => return state.holds item
      | _ =>
        let verdict ← call first [item]
        return (← get).holds verdict)
  | "sorted" =>
    let values ← items first
    let keys ← match named.lookup "key" with
      | none | some .none => pure values
      | some function => values.mapM fun value => call function [value]
    list (← sorted (keys.zip values) ((named.lookup "reverse").any state.holds))
  | "reversed" => iterator (← items first).reverse
  | "iter" => iterator (← items first)
  | "next" =>
    match first with
    | .ref index =>
      match ← cell index with
      | .iterator (item :: rest) =>
        setCell index (.iterator rest)
        return item
      | .iterator [] =>
        match arguments[1]? with
        | some value => return value
        | none => raiseValue (.exception "StopIteration" [])
      | .file _ =>
        let line ← method call first "readline" [] []
        if (← get).holds line then return line
        match arguments[1]? with
        | some value => return value
        | none => raiseValue (.exception "StopIteration" [])
      | _ => wrongType first "" " object is not an iterator"
    | _ => wrongType first "" " object is not an iterator"
  | "sum" =>
    let start := (arguments[1]?).getD (.int 0)
    (← items first).foldlM (fun total item => operate "+" total item) start
  | "min" | "max" => extreme call name arguments named
  | "abs" =>
    match first with
    | .real number => return .real (if number.numerator < 0 then number.negate else number)
    | _ => return .int (← wholeOf first).natAbs
  | "round" =>
    match first.number?, arguments[1]? with
    | some number, none => return .int (rounded number 0).whole
    | some number, some places =>
      let found := rounded number (← wholeOf places).toNat
      return if first matches .real _ then .real found else .int found.whole
    | none, _ => wrongType first "type " " doesn't define __round__ method"
  | "divmod" =>
    return .tuple
      [← operate "//" first (arguments.getD 1 .none), ← operate "%" first (arguments.getD 1 .none)]
  | "pow" =>
    let found ← operate "**" first (arguments.getD 1 .none)
    match arguments[2]? with
    | some modulus => operate "%" found modulus
    | none => return found
  | "any" => return .bool ((← items first).any state.holds)
  | "all" => return .bool ((← items first).all state.holds)
  | "ord" =>
    match first with
    | .text [c] | .bytes [c] => return .int c.toNat
    | _ => raise "TypeError" "ord() expected a character"
  | "chr" => return .text [Char.ofNat (← wholeOf first).toNat]
  | "hex" => based 16 "0x"
  | "oct" => based 8 "0o"
  | "bin" => based 2 "0b"
  | "isinstance" =>
    let checks ← (typesOf (arguments.getD 1 .none)).mapM (isOfType first)
    return .bool (checks.any id)
  | "type" => return .known (state.typeName first)
  | "callable" => return .bool (first matches .known _ | .method .. | .ref _)
  | "format" => return .text (← format ((← charsOf (arguments.getD 1 (.text [])))) first)
  | "input" =>
    let line ← streamMethod 0 false "readline" []
    match line with
    | .text [] => raise "EOFError" "EOF when reading a line"
    | .text content =>
      return .text (if content.getLast? == some '\n' then content.dropLast else content)
    | other => return other
  | "math.floor" => return .int (floorOf (first.number?.getD (.ofInt 0)))
  | "math.ceil" => return .int (-(floorOf (first.number?.getD (.ofInt 0)).negate))
  | "os.getenv" =>
    match state.target? (.ref 1) with
    | some (.dict entries) => return (state.lookup? entries first).getD (arguments.getD 1 .none)
    | _ => return .none
  | _ =>
    if exceptionKinds.contains name || name == "json.JSONDecodeError" then
      return .exception name arguments
    match host? name arguments named with
    | some action => action
    | none => raise "AttributeError" ("no function '" ++ name ++ "'")

end Act

def builtinNames : List String :=
  ["print", "len", "str", "repr", "ascii", "int", "float", "bool", "list", "tuple", "set",
    "frozenset", "dict", "bytes",
   "bytearray", "range", "enumerate", "zip", "map", "filter", "sorted", "reversed", "iter", "next",
   "sum", "min",
   "max", "abs", "round", "divmod", "pow", "any", "all", "ord", "chr", "hex", "oct", "bin",
   "isinstance", "type",
   "callable", "format", "input", "open", "exit", "quit", "object"] ++ exceptionKinds

def builtinValue? (name : String) : Option Value :=
  if builtinNames.contains name then some (.known name)
  else if name == "IOError" || name == "EnvironmentError" then some (.known "OSError")
  else none

def moduleNames : List String :=
  ["sys", "os", "os.path", "json", "time", "shutil", "math", "string", "re", "io", "errno",
    "signal", "pathlib",
   "subprocess", "hashlib", "random", "struct", "base64", "collections", "itertools", "functools",
   "textwrap",
   "tempfile", "glob", "threading", "traceback", "typing", "datetime", "argparse", "codecs",
   "locale", "platform", "__future__"]

def moduleValue (module name : String) : Value :=
  match module ++ "." ++ name with
  | "os.environ" => .ref 1
  | "sys.argv" => .ref 2
  | "sys.stdin" => .stream 0 false
  | "sys.stdout" => .stream 1 false
  | "sys.stderr" => .stream 2 false
  | "sys.platform" => .text "linux".toList
  | "sys.maxsize" => .int 0x7fffffffffffffff
  | "sys.byteorder" => .text "little".toList
  | "os.sep" | "os.path.sep" => .text ['/']
  | "os.linesep" => .text ['\n']
  | "os.name" => .text "posix".toList
  | "os.devnull" => .text "/dev/null".toList
  | "os.path" => .module "os.path"
  | "string.ascii_lowercase" => .text (Text.rangeChars 'a' 'z')
  | "string.ascii_uppercase" => .text (Text.rangeChars 'A' 'Z')
  | "string.ascii_letters" => .text (Text.rangeChars 'a' 'z' ++ Text.rangeChars 'A' 'Z')
  | "string.digits" => .text (Text.rangeChars '0' '9')
  | "json.decoder.JSONDecodeError" => .known "json.JSONDecodeError"
  | dotted => .known dotted

end DialectLoader.Script
