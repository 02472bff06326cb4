import DialectLoader.Machine.Script.Format
import DialectLoader.Machine.Script.Sequence

/-!
# Methods of values

What texts, bytes, lists, dictionaries, sets and open files can be asked to do. Texts and bytes
share most of their methods. Where a method needs a function of the script, it is given a way to
call it.

Methods that are not here raise the exception for a missing one. Changes of case follow the tables
of `LetterCase`; which characters are letters is told by ranges.
-/

namespace DialectLoader.Script

def isGap (c : Char) : Bool :=
  Text.isBlank c || (0x1c ≤ c.toNat && c.toNat ≤ 0x1f)

def words : Nat → Option Nat → List Char → List (List Char)
  | 0, _, _ => []
  | fuel + 1, limit, cs =>
    match cs.dropWhile isGap with
    | [] => []
    | start =>
      if limit == some 0 then [(start.reverse.dropWhile isGap).reverse]
      else
        let word := start.takeWhile (!isGap ·)
        word :: words fuel (limit.map (· - 1)) (start.drop word.length)

def parts (separator : List Char) : Nat → Option Nat → List Char → List (List Char)
  | 0, _, cs => [cs]
  | fuel + 1, limit, cs =>
    if limit == some 0 then [cs]
    else
      match Text.indexOf? separator cs with
      | none => [cs]
      | some index =>
        cs.take index :: parts separator fuel (limit.map (· - 1))
          (cs.drop (index + separator.length))

def endsLine (isBytes : Bool) (c : Char) : Bool :=
  c == '\n' || c == '\r' ||
    (!isBytes && (c == '\x0b' || c == '\x0c' || (0x1c ≤ c.toNat && c.toNat ≤ 0x1e)
    || c.toNat == 0x85 || c.toNat == 0x2028 || c.toNat == 0x2029))

def brokenLines (isBytes keeps : Bool) : Nat → List Char → List (List Char)
  | 0, _ | _ + 1, [] => []
  | fuel + 1, cs =>
    let line := cs.takeWhile fun c => !(endsLine isBytes c)
    let rest := cs.drop line.length
    let ending := match rest with
      | '\r' :: '\n' :: _ => rest.take 2
      | _ => rest.take 1
    (if keeps then line ++ ending else line) :: brokenLines isBytes keeps fuel
      (rest.drop ending.length)

def replaced (old new : List Char) : Nat → Option Nat → List Char → List Char
  | 0, _, cs => cs
  | fuel + 1, limit, cs =>
    if limit == some 0 then cs
    else if old.isEmpty then
      match cs with
      | [] => new
      | c :: rest => new ++ c :: replaced old new fuel (limit.map (· - 1)) rest
    else
      match Text.indexOf? old cs with
      | none => cs
      | some index => cs.take index ++ new ++ replaced old new fuel (limit.map (· - 1))
        (cs.drop (index + old.length))

def lastIndexOf? (needle cs : List Char) : Option Nat :=
  (Text.indexOf? needle.reverse cs.reverse).map fun index => cs.length - index - needle.length

def titled : Bool → List Char → List Char
  | _, [] => []
  | inWord, c :: rest =>
    let isLetter := Text.capital c != Text.small c
    (if inWord then Text.small c else Text.capital c) ++ titled isLetter rest

def isLetter (c : Char) : Bool :=
  c.isAlpha || (0xaa ≤ c.toNat && c.toNat != 0xd7 && c.toNat != 0xf7 && !Text.isDigit c && !isGap c
    && (0xc0 ≤ c.toNat || c.toNat == 0xaa || c.toNat == 0xb5 || c.toNat == 0xba)
    && !(0x2000 ≤ c.toNat && c.toNat < 0x2c00) && !(0x1f000 ≤ c.toNat && c.toNat < 0x20000)
    && !(0x3000 ≤ c.toNat && c.toNat < 0x3005))

namespace Act

def wholeOf (value : Value) : Act Int := do
  match value.int? with
  | some number => return number
  | none => wrongType value "" " object cannot be interpreted as an integer"

def charsOf (value : Value) : Act (List Char) := do
  match value with
  | .text content | .bytes content => return content
  | _ => raise "TypeError" ("must be str, not " ++ (← get).typeName value)

def noMethod {α : Type} (object : Value) (name : String) : Act α := do
  raise "AttributeError"
    ("'" ++ (← get).typeName object ++ "' object has no attribute '" ++ name ++ "'")

def limitOf (value : Option Value) : Act (Option Nat) := do
  match value with
  | none => return none
  | some value =>
    let number ← wholeOf value
    return if number < 0 then none else some number.toNat

def textMethod (isBytes : Bool) (content : List Char) (name : String) (arguments : List Value)
    (named : List (String × Value)) : Act Value := do
  let wrap (content : List Char) : Value := if isBytes then .bytes content else .text content
  let size := content.length
  let argument (index : Nat) (keyword : String) : Option Value :=
    (arguments[index]?).orElse fun _ => named.lookup keyword
  let lowered (cs : List Char) : List Char := if isBytes then cs.map Char.toLower
    else Text.toSmall cs
  let raised (cs : List Char) : List Char := if isBytes then cs.map Char.toUpper
    else Text.toCapitals cs
  let listOf (parts : List (List Char)) : Act Value := list (parts.map wrap)
  let strip (left right : Bool) : Act Value := do
    let isOut ← match arguments.head? with
      | none | some .none => pure isGap
      | some value => do
        let set ← charsOf value
        pure fun (c : Char) => set.contains c
    let front := if left then content.dropWhile isOut else content
    return wrap (if right then (front.reverse.dropWhile isOut).reverse else front)
  let splitting (isLast : Bool) : Act Value := do
    let limit ← limitOf (argument 1 "maxsplit")
    let turn (cs : List Char) : List Char := if isLast then cs.reverse else cs
    let found ← match argument 0 "sep" with
      | none | some .none => pure (words (size + 1) limit (turn content))
      | some value => do
        let separator ← charsOf value
        if separator.isEmpty then raise "ValueError" "empty separator"
        pure (parts (turn separator) (size + 1) limit (turn content))
    listOf (if isLast then (found.map List.reverse).reverse else found)
  let window : Act (List Char × Nat) := do
    let first ← match arguments[1]? with
      | some value => bound? value
      | none => pure none
    let last ← match arguments[2]? with
      | some value => bound? value
      | none => pure none
    let start := if first.isNone then 0 else (slicePositions size none first none).length
    return (slicedItems content first last none, start)
  let find (isLast isStrict : Bool) : Act Value := do
    let needle ← charsOf (arguments.headD .none)
    let (part, start) ← window
    match if isLast then lastIndexOf? needle part else Text.indexOf? needle part with
    | some index => return .int ((start + index : Nat) : Int)
    | none =>
      if isStrict then
        raise "ValueError" (if isBytes then "subsection not found" else "substring not found")
      return .int (-1)
  let tested (isAt : List Char → List Char → Bool) : Act Value := do
    let (part, _) ← window
    match arguments.headD .none with
    | .tuple options =>
      let found ← options.mapM charsOf
      return .bool (found.any fun option => isAt option part)
    | value => return .bool (isAt (← charsOf value) part)
  let all (isPart : Char → Bool) : Act Value :=
    return .bool (!content.isEmpty && content.all isPart)
  let justified (side : Char) : Act Value := do
    let width ← wholeOf (arguments.headD .none)
    let fill ← match arguments[1]? with
      | some value => do pure ((← charsOf value).headD ' ')
      | none => pure ' '
    let space := width.toNat - size
    -- With an odd space the side of the larger half depends on the width.
    let left := space / 2 + (if space % 2 == 1 && width.toNat % 2 == 1 then 1 else 0)
    return wrap (match side with
      | '<' => content ++ List.replicate space fill
      | '>' => List.replicate space fill ++ content
      | _ => List.replicate left fill ++ content ++ List.replicate (space - left) fill)
  let partition (isLast : Bool) : Act Value := do
    let separator ← charsOf (arguments.headD .none)
    match if isLast then lastIndexOf? separator content else Text.indexOf? separator content with
    | some index =>
      return .tuple
        [wrap (content.take index), wrap separator, wrap (content.drop (index + separator.length))]
    | none => return .tuple (if isLast then [wrap [], wrap [], wrap content]
      else [wrap content, wrap [], wrap []])
  match name with
  | "upper" => return wrap (raised content)
  | "lower" | "casefold" => return wrap (lowered content)
  | "capitalize" => return wrap (raised (content.take 1) ++ lowered (content.drop 1))
  | "title" => return wrap (titled false content)
  | "swapcase" =>
    return wrap (content.flatMap fun c => if lowered [c] == [c] then raised [c] else lowered [c])
  | "strip" => strip true true
  | "lstrip" => strip true false
  | "rstrip" => strip false true
  | "split" => splitting false
  | "rsplit" => splitting true
  | "splitlines" =>
    let keeps := (argument 0 "keepends").any fun value => value.int? != some 0
    listOf (brokenLines isBytes keeps (size + 1) content)
  | "join" =>
    let values ← items (arguments.headD .none)
    let found ← values.zipIdx.mapM fun (value, index) => do
      match value with
      | .text part | .bytes part => pure part
      | _ => raise "TypeError" ("sequence item " ++ toString index ++ ": expected str instance, " ++
          (← get).typeName value ++ " found")
    return wrap (content.intercalate found)
  | "replace" =>
    let old ← charsOf (arguments.headD .none)
    let new ← charsOf (arguments.getD 1 .none)
    return wrap (replaced old new (size + 2) (← limitOf (argument 2 "count")) content)
  | "startswith" => tested fun start part => start.isPrefixOf part
  | "endswith" => tested fun ending part => ending.isSuffixOf part
  | "find" => find false false
  | "rfind" => find true false
  | "index" => find false true
  | "rindex" => find true true
  | "count" =>
    let needle ← charsOf (arguments.headD .none)
    let (part, _) ← window
    if needle.isEmpty then return .int (part.length + 1)
    return .int ((parts needle (part.length + 1) none part).length - 1)
  | "isdigit" | "isdecimal" | "isnumeric" => all Text.isDigit
  | "isalpha" => all isLetter
  | "isalnum" => all fun c => isLetter c || Text.isDigit c
  | "isspace" => all isGap
  | "isupper" =>
    return .bool (content.any (fun c => lowered [c] != [c]) && raised content == content)
  | "islower" =>
    return .bool (content.any (fun c => raised [c] != [c]) && lowered content == content)
  | "isascii" => return .bool (content.all fun c => c.toNat < 0x80)
  | "isidentifier" => return .bool (content.head?.any startsName && content.all isNameChar)
  | "zfill" =>
    let width ← wholeOf (arguments.headD .none)
    let (sign, digits) := match content with
      | '-' :: rest => (['-'], rest)
      | '+' :: rest => (['+'], rest)
      | _ => ([], content)
    return wrap (sign ++ padded (width.toNat - sign.length) digits)
  | "ljust" => justified '<'
  | "rjust" => justified '>'
  | "center" => justified '^'
  | "partition" => partition false
  | "rpartition" => partition true
  | "removeprefix" =>
    let start ← charsOf (arguments.headD .none)
    return wrap (if start.isPrefixOf content then content.drop start.length else content)
  | "removesuffix" =>
    let ending ← charsOf (arguments.headD .none)
    return wrap (if ending.isSuffixOf content then content.take (size - ending.length) else content)
  | "expandtabs" => return wrap (content.foldl (fun done c =>
      if c == '\t' then done ++ List.replicate (8 - (done.reverse.takeWhile (· != '\n')).length % 8)
        ' ' else done ++ [c]) [])
  | "encode" =>
    let coding := ((argument 0 "encoding").map (← get).textOf).getD "utf-8".toList
    if isBytes then noMethod (wrap content) name
    else if (coding.map Char.toLower).filter Char.isAlphanum == "latin1".toList then
      return .bytes content
    else return .bytes (encoded content)
  | "decode" =>
    if !isBytes then noMethod (wrap content) name
    let coding := ((argument 0 "encoding").map (← get).textOf).getD "utf-8".toList
    let isLenient := (argument 1 "errors").isSome
    if (coding.map Char.toLower).filter Char.isAlphanum == "latin1".toList then return .text content
    else if isLenient || (Text.ofUtf8? (Text.octetBytes content)).isSome then
      return .text (decoded content)
    else raise "UnicodeDecodeError" "'utf-8' codec can't decode byte: invalid start byte"
  | "hex" => return .text (content.flatMap fun c => padded 2 (Nat.toDigits 16 c.toNat))
  | "format" =>
    if isBytes then noMethod (wrap content) name
    else return .text (← fillBraces arguments named (size + 1) 0 content)
  | _ => noMethod (wrap content) name

def listMethod (call : Value → List Value → Act Value) (index : Nat) (values : List Value)
    (name : String) (arguments : List Value) (named : List (String × Value)) : Act Value := do
  let state ← get
  let change (values : List Value) : Act Value := do
    setCell index (.list values)
    return .none
  let first := arguments.headD .none
  match name with
  | "append" => change (values ++ [first])
  | "extend" => change (values ++ (← items first))
  | "insert" =>
    let start := (slicePositions values.length none (← bound? first) none).length
    change (values.take start ++ arguments.getD 1 .none :: values.drop start)
  | "pop" =>
    if values.isEmpty then raise "IndexError" "pop from empty list"
    let at? ← match arguments with
      | [] => pure (some (values.length - 1))
      | value :: _ => do pure (position? values.length (← wholeOf value))
    match at? with
    | some position =>
      setCell index (.list (values.eraseIdx position))
      return values.getD position .none
    | none => raise "IndexError" "pop index out of range"
  | "remove" =>
    match values.findIdx? (state.same first) with
    | some position => change (values.eraseIdx position)
    | none => raise "ValueError" "list.remove(x): x not in list"
  | "index" =>
    match values.findIdx? (state.same first) with
    | some position => return .int position
    | none => raise "ValueError" (String.ofList (state.repr first) ++ " is not in list")
  | "count" => return .int (values.filter (state.same first)).length
  | "reverse" => change values.reverse
  | "clear" => change []
  | "copy" => list values
  | "sort" =>
    let keys ← match named.lookup "key" with
      | none | some .none => pure values
      | some function => values.mapM fun value => call function [value]
    change (← sorted (keys.zip values) ((named.lookup "reverse").any state.holds))
  | _ => noMethod (.ref index) name

def dictMethod (index : Nat) (entries : List (Value × Value)) (name : String)
    (arguments : List Value) (named : List (String × Value)) : Act Value := do
  let state ← get
  let first := arguments.headD .none
  let other := arguments.getD 1 .none
  match name with
  | "get" => return (state.lookup? entries first).getD other
  | "items" => return .tuple (entries.map fun (key, value) => .tuple [key, value])
  | "keys" => return .tuple (entries.map (·.1))
  | "values" => return .tuple (entries.map (·.2))
  | "copy" => allocate (.dict entries)
  | "clear" =>
    setCell index (.dict [])
    return .none
  | "pop" =>
    match state.lookup? entries first, arguments[1]? with
    | some value, _ =>
      setCell index (.dict (entries.filter fun (known, _) => !state.same known first))
      return value
    | none, some value => return value
    | none, none => raiseValue (.exception "KeyError" [first])
  | "setdefault" =>
    match state.lookup? entries first with
    | some value => return value
    | none =>
      setCell index (.dict (entries ++ [(first, other)]))
      return other
  | "update" =>
    let given ← match arguments with
      | [] => pure []
      | value :: _ =>
        match state.target? value with
        | some (.dict entries) => pure entries
        | _ => do
          (← items value).mapM fun pair => do
            match ← items pair with
            | [key, value] => pure (key, value)
            | _ =>
              raise "ValueError"
                "dictionary update sequence element #0 has a wrong length; 2 is required"
    let all := given ++ named.map fun (name, value) => (.text name.toList, value)
    setCell index
      (.dict (all.foldl (fun entries (key, value) => state.inserted entries key value) entries))
    return .none
  | _ => noMethod (.ref index) name

def setMethod (index : Nat) (members : List Value) (name : String) (arguments : List Value) :
    Act Value := do
  let state ← get
  let first := arguments.headD .none
  let has (items : List Value) (item : Value) : Bool := items.any (state.same item)
  match name with
  | "add" =>
    if !has members first then setCell index (.set (members ++ [first]))
    return .none
  | "discard" =>
    setCell index (.set (members.filter (!state.same first ·)))
    return .none
  | "remove" =>
    if !has members first then raiseValue (.exception "KeyError" [first])
    setCell index (.set (members.filter (!state.same first ·)))
    return .none
  | "update" =>
    setCell index (.set (state.distinct (members ++ (← items first))))
    return .none
  | "clear" =>
    setCell index (.set [])
    return .none
  | "copy" => allocate (.set members)
  | "union" => allocate (.set (state.distinct (members ++ (← items first))))
  | "intersection" =>
    let others ← items first
    allocate (.set (members.filter (has others)))
  | "difference" =>
    let others ← items first
    allocate (.set (members.filter (!has others ·)))
  | "issubset" =>
    let others ← items first
    return .bool (members.all (has others))
  | "issuperset" => return .bool ((← items first).all (has members))
  | _ => noMethod (.ref index) name

def readPart (name : String) (arguments : List Value) (unread : List Char) :
    Act (List Char × List Char) := do
  if name == "readline" then
    let line := unread.takeWhile (· != '\n')
    let size := if line.length < unread.length then line.length + 1 else line.length
    return (unread.take size, unread.drop size)
  else
    match ← limitOf (arguments.head?.filter fun value => value matches .int _) with
    | some size => return (unread.take size, unread.drop size)
    | none => return (unread, [])

def writeFile (index : Nat) (value : Value) : Act Value := do
  match ← cell index with
  | .file handle =>
    if handle.isClosed then raise "ValueError" "I/O operation on closed file."
    match value, handle.place with
    | .text content, some place =>
      if handle.isBinary then raise "TypeError" "a bytes-like object is required, not 'str'"
      modify fun state =>
        { state with disk := state.disk.appendTo place (Text.octetBytes (encoded content)) }
      return .int content.length
    | .bytes content, some place =>
      if !handle.isBinary then raise "TypeError" "write() argument must be str, not bytes"
      modify fun state => { state with disk := state.disk.appendTo place (Text.octetBytes content) }
      return .int content.length
    | _, none => raise "io.UnsupportedOperation" "not writable"
    | _, _ => raise "TypeError" ("write() argument must be str, not " ++ (← get).typeName value)
  | _ => return .none

def fileMethod (index : Nat) (handle : Handle) (name : String) (arguments : List Value) :
    Act Value := do
  let wrap (content : List Char) : Value := if handle.isBinary then .bytes content
    else .text content
  if handle.isClosed && name != "close" then raise "ValueError" "I/O operation on closed file."
  match name with
  | "read" | "readline" =>
    if handle.place.isSome then raise "io.UnsupportedOperation" "not readable"
    let (part, rest) ← readPart name arguments handle.unread
    setCell index (.file { handle with unread := rest })
    return wrap part
  | "readlines" =>
    setCell index (.file { handle with unread := [] })
    list ((linesOf handle.unread).map wrap)
  | "write" => writeFile index (arguments.headD .none)
  | "writelines" =>
    for value in ← items (arguments.headD .none) do
      let _ ← writeFile index value
    return .none
  | "close" =>
    setCell index (.file { handle with isClosed := true })
    return .none
  | "flush" | "fileno" | "seek" => return .none
  | "__enter__" => return .ref index
  | _ => noMethod (.ref index) name

def writeStream (number : Nat) (isBinary : Bool) (value : Value) : Act Value := do
  match value, isBinary with
  | .text content, false =>
    write number (encoded content)
    return .int content.length
  | .bytes content, true =>
    write number content
    return .int content.length
  | _, true => wrongType value "a bytes-like object is required, not " ""
  | _, false => raise "TypeError" ("write() argument must be str, not " ++ (← get).typeName value)

def streamMethod (number : Nat) (isBinary : Bool) (name : String) (arguments : List Value) :
    Act Value := do
  match name with
  | "read" | "readline" =>
    let input ← takeInput
    if isBinary then
      let (part, rest) ← readPart name arguments input
      modify fun state => { state with input := rest }
      return .bytes part
    else
      let (part, rest) ← readPart name arguments (unifiedNewlines (decoded input))
      modify fun state => { state with input := encoded rest }
      return .text part
  | "readlines" => list (← items (.stream number isBinary))
  | "write" => writeStream number isBinary (arguments.headD .none)
  | "writelines" =>
    for value in ← items (arguments.headD .none) do
      let _ ← writeStream number isBinary value
    return .none
  | "flush" | "close" | "reconfigure" => return .none
  | "isatty" => return .bool false
  | "fileno" => return .int number
  | _ => noMethod (.stream number isBinary) name

def method (call : Value → List Value → Act Value) (object : Value) (name : String)
    (arguments : List Value) (named : List (String × Value)) : Act Value := do
  match object with
  | .text content => textMethod false content name arguments named
  | .bytes content => textMethod true content name arguments named
  | .stream number isBinary => streamMethod number isBinary name arguments
  | .tuple items =>
    let state ← get
    let first := arguments.headD .none
    match name with
    | "count" => return .int (items.filter (state.same first)).length
    | "index" =>
      match items.findIdx? (state.same first) with
      | some position => return .int position
      | none => raise "ValueError" "tuple.index(x): x not in tuple"
    | _ => noMethod object name
  | .ref index =>
    match ← cell index with
    | .list values => listMethod call index values name arguments named
    | .dict entries => dictMethod index entries name arguments named
    | .set members => setMethod index members name arguments
    | .file handle => fileMethod index handle name arguments
    | _ => noMethod object name
  | .known "str" =>
    match arguments with
    | .text content :: rest => textMethod false content name rest named
    | _ => noMethod object name
  | .int number =>
    if name == "bit_length" then return .int (Nat.toDigits 2 number.natAbs).length
    else noMethod object name
  | _ => noMethod object name

end Act

end DialectLoader.Script
