import DialectLoader.Machine.Script.Value

/-!
# Formatted values

A format says how a value is written: its width, on which side it is filled up and with what, its
sign, the base or the number of places of a number. Formats stand in braces in a string, or they are
directives behind a percent sign.

Formats that depend on a locale are written as those that do not, and a value cannot bring a way of
its own to be formatted.
-/

namespace DialectLoader.Script

/-- How a value is written. Formats in braces and directives behind a percent sign are both read
into one. -/
structure Layout where
  fill : Char := ' '
  align : Option Char := none
  sign : List Char := []
  isMarked : Bool := false
  width : Nat := 0
  group : Option Char := none
  precision : Option Nat := none
  kind : Option Char := none

namespace Layout

def isSide (c : Char) : Bool :=
  c == '<' || c == '>' || c == '^' || c == '='

def read? (spec : List Char) : Option Layout := do
  let (fill, align, rest) := match spec with
    | fill :: side :: rest =>
      if isSide side then (some fill, some side, rest)
      else if isSide fill then (none, some fill, side :: rest)
      else (none, none, spec)
    | [side] => if isSide side then (none, some side, []) else (none, none, spec)
    | [] => (none, none, [])
  let (sign, rest) := match rest with
    | '+' :: rest => (['+'], rest)
    | ' ' :: rest => ([' '], rest)
    | '-' :: rest => ([], rest)
    | _ => ([], rest)
  let (isMarked, rest) := match rest with
    | '#' :: rest => (true, rest)
    | _ => (false, rest)
  let (isZero, rest) := match rest with
    | '0' :: rest => (true, rest)
    | _ => (false, rest)
  let digits := rest.takeWhile Char.isDigit
  let rest := rest.drop digits.length
  let (group, rest) := match rest with
    | ',' :: rest => (some ',', rest)
    | '_' :: rest => (some '_', rest)
    | _ => (none, rest)
  let (precision, rest) := match rest with
    | '.' :: rest =>
      let digits := rest.takeWhile Char.isDigit
      (some (valueOf 10 digits), rest.drop digits.length)
    | _ => (none, rest)
  let kind ← match rest with
    | [] => some none
    | [c] => some (some c)
    | _ => none
  return {
    fill := fill.getD (if isZero then '0' else ' ')
    align := align.orElse fun _ => if isZero then some '=' else none
    sign, isMarked, width := valueOf 10 digits, group, precision, kind }

def place (layout : Layout) (usual : Char) (front body : List Char) : List Char :=
  let space := layout.width - front.length - body.length
  let filling (count : Nat) : List Char := List.replicate count layout.fill
  match layout.align.getD usual with
  | '<' => front ++ body ++ filling space
  | '^' => filling (space / 2) ++ front ++ body ++ filling (space - space / 2)
  | '=' => front ++ filling space ++ body
  | _ => filling space ++ front ++ body

def grouped (layout : Layout) (digits : List Char) : List Char :=
  match layout.group with
  | none => digits
  | some separator =>
    let rec groups : Nat → List Char → List (List Char)
      | 0, _ => []
      | fuel + 1, reversed =>
        if reversed.length ≤ 3 then [reversed] else reversed.take 3 :: groups fuel (reversed.drop 3)
    ([separator].intercalate (groups digits.length digits.reverse)).reverse

def integer (layout : Layout) (base : Nat) (mark : String) (value : Int) : List Char :=
  let digits := Nat.toDigits base value.natAbs
  let front :=
    (if value < 0 then ['-'] else layout.sign) ++ (if layout.isMarked then mark.toList else [])
  layout.place '>' front (layout.grouped digits)

def real (layout : Layout) (value : Text.Ratio) : List Char :=
  let front := if value.numerator < 0 then ['-'] else layout.sign
  let precision := layout.precision.getD 6
  let body := match layout.kind with
    | some 'e' => value.exponential precision
    | some 'E' => (value.exponential precision).map Char.toUpper
    | some 'g' | some 'G' => value.general precision
    | some '%' => (value.multiply (.ofInt 100)).fixed precision ++ ['%']
    | some _ => value.fixed precision
    | none =>
      match layout.precision with
      | some precision => value.general precision
      | none => (realText value).filter (· != '-')
  let whole := body.takeWhile Char.isDigit
  layout.place '>' front (layout.grouped whole ++ body.drop whole.length)

end Layout

def Act.laidOut (layout : Layout) (value : Value) : Act (List Char) := do
  let unknown : Act (List Char) := do
    Act.raise "ValueError"
      ("Unknown format code '" ++ String.ofList layout.kind.toList ++ "' for object of type '" ++
      (← get).typeName value ++ "'")
  match value with
  | .int number =>
    match layout.kind with
    | none | some 'd' | some 'n' => return layout.integer 10 "" number
    | some 'x' => return layout.integer 16 "0x" number
    | some 'X' => return (layout.integer 16 "0X" number).map Char.toUpper
    | some 'o' => return layout.integer 8 "0o" number
    | some 'b' => return layout.integer 2 "0b" number
    | some 'c' => return layout.place '<' [] [Char.ofNat number.toNat]
    | some kind =>
      if "eEfFgG%".toList.contains kind then return layout.real (.ofInt number) else unknown
  | .real number =>
    if layout.kind.all fun kind => "eEfFgG%n".toList.contains kind then return layout.real number
    else unknown
  | .bool flag =>
    if layout.kind == some 'd' then return layout.integer 10 "" (if flag then 1 else 0)
    else return layout.place '<' [] (if flag then "True" else "False").toList
  | _ =>
    if layout.kind.all (· == 's') then
      let content := (← get).textOf value
      return layout.place '<' []
        (layout.precision.elim content fun precision => content.take precision)
    else unknown

def Act.format (spec : List Char) (value : Value) : Act (List Char) := do
  if spec.isEmpty then return (← get).textOf value
  match Layout.read? spec with
  | some layout => laidOut layout value
  | none => Act.raise "ValueError" "Invalid format specifier"

def Act.converted (conversion : Option Char) (value : Value) : Act Value := do
  match conversion with
  | some 'r' | some 'a' => return .text ((← get).repr value)
  | some 's' => return .text ((← get).textOf value)
  | _ => return value

def Act.fillBraces (positional : List Value) (named : List (String × Value)) :
    Nat → Nat → List Char → Act (List Char)
  | 0, _, cs => return cs
  | fuel + 1, used, cs => do
    match cs with
    | [] => return []
    | '\x7b' :: '\x7b' :: rest => return '\x7b' :: (← fillBraces positional named fuel used rest)
    | '\x7d' :: '\x7d' :: rest => return '\x7d' :: (← fillBraces positional named fuel used rest)
    | '\x7b' :: rest =>
      let (inner, after) := Parsing.splitField 0 none rest
      let (conversion, after) := match after with
        | '!' :: c :: rest => (some c, rest)
        | _ => (none, after)
      let (spec, after) := match after with
        | ':' :: rest =>
          let (spec, after) := Parsing.splitField 0 none
            (rest.map fun c => if c == ':' || c == '!' then '\x00' else c)
          (spec.map (fun c => if c == '\x00' then ':' else c),
            rest.drop (rest.length - after.length))
        | _ => ([], after)
      let spec ← fillBraces positional named fuel (used + if inner.isEmpty then 1 else 0) spec
      let value ← match inner with
        | [] => positionalAt used
        | c :: _ =>
          if c.isDigit then positionalAt (valueOf 10 inner)
          else
            match named.lookup (String.ofList inner) with
            | some value => pure value
            | none => Act.raiseValue (.exception "KeyError" [.text inner])
      let written ← Act.format spec (← Act.converted conversion value)
      return written ++
        (← fillBraces positional named fuel (used + if inner.isEmpty then 1 else 0) (after.drop 1))
    | c :: rest => return c :: (← fillBraces positional named fuel used rest)
where
  positionalAt (index : Nat) : Act Value :=
    match positional[index]? with
    | some value => return value
    | none => Act.raise "IndexError"
      ("Replacement index " ++ toString index ++ " out of range for positional args tuple")

def Act.directive (layout : Layout) (kind : Char) (value : Value) : Act (List Char) := do
  let whole (base : Nat) (mark : String) : Act (List Char) :=
    match value with
    | .real number => return layout.integer base mark number.whole
    | _ =>
      match value.int? with
      | some number => return layout.integer base mark number
      | none => do
        Act.raise "TypeError" ("%" ++ String.ofList [kind] ++ " format: " ++
          (if kind == 'd' || kind == 'i' then "a real number" else "an integer") ++
          " is required, not " ++ (← get).typeName value)
  let clipped (content : List Char) : List Char :=
    { layout with align := layout.align.filter (· == '<'), fill := ' ' }.place '>' []
      (layout.precision.elim content fun precision => content.take precision)
  match kind with
  | 'd' | 'i' | 'u' => whole 10 ""
  | 'x' => whole 16 "0x"
  | 'X' => return (← whole 16 "0X").map Char.toUpper
  | 'o' => whole 8 "0o"
  | 's' => return clipped ((← get).textOf value)
  | 'r' | 'a' => return clipped ((← get).repr value)
  | 'c' =>
    match value with
    | .int code => return clipped [Char.ofNat code.toNat]
    | _ => return clipped ((← get).textOf value)
  | _ =>
    if "eEfFgG".toList.contains kind then
      match value.number? with
      | some number => return { layout with kind := some kind }.real number
      | none => Act.raise "TypeError" ("must be real number, not " ++ (← get).typeName value)
    else
      Act.raise "ValueError" ("unsupported format character '" ++ String.ofList [kind] ++ "'")

def Act.fillPercents (entries : Option (List (Value × Value))) :
    Nat → List Value → List Char → Act (List Char)
  | 0, _, cs => return cs
  | _ + 1, remaining, [] =>
    if remaining.isEmpty || entries.isSome then return []
    else Act.raise "TypeError" "not all arguments converted during string formatting"
  | fuel + 1, remaining, '%' :: '%' :: rest =>
    return '%' :: (← fillPercents entries fuel remaining rest)
  | fuel + 1, remaining, '%' :: rest => do
    let (name, rest) := match rest with
      | '(' :: more =>
        let name := more.takeWhile (· != ')')
        (some name, more.drop (name.length + 1))
      | _ => (none, rest)
    let flags := rest.takeWhile fun c => "-+ #0".toList.contains c
    let rest := rest.drop flags.length
    let next (remaining : List Value) : Act (Value × List Value) :=
      match remaining with
      | value :: remaining => return (value, remaining)
      | [] => Act.raise "TypeError" "not enough arguments for format string"
    let (width, remaining, rest) ← match rest with
      | '*' :: rest => do
        let (value, remaining) ← next remaining
        pure ((value.int?.getD 0).toNat, remaining, rest)
      | _ =>
        let digits := rest.takeWhile Char.isDigit
        pure (valueOf 10 digits, remaining, rest.drop digits.length)
    let (precision, rest) := match rest with
      | '.' :: rest =>
        let digits := rest.takeWhile Char.isDigit
        (some (valueOf 10 digits), rest.drop digits.length)
      | _ => (none, rest)
    let layout : Layout := {
      fill := if flags.contains '0' && !flags.contains '-' then '0' else ' '
      align := if flags.contains '-' then some '<' else if flags.contains '0' then some '='
      else none
      sign := if flags.contains '+' then ['+'] else if flags.contains ' ' then [' '] else []
      isMarked := flags.contains '#'
      width, precision }
    match rest with
    | [] => Act.raise "ValueError" "incomplete format"
    | kind :: rest =>
      let (value, remaining) ← match name with
        | some name =>
          match (← get).lookup? (entries.getD []) (.text name) with
          | some value => pure (value, remaining)
          | none => Act.raiseValue (.exception "KeyError" [.text name])
        | none => next remaining
      let written ← Act.directive layout kind value
      return written ++ (← fillPercents entries fuel remaining rest)
  | fuel + 1, remaining, c :: rest => return c :: (← fillPercents entries fuel remaining rest)

def Act.percent (content : List Char) (value : Value) : Act (List Char) := do
  match value, (← get).target? value with
  | .tuple items, _ => fillPercents none (content.length + 1) items content
  | _, some (.dict entries) =>
    if content.contains '(' then fillPercents (some entries) (content.length + 1) [] content
    else fillPercents (some entries) (content.length + 1) [value] content
  | _, _ => fillPercents none (content.length + 1) [value] content

end DialectLoader.Script
