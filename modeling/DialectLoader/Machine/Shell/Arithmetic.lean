import DialectLoader.Json.Value
import DialectLoader.Text.Digit

/-!
# Expressions of shell scripts

An expression is made of whole numbers, names of variables, parentheses and operators. Operators of
higher rank bind more tightly, and operators of one rank are applied from left to right. A
comparison gives one or zero. An assignment gives the value that it assigns. Numbers are decimal,
octal with a zero in front, or hexadecimal with `0x`, and are kept in signed long words.

Messages about mistakes are worded as one shell words them; other shells differ.
-/

namespace DialectLoader.Shell.Arithmetic

/-- An expression. The values of variables are looked up when it is evaluated, not when it is
read. -/
inductive Expression where
  | number (value : Int)
  | name (name : String)
  | sign (operator : Char) (operand : Expression)
  | binary (operator : String) (left right : Expression)
  | conditional (condition first second : Expression)
  | assign (name operator : String) (value : Expression)
deriving DecidableEq

def ranks : List (List String) :=
  [["||"], ["&&"], ["|"], ["^"], ["&"], ["==", "!="], ["<=", ">=", "<", ">"], ["<<", ">>"],
    ["+", "-"],
   ["*", "/", "%"]]

def operators : List String :=
  ["<<=", ">>=", "||", "&&", "==", "!=", "<=", ">=", "<<", ">>", "+=", "-=", "*=", "/=", "%=", "&=",
    "|=", "^=",
   "|", "^", "&", "<", ">", "+", "-", "*", "/", "%", "=", "?", ":", "(", ")", "!", "~"]

def truth (value : Bool) : Int :=
  if value then 1 else 0

def wrap (value : Int) : Int :=
  let bound : Int := Text.longWordBound
  let rest := value.emod bound
  if bound ≤ 2 * rest then rest - bound else rest

def onBits (operation : Nat → Nat → Nat) (left right : Int) : Int :=
  let bits (value : Int) : Nat := (value.emod Text.longWordBound).toNat
  wrap (operation (bits left) (bits right))

def combine? (operator : String) (left right : Int) : Option Int :=
  match operator with
  | "==" => some (truth (left == right))
  | "!=" => some (truth (left != right))
  | "<=" => some (truth (left ≤ right))
  | ">=" => some (truth (left ≥ right))
  | "<" => some (truth (left < right))
  | ">" => some (truth (left > right))
  | "|" => some (onBits Nat.lor left right)
  | "^" => some (onBits Nat.xor left right)
  | "&" => some (onBits Nat.land left right)
  | "<<" => some (wrap (left.shiftLeft (right.emod 64).toNat))
  | ">>" => some (left.shiftRight (right.emod 64).toNat)
  | "+" => some (wrap (left + right))
  | "-" => some (wrap (left - right))
  | "*" => some (wrap (left * right))
  | "/" => if right = 0 then none else some (wrap (left.tdiv right))
  | "%" => if right = 0 then none else some (left.tmod right)
  | _ => none

def skipBlanks (text : List Char) : List Char :=
  text.dropWhile fun c => c == ' ' || c == '\t' || c == '\n'

def digitsValue? (base : Nat) (digits : List Char) : Option Nat :=
  digits.foldlM (fun value c => ((Json.hexValue? c).filter (· < base)).map (base * value + ·)) 0

def number? (written : List Char) : Option Int :=
  let value := match written with
    | '0' :: 'x' :: digits | '0' :: 'X' :: digits =>
      if digits.isEmpty then none else digitsValue? 16 digits
    | '0' :: digits => digitsValue? 8 digits
    | _ => if written.isEmpty then none else digitsValue? 10 written
  value.map Int.ofNat

def signed? (written : List Char) : Option Int :=
  let isBlank (c : Char) : Bool := c == ' ' || c == '\t' || c == '\n'
  match ((written.dropWhile isBlank).reverse.dropWhile isBlank).reverse with
  | [] => some 0
  | '-' :: digits => (number? digits).map (- ·)
  | '+' :: digits => number? digits
  | digits => number? digits

def operator? (text : List Char) : Option (String × List Char) :=
  let spaced := skipBlanks text
  (operators.find? fun operator => operator.toList.isPrefixOf spaced).map fun operator =>
    (operator, spaced.drop operator.length)

def ranked? (rank : List String) (text : List Char) : Option (String × List Char) :=
  (operator? text).filter fun (operator, _) => rank.contains operator

def assigning? (operator : String) : Option String :=
  match operator with
  | "=" => some ""
  | "+=" => some "+"
  | "-=" => some "-"
  | "*=" => some "*"
  | "/=" => some "/"
  | "%=" => some "%"
  | "&=" => some "&"
  | "|=" => some "|"
  | "^=" => some "^"
  | "<<=" => some "<<"
  | ">>=" => some ">>"
  | _ => none

mutual

def readWhole : Nat → List Char → Except String (Expression × List Char)
  | 0, _ => .error "expecting primary"
  | fuel + 1, text => do
    let (first, rest) ← readRanked fuel ranks text
    match first, operator? rest with
    | .name name, some (operator, after) =>
      match assigning? operator with
      | some combined =>
        let (value, rest) ← readWhole fuel after
        return (.assign name combined value, rest)
      | none => readResults fuel first rest
    | _, _ => readResults fuel first rest

def readResults : Nat → Expression → List Char → Except String (Expression × List Char)
  | 0, _, _ => .error "expecting primary"
  | fuel + 1, condition, text =>
    match operator? text with
    | some ("?", rest) => do
      let (first, rest) ← readWhole fuel rest
      match operator? rest with
      | some (":", rest) =>
        let (second, rest) ← readWhole fuel rest
        return (.conditional condition first second, rest)
      | _ => .error "expecting ':'"
    | _ => .ok (condition, text)

def readRanked : Nat → List (List String) → List Char → Except String (Expression × List Char)
  | 0, _, _ => .error "expecting primary"
  | fuel + 1, [], text => readOperand fuel (skipBlanks text)
  | fuel + 1, rank :: tighter, text => do
    let (left, rest) ← readRanked fuel tighter text
    readFurther fuel rank tighter left rest

def readFurther : Nat → List String → List (List String) → Expression → List Char →
    Except String (Expression × List Char)
  | 0, _, _, _, _ => .error "expecting primary"
  | fuel + 1, rank, tighter, left, text =>
    match ranked? rank text with
    | none => .ok (left, text)
    | some (operator, rest) => do
      let (right, rest) ← readRanked fuel tighter rest
      readFurther fuel rank tighter (.binary operator left right) rest

def readOperand : Nat → List Char → Except String (Expression × List Char)
  | 0, _ => .error "expecting primary"
  | fuel + 1, text =>
    match text with
    | '(' :: rest => do
      let (inner, rest) ← readWhole fuel rest
      match skipBlanks rest with
      | ')' :: after => return (inner, after)
      | _ => .error "expecting ')'"
    | c :: rest =>
      if "-+!~".toList.contains c then do
        let (operand, rest) ← readOperand fuel (skipBlanks rest)
        return (.sign c operand, rest)
      else
        let run := text.takeWhile fun c => c.isAlphanum || c == '_'
        let behind := text.drop run.length
        if Json.isDigit c then
          match number? run with
          | some value => .ok (.number (wrap value), behind)
          | none => .error "expecting EOF"
        else if run.isEmpty then .error "expecting primary"
        else .ok (.name (String.ofList run), behind)
    | [] => .error "expecting primary"

end

abbrev Changes := List (String × Int)

def valueOf (look : String → List Char) (name : String) (changes : Changes) : Except String Int :=
  match changes.lookup name with
  | some value => .ok value
  | none =>
    match signed? (look name) with
    | some value => .ok value
    | none => .error ("Illegal number: " ++ String.ofList (look name))

def evaluate (look : String → List Char) : Expression → Changes → Except String (Int × Changes)
  | .number value, changes => .ok (value, changes)
  | .name name, changes => (valueOf look name changes).map (·, changes)
  | .sign operator operand, changes => do
    let (value, changes) ← evaluate look operand changes
    let signed := match operator with
      | '-' => wrap (-value)
      | '!' => truth (value == 0)
      | '~' => -value - 1
      | _ => value
    return (signed, changes)
  | .binary operator left right, changes => do
    let (first, changes) ← evaluate look left changes
    if operator == "&&" && first == 0 then return (0, changes)
    else if operator == "||" && first != 0 then return (1, changes)
    else
      let (second, changes) ← evaluate look right changes
      if operator == "&&" || operator == "||" then return (truth (second != 0), changes)
      else
        match combine? operator first second with
        | some value => return (value, changes)
        | none => .error "division by zero"
  | .conditional condition first second, changes => do
    let (value, changes) ← evaluate look condition changes
    if value != 0 then evaluate look first changes else evaluate look second changes
  | .assign name operator value, changes => do
    let (value, changes) ← evaluate look value changes
    if operator.isEmpty then return (value, (name, value) :: changes)
    else
      let before ← valueOf look name changes
      match combine? operator before value with
      | some value => return (value, (name, value) :: changes)
      | none => .error "division by zero"

def compute (look : String → List Char) (text : List Char) : Except String (Int × Changes) :=
  let named (problem : String) : String :=
    if "Illegal".toList.isPrefixOf problem.toList then problem
    else "arithmetic expression: " ++ problem ++ ": \"" ++ String.ofList text ++ "\""
  let value := do
    let (expression, rest) ← readWhole (15 * text.length + 15) text
    if (skipBlanks rest).isEmpty then evaluate look expression [] else .error "expecting EOF"
  value.mapError named

end DialectLoader.Shell.Arithmetic
