import DialectLoader.Machine.Tools.Lines
import DialectLoader.Machine.Tools.Regex

/-!
# Expressions as arguments

The tool that computes an expression whose operands and operators are its arguments. Values are
texts; they count as numbers where they are spelled as such. An empty text and zero are failure. A
result may exceed a word here, where a machine would give up.
-/

namespace DialectLoader.Tools.Expression

def integer? (text : List Char) : Option Int :=
  match text with
  | '-' :: digits => (Text.readDecimal? Text.longWordBound digits).map fun value => -(value : Int)
  | _ => (Text.readDecimal? Text.longWordBound text).map Int.ofNat

def isNull (text : List Char) : Bool :=
  text.isEmpty || integer? text == some 0

def ranks : List (List String) :=
  [["|"], ["&"], ["<", "<=", "=", "==", "!=", ">=", ">"], ["+", "-"], ["*", "/", "%"], [":"]]

def matched (text pattern : List Char) : Except String (List Char) := do
  let regex ← Regex.parse { extended := false } pattern
  let hasGroup := 0 < regex.groupCount
  match Regex.search? (.sequence .lineStart regex) false text with
  | some found => return if hasGroup then found.group 1 else Text.decimal found.text.length
  | none => return if hasGroup then [] else ['0']

def combine (operator : String) (left right : List Char) : Except String (List Char) := do
  let truth (value : Bool) : List Char := if value then ['1'] else ['0']
  let compare (numbers : Int → Int → Bool) (texts : List Char → List Char → Bool) : List Char :=
    match integer? left, integer? right with
    | some first, some second => truth (numbers first second)
    | _, _ => truth (texts left right)
  let numeric (operation : Int → Int → Int) : Except String (List Char) :=
    match integer? left, integer? right with
    | some first, some second => .ok (integerText (operation first second))
    | _, _ => .error "non-integer argument"
  match operator with
  | "|" => return if isNull left then (if isNull right then ['0'] else right) else left
  | "&" => return if isNull left || isNull right then ['0'] else left
  | "<" => return compare (decide <| · < ·) (decide <| · < ·)
  | "<=" => return compare (decide <| · ≤ ·) (fun first second => !(second < first))
  | "=" | "==" => return compare (· == ·) (· == ·)
  | "!=" => return compare (· != ·) (· != ·)
  | ">=" => return compare (decide <| · ≥ ·) (fun first second => !(first < second))
  | ">" => return compare (decide <| · > ·) (fun first second => decide (second < first))
  | "+" => numeric (· + ·)
  | "-" => numeric (· - ·)
  | "*" => numeric (· * ·)
  | ":" => matched left right
  | _ =>
    if integer? right == some 0 && (integer? left).isSome then .error "division by zero"
    else numeric (if operator == "/" then Int.tdiv else Int.tmod)

mutual

def readRanked :
    Nat → List (List String) → List (List Char) → Except String (List Char × List (List Char))
  | 0, _, _ => .error "syntax error"
  | fuel + 1, [], words => readOperand fuel words
  | fuel + 1, rank :: tighter, words => do
    let (left, rest) ← readRanked fuel tighter words
    readFurther fuel rank tighter left rest

def readFurther : Nat → List String → List (List String) → List Char → List (List Char) →
    Except String (List Char × List (List Char))
  | 0, _, _, _, _ => .error "syntax error"
  | fuel + 1, rank, tighter, left, words =>
    match words with
    | word :: rest =>
      let operator := String.ofList word
      if !rank.contains operator then .ok (left, words)
      else if rest.isEmpty then .error ("syntax error: missing argument after '" ++ operator ++ "'")
      else do
        let (right, rest) ← readRanked fuel tighter rest
        readFurther fuel rank tighter (← combine operator left right) rest
    | [] => .ok (left, [])

def readOperand : Nat → List (List Char) → Except String (List Char × List (List Char))
  | 0, _ => .error "syntax error"
  | fuel + 1, words =>
    match words with
    | ['('] :: rest => do
      let (value, rest) ← readRanked fuel ranks rest
      match rest with
      | [')'] :: after => return (value, after)
      | _ => .error "syntax error: expecting ')'"
    | word :: rest =>
      match String.ofList word, rest with
      | "length", text :: rest => .ok (Text.decimal text.length, rest)
      | "match", text :: pattern :: rest => do return (← matched text pattern, rest)
      | "index", text :: characters :: rest =>
        let before := (text.takeWhile (!characters.contains ·)).length
        .ok (Text.decimal (if before = text.length then 0 else before + 1), rest)
      | "substr", text :: start :: count :: rest =>
        let cut := match integer? start, integer? count with
          | some first, some length =>
            if first < 1 || length < 1 then [] else (text.drop (first.toNat - 1)).take length.toNat
          | _, _ => []
        .ok (cut, rest)
      | "+", text :: rest => .ok (text, rest)
      | _, _ => .ok (word, rest)
    | [] => .error "syntax error: missing argument"

end

end DialectLoader.Tools.Expression

namespace DialectLoader.Tools

def expr (task : Task) : Done :=
  if task.arguments.isEmpty then (task.fail 2 "missing operand").complain 2 task.hint
  else
    match Expression.readRanked (10 * task.arguments.length + 10) Expression.ranks
      task.arguments with
    | .error text => task.fail 2 text
    | .ok (_, extra :: _) => task.fail 2 ("syntax error: unexpected argument " ++ quotedName extra)
    | .ok (value, []) =>
      { task.idle.say (value ++ ['\n']) with status := if Expression.isNull value then 1 else 0 }

end DialectLoader.Tools
