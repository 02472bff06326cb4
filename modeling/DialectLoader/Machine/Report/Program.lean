import DialectLoader.Machine.Report.Token

/-!
# Report programs

A report program is a list of rules. Each has a pattern, which tells the records that it is for, and
an action. Actions are made of statements, and these of expressions over numbers and texts,
variables, fields of the record, and tables.

The language is that of `awk`. What a mistake is called, and on which line it is, follows one of its
implementations.
-/

namespace DialectLoader.Report

/-- An expression. Evaluating one may have effects, since assignments and the reading of records are
expressions too. -/
inductive Expression where
  | number (value : Text.Ratio)
  | string (text : List Char)
  | regex (regex : Regex)
  | name (name : String)
  | element (table : String) (keys : List Expression)
  | field (number : Expression)
  | assign (target : Expression) (operator : String) (value : Expression)
  | conditional (condition first second : Expression)
  | both (left right : Expression)
  | either (left right : Expression)
  | contained (keys : List Expression) (table : String)
  | matching (text pattern : Expression) (holds : Bool)
  | binary (operator : String) (left right : Expression)
  | concat (left right : Expression)
  | sign (operator : Char) (operand : Expression)
  | step (target : Expression) (amount : Int) (first : Bool)
  | call (name : String) (arguments : List Expression)
  | builtin (name : String) (arguments : List Expression)
  | getline (target : Option Expression) (source : Option Expression)
  | grouped (inner : Expression)

/-- Where output goes. A file stays open, so later output to it follows earlier output. -/
inductive Destination where
  | output
  | file (path : Expression) (append : Bool)
  | command (command : Expression)

/-- A statement. Loops keep their conditions as expressions, since these are evaluated anew in every
round. -/
inductive Statement where
  | expression (expression : Expression)
  | print (arguments : List Expression) (destination : Destination)
  | printf (arguments : List Expression) (destination : Destination)
  | branch (condition : Expression) (success failure : List Statement)
  | while (condition : Expression) (body : List Statement)
  | doWhile (body : List Statement) (condition : Expression)
  | for (start : List Statement) (condition : Option Expression) (step : List Statement)
    (body : List Statement)
  | each (name : String) (table : String) (body : List Statement)
  | block (statements : List Statement)
  | next
  | exit (status : Option Expression)
  | return (value : Option Expression)
  | break
  | continue
  | delete (table : String) (keys : Option (List Expression))

/-- What a rule is for: the start, the end, every record, some records, or ranges of them. -/
inductive Pattern where
  | start
  | finish
  | always
  | when (condition : Expression)
  | between (first last : Expression)

/-- A rule. Its pattern and its action may both be left out in the text, and have meanings then. -/
structure Rule where
  pattern : Pattern
  action : List Statement

structure Function where
  parameters : List String
  body : List Statement

/-- A program. The order of its rules is that in which they apply to a record. -/
structure Program where
  rules : List Rule := []
  functions : List (String × Function) := []

namespace Parsing

/-- A problem with the text of a program: a message, and how many tokens were left. The number of
the line follows from that. -/
structure Problem where
  text : String
  left : Nat

def unexpected {α : Type} (tokens : List Token) : Except Problem α :=
  let text := match tokens.head? with
    | some .ended | none => "missing \x7d near end of file"
    | some .newline => "syntax error at or near end of line"
    | some (.sign sign) => "syntax error at or near " ++ sign
    | some (.keyword word) | some (.name word) | some (.builtin word) | some (.call word) =>
      "syntax error at or near " ++ word
    | some (.string text) => "syntax error at or near \"" ++ String.ofList text ++ "\""
    | some _ => "syntax error"
  .error ⟨text, tokens.length⟩

def expect (sign : String) (tokens : List Token) : Except Problem (List Token) :=
  if tokens.head? == some (.sign sign) then .ok (tokens.drop 1) else unexpected tokens

def skipNewlines (tokens : List Token) : List Token :=
  tokens.dropWhile (· == .newline)

def skipTerminators (tokens : List Token) : List Token :=
  tokens.dropWhile fun token => token == .newline || token == .sign ";"

def regexOf (spelled : List Char) : Except Problem Regex :=
  (Regex.parse { extended := true, escapesInSets := true } spelled).mapError
    fun problem => ⟨"regular expression compile failed (" ++ problem ++ ")", 0⟩

def isTarget : Expression → Bool
  | .name _ | .element .. | .field _ => true
  | _ => false

def startsOperand (token : Token) : Bool :=
  match token with
  | .number _ | .string _ | .regex _ | .name _ | .call _ | .builtin _ => true
  | .sign "$" | .sign "!" | .sign "(" | .sign "-" | .sign "+" | .sign "++" | .sign "--" => true
  | _ => false

def comparisons : List String := ["<", "<=", "==", "!=", ">", ">="]

def assignments : List (String × String) :=
  [("=", ""), ("+=", "+"), ("-=", "-"), ("*=", "*"), ("/=", "/"), ("%=", "%"), ("^=", "^")]

mutual

def readExpression : Nat → Bool → List Token → Except Problem (Expression × List Token)
  | 0, _, tokens => unexpected tokens
  | fuel + 1, plain, tokens => do
    let (first, rest) ← readEither fuel plain tokens
    match rest with
    | .sign "?" :: rest =>
      let (second, rest) ← readExpression fuel plain (skipNewlines rest)
      let rest ← expect ":" (skipNewlines rest)
      let (third, rest) ← readExpression fuel plain (skipNewlines rest)
      return (.conditional first second third, rest)
    | .sign sign :: more =>
      match assignments.lookup sign with
      | some operator =>
        if isTarget first then
          let (value, rest) ← readExpression fuel plain (skipNewlines more)
          return (.assign first operator value, rest)
        else unexpected rest
      | none => return (first, rest)
    | _ => return (first, rest)

def readEither : Nat → Bool → List Token → Except Problem (Expression × List Token)
  | 0, _, tokens => unexpected tokens
  | fuel + 1, plain, tokens => do
    let (first, rest) ← readBoth fuel plain tokens
    match rest with
    | .sign "||" :: rest =>
      let (second, rest) ← readEither fuel plain (skipNewlines rest)
      return (.either first second, rest)
    | _ => return (first, rest)

def readBoth : Nat → Bool → List Token → Except Problem (Expression × List Token)
  | 0, _, tokens => unexpected tokens
  | fuel + 1, plain, tokens => do
    let (first, rest) ← readContained fuel plain tokens
    match rest with
    | .sign "&&" :: rest =>
      let (second, rest) ← readBoth fuel plain (skipNewlines rest)
      return (.both first second, rest)
    | _ => return (first, rest)

def readContained : Nat → Bool → List Token → Except Problem (Expression × List Token)
  | 0, _, tokens => unexpected tokens
  | fuel + 1, plain, tokens => do
    let (first, rest) ← readMatching fuel plain tokens
    readTables fuel first rest

def readTables : Nat → Expression → List Token → Except Problem (Expression × List Token)
  | 0, _, tokens => unexpected tokens
  | fuel + 1, key, tokens =>
    match tokens with
    | .keyword "in" :: .name table :: rest => readTables fuel (.contained [key] table) rest
    | _ => .ok (key, tokens)

def readMatching : Nat → Bool → List Token → Except Problem (Expression × List Token)
  | 0, _, tokens => unexpected tokens
  | fuel + 1, plain, tokens => do
    let (first, rest) ← readComparison fuel plain tokens
    readMatches fuel plain first rest

def readMatches : Nat → Bool → Expression → List Token → Except Problem (Expression × List Token)
  | 0, _, _, tokens => unexpected tokens
  | fuel + 1, plain, text, tokens =>
    match tokens with
    | .sign "~" :: rest => do
      let (pattern, rest) ← readComparison fuel plain rest
      readMatches fuel plain (.matching text pattern true) rest
    | .sign "!~" :: rest => do
      let (pattern, rest) ← readComparison fuel plain rest
      readMatches fuel plain (.matching text pattern false) rest
    | _ => .ok (text, tokens)

def readComparison : Nat → Bool → List Token → Except Problem (Expression × List Token)
  | 0, _, tokens => unexpected tokens
  | fuel + 1, plain, tokens => do
    let (first, rest) ← readConcat fuel plain tokens
    match rest with
    | .sign sign :: more =>
      if comparisons.contains sign && !(plain && sign == ">") then
        let (second, rest) ← readConcat fuel plain more
        return (.binary sign first second, rest)
      else return (first, rest)
    | _ => return (first, rest)

def readConcat : Nat → Bool → List Token → Except Problem (Expression × List Token)
  | 0, _, tokens => unexpected tokens
  | fuel + 1, plain, tokens => do
    let (first, rest) ← readSum fuel tokens
    readFurtherTexts fuel plain first rest

def readFurtherTexts :
    Nat → Bool → Expression → List Token → Except Problem (Expression × List Token)
  | 0, _, _, tokens => unexpected tokens
  | fuel + 1, plain, first, tokens =>
    match tokens with
    | token :: _ =>
      if startsOperand token && token != .sign "+" && token != .sign "-" then do
        let (second, rest) ← readSum fuel tokens
        readFurtherTexts fuel plain (.concat first second) rest
      else .ok (first, tokens)
    | [] => .ok (first, [])

def readSum : Nat → List Token → Except Problem (Expression × List Token)
  | 0, tokens => unexpected tokens
  | fuel + 1, tokens => do
    let (first, rest) ← readProduct fuel tokens
    readFurtherTerms fuel first rest

def readFurtherTerms : Nat → Expression → List Token → Except Problem (Expression × List Token)
  | 0, _, tokens => unexpected tokens
  | fuel + 1, first, tokens =>
    match tokens with
    | .sign "+" :: rest => do
      let (second, rest) ← readProduct fuel rest
      readFurtherTerms fuel (.binary "+" first second) rest
    | .sign "-" :: rest => do
      let (second, rest) ← readProduct fuel rest
      readFurtherTerms fuel (.binary "-" first second) rest
    | _ => .ok (first, tokens)

def readProduct : Nat → List Token → Except Problem (Expression × List Token)
  | 0, tokens => unexpected tokens
  | fuel + 1, tokens => do
    let (first, rest) ← readSigned fuel tokens
    readFurtherFactors fuel first rest

def readFurtherFactors : Nat → Expression → List Token → Except Problem (Expression × List Token)
  | 0, _, tokens => unexpected tokens
  | fuel + 1, first, tokens =>
    match tokens with
    | .sign sign :: rest =>
      if sign == "*" || sign == "/" || sign == "%" then do
        let (second, rest) ← readSigned fuel rest
        readFurtherFactors fuel (.binary sign first second) rest
      else .ok (first, tokens)
    | _ => .ok (first, tokens)

def readSigned : Nat → List Token → Except Problem (Expression × List Token)
  | 0, tokens => unexpected tokens
  | fuel + 1, tokens =>
    match tokens with
    | .sign "!" :: rest => do
      let (operand, rest) ← readSigned fuel rest
      return (.sign '!' operand, rest)
    | .sign "-" :: rest => do
      let (operand, rest) ← readSigned fuel rest
      return (.sign '-' operand, rest)
    | .sign "+" :: rest => do
      let (operand, rest) ← readSigned fuel rest
      return (.sign '+' operand, rest)
    | _ => readPower fuel tokens

def readPower : Nat → List Token → Except Problem (Expression × List Token)
  | 0, tokens => unexpected tokens
  | fuel + 1, tokens => do
    let (base, rest) ← readStepped fuel tokens
    match rest with
    | .sign "^" :: rest =>
      let (exponent, rest) ← readSigned fuel rest
      return (.binary "^" base exponent, rest)
    | _ => return (base, rest)

def readStepped : Nat → List Token → Except Problem (Expression × List Token)
  | 0, tokens => unexpected tokens
  | fuel + 1, tokens =>
    match tokens with
    | .sign "++" :: rest => do
      let (target, rest) ← readPrimary fuel rest
      if isTarget target then return (.step target 1 true, rest) else unexpected tokens
    | .sign "--" :: rest => do
      let (target, rest) ← readPrimary fuel rest
      if isTarget target then return (.step target (-1) true, rest) else unexpected tokens
    | _ => do
      let (target, rest) ← readPrimary fuel tokens
      match isTarget target, rest with
      | true, .sign "++" :: rest => return (.step target 1 false, rest)
      | true, .sign "--" :: rest => return (.step target (-1) false, rest)
      | _, _ => return (target, rest)

def readExpressions : Nat → Bool → List Token → Except Problem (List Expression × List Token)
  | 0, _, tokens => unexpected tokens
  | fuel + 1, plain, tokens => do
    let (first, rest) ← readExpression fuel plain tokens
    match rest with
    | .sign "," :: rest =>
      let (others, rest) ← readExpressions fuel plain (skipNewlines rest)
      return (first :: others, rest)
    | _ => return ([first], rest)

def readArguments : Nat → List Token → Except Problem (List Expression × List Token)
  | 0, tokens => unexpected tokens
  | fuel + 1, tokens =>
    match tokens with
    | .sign "(" :: .sign ")" :: rest => .ok ([], rest)
    | .sign "(" :: rest => do
      let (arguments, rest) ← readExpressions fuel false (skipNewlines rest)
      return (arguments, ← expect ")" (skipNewlines rest))
    | _ => .ok ([], tokens)

def readPrimary : Nat → List Token → Except Problem (Expression × List Token)
  | 0, tokens => unexpected tokens
  | fuel + 1, tokens =>
    match tokens with
    | .number value :: rest => .ok (.number value, rest)
    | .string text :: rest => .ok (.string text, rest)
    | .regex spelled :: rest => do return (.regex (← regexOf spelled), rest)
    | .sign "$" :: rest => do
      let (number, rest) ← match rest with
        | .sign "++" :: _ | .sign "--" :: _ => readStepped fuel rest
        | .sign "-" :: more => do
          let (operand, rest) ← readPrimary fuel more
          pure (Expression.sign '-' operand, rest)
        | _ => readPrimary fuel rest
      return (.field number, rest)
    | .sign "(" :: rest => do
      let (items, rest) ← readExpressions fuel false (skipNewlines rest)
      let rest ← expect ")" (skipNewlines rest)
      match items, rest with
      | [item], _ => return (.grouped item, rest)
      | _, .keyword "in" :: .name table :: rest => return (.contained items table, rest)
      | _, _ => unexpected rest
    | .name table :: .sign "[" :: rest => do
      let (keys, rest) ← readExpressions fuel false rest
      return (.element table keys, ← expect "]" rest)
    | .name name :: rest => .ok (.name name, rest)
    | .call name :: rest => do
      let (arguments, rest) ← readArguments fuel rest
      return (.call name arguments, rest)
    | .builtin name :: rest => do
      let (arguments, rest) ← readArguments fuel rest
      return (.builtin name arguments, rest)
    | .keyword "getline" :: rest => do
      let (target, rest) ← match rest with
        | .name _ :: _ | .sign "$" :: _ => do
          let (target, rest) ← readPrimary fuel rest
          pure (some target, rest)
        | _ => pure (none, rest)
      match rest with
      | .sign "<" :: rest =>
        let (source, rest) ← readPrimary fuel rest
        return (.getline target (some source), rest)
      | _ => return (.getline target none, rest)
    | .sign "-" :: rest => do
      let (operand, rest) ← readSigned fuel rest
      return (.sign '-' operand, rest)
    | _ => unexpected tokens

end

def readDestination (fuel : Nat) (tokens : List Token) :
    Except Problem (Destination × List Token) :=
  match tokens with
  | .sign ">" :: rest => do
    let (path, rest) ← readConcat fuel true rest
    return (.file path false, rest)
  | .sign ">>" :: rest => do
    let (path, rest) ← readConcat fuel true rest
    return (.file path true, rest)
  | .sign "|" :: rest => do
    let (command, rest) ← readConcat fuel true rest
    return (.command command, rest)
  | _ => .ok (.output, tokens)

def endsStatement (tokens : List Token) : Bool :=
  match tokens.head? with
  | none | some .newline | some .ended | some (.sign ";") | some (.sign "\x7d") | some
    (.sign ")") => true
  | _ => false

def readPrinted (fuel : Nat) (tokens : List Token) :
    Except Problem (List Expression × Destination × List Token) := do
  let endsList (tokens : List Token) : Bool :=
    endsStatement tokens || tokens.head? == some (.sign ">") || tokens.head? == some (.sign ">>") ||
      tokens.head? == some (.sign "|")
  if endsList tokens then
    let (destination, rest) ← readDestination fuel tokens
    return ([], destination, rest)
  else
    let grouped := match tokens with
      | .sign "(" :: rest =>
        match readExpressions fuel false (skipNewlines rest) with
        | .ok (items, .sign ")" :: rest) => if endsList rest then some (items, rest) else none
        | _ => none
      | _ => none
    let (items, rest) ← match grouped with
      | some found => pure found
      | none => readExpressions fuel true tokens
    let (destination, rest) ← readDestination fuel rest
    return (items, destination, rest)

mutual

def readSimple : Nat → List Token → Except Problem (Statement × List Token)
  | 0, tokens => unexpected tokens
  | fuel + 1, tokens =>
    match tokens with
    | .keyword "print" :: rest => do
      let (items, destination, rest) ← readPrinted fuel rest
      return (.print items destination, rest)
    | .keyword "printf" :: rest => do
      let (items, destination, rest) ← readPrinted fuel rest
      return (.printf items destination, rest)
    | .keyword "next" :: rest | .keyword "nextfile" :: rest => .ok (.next, rest)
    | .keyword "break" :: rest => .ok (.break, rest)
    | .keyword "continue" :: rest => .ok (.continue, rest)
    | .keyword "exit" :: rest =>
      if endsStatement rest then .ok (.exit none, rest)
      else do
        let (status, rest) ← readExpression fuel false rest
        return (.exit (some status), rest)
    | .keyword "return" :: rest =>
      if endsStatement rest then .ok (.return none, rest)
      else do
        let (value, rest) ← readExpression fuel false rest
        return (.return (some value), rest)
    | .keyword "delete" :: .name table :: .sign "[" :: rest => do
      let (keys, rest) ← readExpressions fuel false rest
      return (.delete table (some keys), ← expect "]" rest)
    | .keyword "delete" :: .name table :: rest => .ok (.delete table none, rest)
    | _ => do
      let (expression, rest) ← readExpression fuel false tokens
      return (.expression expression, rest)

def readStatement : Nat → List Token → Except Problem (Statement × List Token)
  | 0, tokens => unexpected tokens
  | fuel + 1, tokens =>
    match tokens with
    | .sign "\x7b" :: rest => do
      let (statements, rest) ← readBlock fuel rest
      return (.block statements, rest)
    | .sign ";" :: rest => .ok (.block [], rest)
    | .keyword "if" :: rest => do
      let (condition, rest) ← readCondition fuel rest
      let (success, rest) ← readStatement fuel (skipNewlines rest)
      match skipTerminators rest with
      | .keyword "else" :: rest =>
        let (failure, rest) ← readStatement fuel (skipNewlines rest)
        return (.branch condition [success] [failure], rest)
      | _ => return (.branch condition [success] [], rest)
    | .keyword "while" :: rest => do
      let (condition, rest) ← readCondition fuel rest
      if rest.head? == some (.sign ";") then return (.while condition [], rest.drop 1)
      let (body, rest) ← readStatement fuel (skipNewlines rest)
      return (.while condition [body], rest)
    | .keyword "do" :: rest => do
      let (body, rest) ← readStatement fuel (skipNewlines rest)
      match skipTerminators rest with
      | .keyword "while" :: rest =>
        let (condition, rest) ← readCondition fuel rest
        return (.doWhile [body] condition, rest)
      | _ => unexpected rest
    | .keyword "for" :: .sign "(" :: .name name :: .keyword "in" :: .name table :: .sign ")" ::
      rest => do
      let (body, rest) ← readStatement fuel (skipNewlines rest)
      return (.each name table [body], rest)
    | .keyword "for" :: .sign "(" :: rest => do
      let (start, rest) ← readOptional fuel rest
      let rest ← expect ";" rest
      let (condition, rest) ← match skipNewlines rest with
        | .sign ";" :: _ => pure (none, skipNewlines rest)
        | spaced => do
          let (condition, rest) ← readExpression fuel false spaced
          pure (some condition, rest)
      let rest ← expect ";" rest
      let (step, rest) ← readOptional fuel (skipNewlines rest)
      let rest ← expect ")" rest
      if rest.head? == some (.sign ";") then return (.for start condition step [], rest.drop 1)
      let (body, rest) ← readStatement fuel (skipNewlines rest)
      return (.for start condition step [body], rest)
    | _ => do
      let (statement, rest) ← readSimple fuel tokens
      match rest with
      | .newline :: rest | .sign ";" :: rest => return (statement, rest)
      | .sign "\x7d" :: _ | .ended :: _ => return (statement, rest)
      | _ => unexpected rest

def readOptional : Nat → List Token → Except Problem (List Statement × List Token)
  | 0, tokens => unexpected tokens
  | fuel + 1, tokens =>
    if endsStatement tokens then .ok ([], tokens)
    else do
      let (statement, rest) ← readSimple fuel tokens
      return ([statement], rest)

def readCondition : Nat → List Token → Except Problem (Expression × List Token)
  | 0, tokens => unexpected tokens
  | fuel + 1, tokens => do
    let rest ← expect "(" tokens
    let (condition, rest) ← readExpression fuel false (skipNewlines rest)
    return (condition, ← expect ")" (skipNewlines rest))

def readBlock : Nat → List Token → Except Problem (List Statement × List Token)
  | 0, tokens => unexpected tokens
  | fuel + 1, tokens =>
    match skipTerminators tokens with
    | .sign "\x7d" :: rest => .ok ([], rest)
    | started => do
      let (statement, rest) ← readStatement fuel started
      let (others, rest) ← readBlock fuel rest
      return (statement :: others, rest)

end

def readParameters : List Token → Except Problem (List String × List Token)
  | .sign ")" :: rest => .ok ([], rest)
  | .name name :: .sign "," :: .newline :: rest | .name name :: .sign "," :: rest => do
    let (names, rest) ← readParameters rest
    return (name :: names, rest)
  | .name name :: .sign ")" :: rest => .ok ([name], rest)
  | tokens => unexpected tokens

def showRecord : List Statement := [.print [] .output]

def readProgram : Nat → List Token → Except Problem Program
  | 0, tokens => unexpected tokens
  | fuel + 1, tokens =>
    let ruleFor (pattern : Pattern) (rest : List Token) : Except Problem Program :=
      match rest with
      | .sign "\x7b" :: rest => do
        let (action, rest) ← readBlock fuel rest
        let others ← readProgram fuel rest
        return { others with rules := ⟨pattern, action⟩ :: others.rules }
      | _ => do
        let others ← readProgram fuel rest
        return { others with rules := ⟨pattern, showRecord⟩ :: others.rules }
    match skipTerminators tokens with
    | [] | [.ended] => .ok {}
    | .keyword "BEGIN" :: rest => ruleFor .start rest
    | .keyword "END" :: rest => ruleFor .finish rest
    | .keyword "function" :: .call name :: .sign "(" :: rest
    | .keyword "function" :: .name name :: .sign "(" :: rest => do
      let (parameters, rest) ← readParameters rest
      let rest ← expect "\x7b" (skipNewlines rest)
      let (body, rest) ← readBlock fuel rest
      let others ← readProgram fuel rest
      return { others with functions := (name, ⟨parameters, body⟩) :: others.functions }
    | .sign "\x7b" :: rest => ruleFor .always (.sign "\x7b" :: rest)
    | started => do
      let (first, rest) ← readExpression fuel false started
      match rest with
      | .sign "," :: rest =>
        let (last, rest) ← readExpression fuel false (skipNewlines rest)
        ruleFor (.between first last) rest
      | _ => ruleFor (.when first) rest

end Parsing

def Program.parse (text : List Char) : Except String Program := do
  let inLine (line : Nat) (problem : String) : String :=
    "line " ++ String.ofList (Text.decimal line) ++ ": " ++ problem
  let tokens ← (tokens text).mapError (inLine 1)
  (Parsing.readProgram (20 * tokens.length + 40) tokens).mapError fun problem =>
    let line := (tokens.take (tokens.length - problem.left)).count .newline + 1
    inLine (if problem.left ≤ 1 then line + 1 else line) problem.text

end DialectLoader.Report
