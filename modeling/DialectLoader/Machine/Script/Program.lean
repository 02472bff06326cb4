import DialectLoader.Machine.Script.Token

/-!
# Scripts

A script is a block of statements, and statements are made of expressions. Expressions are read by
precedence, from the choice between two values down to names, literals and brackets.

The language is a part of Python. Classes, generators, decorators, matching and whatever is
asynchronous are not read, and a script that has them is refused as a whole.
-/

namespace DialectLoader.Script

/-- What a comprehension makes. A generator is made at once here and not item by item. -/
inductive Display where
  | list
  | set
  | dict
  | generator
deriving DecidableEq

inductive ParameterKind where
  | plain
  | named
  | rest
  | namedRest
deriving DecidableEq

mutual

/-- An expression. Targets of assignments are expressions too; that they can be assigned to shows
only when it is done. -/
inductive Expression where
  | none
  | bool (value : Bool)
  | integer (value : Nat)
  | real (value : Text.Ratio)
  | text (content : List Char)
  | bytes (content : List Char)
  | ellipsis
  | template (pieces : List Piece)
  | name (name : String)
  | tuple (items : List Expression)
  | list (items : List Expression)
  | set (items : List Expression)
  | dict (entries : List (Option Expression × Expression))
  | comprehension (display : Display) (item : Expression) (value : Option Expression)
    (clauses : List Clause)
  | member (object : Expression) (name : String)
  | index (object key : Expression)
  | slice (first last step : Option Expression)
  | call (function : Expression) (arguments : List Argument)
  | unary (operator : String) (operand : Expression)
  | binary (operator : String) (left right : Expression)
  | comparison (first : Expression) (rest : List (String × Expression))
  | both (left right : Expression)
  | either (left right : Expression)
  | conditional (condition success failure : Expression)
  | lambda (parameters : List Parameter) (body : Expression)
  | assignment (name : String) (value : Expression)
  | starred (inner : Expression)

/-- A piece of a string with expressions: text, or an expression with how it is written. -/
inductive Piece where
  | text (content : List Char)
  | field (value : Expression) (conversion : Option Char) (format : List Piece)

/-- An argument of a call, by position or by name, alone or as a whole sequence or dictionary. -/
inductive Argument where
  | plain (value : Expression)
  | starred (value : Expression)
  | named (name : String) (value : Expression)
  | doubled (value : Expression)

inductive Clause where
  | for (target items : Expression)
  | if (condition : Expression)

/-- A parameter of a function. The value for a missing argument is found when the function is
defined. -/
inductive Parameter where
  | of (name : String) (kind : ParameterKind) (preset : Option Expression)

end

inductive Statement where
  | expression (expression : Expression)
  | assign (targets : List Expression) (value : Expression)
  | augment (target : Expression) (operator : String) (value : Expression)
  | delete (targets : List Expression)
  | pass
  | break
  | continue
  | return (value : Option Expression)
  | raise (value : Option Expression)
  | global (names : List String)
  | nonlocal (names : List String)
  | load (modules : List (String × Option String))
  | loadFrom (module : String) (names : List (String × String))
  | assert (condition : Expression) (message : Option Expression)
  | branch (condition : Expression) (success failure : List (Nat × Statement))
  | while (condition : Expression) (body otherwise : List (Nat × Statement))
  | for (target items : Expression) (body otherwise : List (Nat × Statement))
  | try (body : List (Nat × Statement))
      (handlers : List (Option Expression × Option String × List (Nat × Statement)))
      (otherwise final : List (Nat × Statement))
  | with (items : List (Expression × Option Expression)) (body : List (Nat × Statement))
  | define (name : String) (parameters : List Parameter) (body : List (Nat × Statement))

namespace Parsing

def head (tokens : List Lexeme) : Token :=
  (tokens.head?.map (·.token)).getD .ended

def lineOf (tokens : List Lexeme) : Nat :=
  (tokens.head?.map (·.line)).getD 0

def unexpected {α : Type} (tokens : List Lexeme) : Except Problem α :=
  let kind := if head tokens == .indent then "IndentationError" else "SyntaxError"
  .error ⟨kind, if head tokens == .indent then "unexpected indent" else "invalid syntax",
    lineOf tokens⟩

def isSign (sign : String) (tokens : List Lexeme) : Bool :=
  head tokens == .sign sign

def isWord (word : String) (tokens : List Lexeme) : Bool :=
  head tokens == .keyword word

def expect (sign : String) (tokens : List Lexeme) : Except Problem (List Lexeme) :=
  if isSign sign tokens then .ok (tokens.drop 1) else unexpected tokens

def expectWord (word : String) (tokens : List Lexeme) : Except Problem (List Lexeme) :=
  if isWord word tokens then .ok (tokens.drop 1) else unexpected tokens

def readName (tokens : List Lexeme) : Except Problem (String × List Lexeme) :=
  match head tokens with
  | .name name => .ok (name, tokens.drop 1)
  | _ => unexpected tokens

def readDotted : Nat → List Lexeme → Except Problem (String × List Lexeme)
  | 0, tokens => unexpected tokens
  | fuel + 1, tokens => do
    let (name, rest) ← readName tokens
    if isSign "." rest then
      let (more, rest) ← readDotted fuel (rest.drop 1)
      return (name ++ "." ++ more, rest)
    else return (name, rest)

def readNames : Nat → List Lexeme → Except Problem (List String × List Lexeme)
  | 0, tokens => unexpected tokens
  | fuel + 1, tokens => do
    let (name, rest) ← readName tokens
    if isSign "," rest then
      let (names, rest) ← readNames fuel (rest.drop 1)
      return (name :: names, rest)
    else return ([name], rest)

def readAlias (tokens : List Lexeme) : Except Problem (Option String × List Lexeme) := do
  if isWord "as" tokens then
    let (name, rest) ← readName (tokens.drop 1)
    return (some name, rest)
  else return (none, tokens)

def readModules : Nat → List Lexeme → Except Problem (List (String × Option String) × List Lexeme)
  | 0, tokens => unexpected tokens
  | fuel + 1, tokens => do
    let (name, rest) ← readDotted fuel tokens
    let (other, rest) ← readAlias rest
    if isSign "," rest then
      let (more, rest) ← readModules fuel (rest.drop 1)
      return ((name, other) :: more, rest)
    else return ([(name, other)], rest)

def readImports : Nat → List Lexeme → Except Problem (List (String × String) × List Lexeme)
  | 0, tokens => unexpected tokens
  | fuel + 1, tokens => do
    let (name, rest) ← readName tokens
    let (other, rest) ← readAlias rest
    let found := (name, other.getD name)
    if isSign "," rest && !isSign ")" (rest.drop 1) then
      let (more, rest) ← readImports fuel (rest.drop 1)
      return (found :: more, rest)
    else return ([found], if isSign "," rest then rest.drop 1 else rest)

def splitField (depth : Nat) (quote : Option Char) : List Char → List Char × List Char
  | [] => ([], [])
  | c :: rest =>
    let keep (depth : Nat) (quote : Option Char) : List Char × List Char :=
      let (inner, after) := splitField depth quote rest
      (c :: inner, after)
    match quote with
    | some closing => keep depth (if c == closing then none else quote)
    | none =>
      if c == '"' || c == '\'' then keep depth (some c)
      else if c == '(' || c == '[' || c == '\x7b' then keep (depth + 1) none
      else if 0 < depth then
        keep (if c == ')' || c == ']' || c == '\x7d' then depth - 1 else depth) none
      else if c == '\x7d' || c == ':' || (c == '!' && rest.head? != some '=') then ([], c :: rest)
      else if (c == '!' || c == '=' || c == '<' || c == '>') && rest.head? == some '=' then
        match rest with
        | second :: behind =>
          let (inner, after) := splitField 0 none behind
          (c :: second :: inner, after)
        | [] => ([c], [])
      else keep 0 none

def levels : List (List String) :=
  [["|"], ["^"], ["&"], ["<<", ">>"], ["+", "-"], ["*", "/", "//", "%", "@"]]

def comparison? (tokens : List Lexeme) : Option (String × Nat) :=
  match head tokens with
  | .sign sign => if ["<", ">", "==", ">=", "<=", "!="].contains sign then some (sign, 1) else none
  | .keyword "in" => some ("in", 1)
  | .keyword "is" => if isWord "not" (tokens.drop 1) then some ("is not", 2) else some ("is", 1)
  | .keyword "not" => if isWord "in" (tokens.drop 1) then some ("not in", 2) else none
  | _ => none

def startsExpression : Token → Bool
  | .name _ | .integer _ | .real _ | .text _ | .bytes _ | .template .. => true
  | .keyword word => ["None", "True", "False", "not", "lambda"].contains word
  | .sign sign => ["(", "[", "\x7b", "-", "+", "~", "*", "..."].contains sign
  | _ => false

def ofPieces (pieces : List Piece) : Expression :=
  match pieces with
  | [] => .text []
  | [.text content] => .text content
  | _ => .template pieces

mutual

def readNamed : Nat → List Lexeme → Except Problem (Expression × List Lexeme)
  | 0, tokens => unexpected tokens
  | fuel + 1, tokens =>
    match head tokens with
    | .name name =>
      if isSign ":=" (tokens.drop 1) then do
        let (value, rest) ← readChoice fuel (tokens.drop 2)
        return (.assignment name value, rest)
      else readChoice fuel tokens
    | _ => readChoice fuel tokens

def readChoice : Nat → List Lexeme → Except Problem (Expression × List Lexeme)
  | 0, tokens => unexpected tokens
  | fuel + 1, tokens => do
    if isWord "lambda" tokens then
      let (parameters, rest) ← readParameters fuel ":" false false (tokens.drop 1)
      let (body, rest) ← readChoice fuel rest
      return (.lambda parameters body, rest)
    let (value, rest) ← readEither fuel tokens
    if isWord "if" rest then
      let (condition, rest) ← readEither fuel (rest.drop 1)
      let rest ← expectWord "else" rest
      let (failure, rest) ← readChoice fuel rest
      return (.conditional condition value failure, rest)
    else return (value, rest)

def readEither : Nat → List Lexeme → Except Problem (Expression × List Lexeme)
  | 0, tokens => unexpected tokens
  | fuel + 1, tokens => do
    let (left, rest) ← readBoth fuel tokens
    if isWord "or" rest then
      let (right, rest) ← readEither fuel (rest.drop 1)
      return (.either left right, rest)
    else return (left, rest)

def readBoth : Nat → List Lexeme → Except Problem (Expression × List Lexeme)
  | 0, tokens => unexpected tokens
  | fuel + 1, tokens => do
    let (left, rest) ← readNot fuel tokens
    if isWord "and" rest then
      let (right, rest) ← readBoth fuel (rest.drop 1)
      return (.both left right, rest)
    else return (left, rest)

def readNot : Nat → List Lexeme → Except Problem (Expression × List Lexeme)
  | 0, tokens => unexpected tokens
  | fuel + 1, tokens => do
    if isWord "not" tokens then
      let (operand, rest) ← readNot fuel (tokens.drop 1)
      return (.unary "not" operand, rest)
    let (first, rest) ← readLevel fuel levels tokens
    let (others, rest) ← readComparisons fuel rest
    return (if others.isEmpty then first else .comparison first others, rest)

def readComparisons : Nat → List Lexeme → Except Problem (List (String × Expression) × List Lexeme)
  | 0, tokens => unexpected tokens
  | fuel + 1, tokens =>
    match comparison? tokens with
    | none => .ok ([], tokens)
    | some (operator, size) => do
      let (operand, rest) ← readLevel fuel levels (tokens.drop size)
      let (others, rest) ← readComparisons fuel rest
      return ((operator, operand) :: others, rest)

def readLevel : Nat → List (List String) → List Lexeme → Except Problem (Expression × List Lexeme)
  | 0, _, tokens => unexpected tokens
  | fuel + 1, [], tokens => readSigned fuel tokens
  | fuel + 1, operators :: tighter, tokens => do
    let (left, rest) ← readLevel fuel tighter tokens
    readLevelRest fuel operators tighter left rest

def readLevelRest :
    Nat → List String → List (List String) → Expression → List Lexeme →
    Except Problem (Expression × List Lexeme)
  | 0, _, _, _, tokens => unexpected tokens
  | fuel + 1, operators, tighter, left, tokens =>
    match head tokens with
    | .sign sign =>
      if operators.contains sign then do
        let (right, rest) ← readLevel fuel tighter (tokens.drop 1)
        readLevelRest fuel operators tighter (.binary sign left right) rest
      else .ok (left, tokens)
    | _ => .ok (left, tokens)

def readSigned : Nat → List Lexeme → Except Problem (Expression × List Lexeme)
  | 0, tokens => unexpected tokens
  | fuel + 1, tokens => do
    match head tokens with
    | .sign sign =>
      if sign == "-" || sign == "+" || sign == "~" then
        let (operand, rest) ← readSigned fuel (tokens.drop 1)
        return (.unary sign operand, rest)
      else readPower fuel tokens
    | _ => readPower fuel tokens

def readPower : Nat → List Lexeme → Except Problem (Expression × List Lexeme)
  | 0, tokens => unexpected tokens
  | fuel + 1, tokens => do
    let (atom, rest) ← readAtom fuel tokens
    let (base, rest) ← readTrailers fuel atom rest
    if isSign "**" rest then
      let (exponent, rest) ← readSigned fuel (rest.drop 1)
      return (.binary "**" base exponent, rest)
    else return (base, rest)

def readTrailers : Nat → Expression → List Lexeme → Except Problem (Expression × List Lexeme)
  | 0, _, tokens => unexpected tokens
  | fuel + 1, operand, tokens =>
    match head tokens with
    | .sign "." => do
      let (name, rest) ← readName (tokens.drop 1)
      readTrailers fuel (.member operand name) rest
    | .sign "(" => do
      let (arguments, rest) ← readArguments fuel (tokens.drop 1)
      readTrailers fuel (.call operand arguments) rest
    | .sign "[" => do
      let (key, rest) ← readSubscript fuel (tokens.drop 1)
      if isSign "," rest then
        let (more, rest) ← readItems fuel "]" (rest.drop 1)
        readTrailers fuel (.index operand (.tuple (key :: more))) rest
      else
        let rest ← expect "]" rest
        readTrailers fuel (.index operand key) rest
    | _ => .ok (operand, tokens)

def readSubscript : Nat → List Lexeme → Except Problem (Expression × List Lexeme)
  | 0, tokens => unexpected tokens
  | fuel + 1, tokens => do
    let (first, rest) ← readBound fuel tokens
    if isSign ":" rest then
      let (last, rest) ← readBound fuel (rest.drop 1)
      if isSign ":" rest then
        let (step, rest) ← readBound fuel (rest.drop 1)
        return (.slice first last step, rest)
      else return (.slice first last none, rest)
    else
      match first with
      | some key => return (key, rest)
      | none => unexpected rest

def readBound : Nat → List Lexeme → Except Problem (Option Expression × List Lexeme)
  | 0, tokens => unexpected tokens
  | fuel + 1, tokens => do
    if isSign ":" tokens || isSign "]" tokens || isSign "," tokens then return (none, tokens)
    let (value, rest) ← readNamed fuel tokens
    return (some value, rest)

def readArguments : Nat → List Lexeme → Except Problem (List Argument × List Lexeme)
  | 0, tokens => unexpected tokens
  | fuel + 1, tokens => do
    if isSign ")" tokens then return ([], tokens.drop 1)
    let (argument, rest) ← readArgument fuel tokens
    if isSign "," rest then
      let (more, rest) ← readArguments fuel (rest.drop 1)
      return (argument :: more, rest)
    else
      let rest ← expect ")" rest
      return ([argument], rest)

def readArgument : Nat → List Lexeme → Except Problem (Argument × List Lexeme)
  | 0, tokens => unexpected tokens
  | fuel + 1, tokens => do
    match head tokens, head (tokens.drop 1) with
    | .sign "*", _ =>
      let (value, rest) ← readChoice fuel (tokens.drop 1)
      return (.starred value, rest)
    | .sign "**", _ =>
      let (value, rest) ← readChoice fuel (tokens.drop 1)
      return (.doubled value, rest)
    | .name name, .sign "=" =>
      let (value, rest) ← readChoice fuel (tokens.drop 2)
      return (.named name value, rest)
    | _, _ =>
      let (value, rest) ← readNamed fuel tokens
      if isWord "for" rest then
        let (clauses, rest) ← readClauses fuel rest
        return (.plain (.comprehension .generator value none clauses), rest)
      else return (.plain value, rest)

def readItem : Nat → List Lexeme → Except Problem (Expression × List Lexeme)
  | 0, tokens => unexpected tokens
  | fuel + 1, tokens => do
    if isSign "*" tokens then
      let (inner, rest) ← readLevel fuel levels (tokens.drop 1)
      return (.starred inner, rest)
    else readNamed fuel tokens

def readItems : Nat → String → List Lexeme → Except Problem (List Expression × List Lexeme)
  | 0, _, tokens => unexpected tokens
  | fuel + 1, closing, tokens => do
    if isSign closing tokens then return ([], tokens.drop 1)
    let (item, rest) ← readItem fuel tokens
    if isSign "," rest then
      let (items, rest) ← readItems fuel closing (rest.drop 1)
      return (item :: items, rest)
    else
      let rest ← expect closing rest
      return ([item], rest)

def readClauses : Nat → List Lexeme → Except Problem (List Clause × List Lexeme)
  | 0, tokens => unexpected tokens
  | fuel + 1, tokens => do
    if isWord "for" tokens then
      let (target, rest) ← readTargets fuel (tokens.drop 1)
      let rest ← expectWord "in" rest
      let (items, rest) ← readEither fuel rest
      let (clauses, rest) ← readClauses fuel rest
      return (.for target items :: clauses, rest)
    else if isWord "if" tokens then
      let (condition, rest) ← readEither fuel (tokens.drop 1)
      let (clauses, rest) ← readClauses fuel rest
      return (.if condition :: clauses, rest)
    else return ([], tokens)

def readTargets : Nat → List Lexeme → Except Problem (Expression × List Lexeme)
  | 0, tokens => unexpected tokens
  | fuel + 1, tokens => do
    let (first, rest) ← readTarget fuel tokens
    if isSign "," rest then
      let (others, rest) ← readMoreTargets fuel (rest.drop 1)
      return (.tuple (first :: others), rest)
    else return (first, rest)

def readTarget : Nat → List Lexeme → Except Problem (Expression × List Lexeme)
  | 0, tokens => unexpected tokens
  | fuel + 1, tokens => do
    if isSign "*" tokens then
      let (inner, rest) ← readLevel fuel levels (tokens.drop 1)
      return (.starred inner, rest)
    else readLevel fuel levels tokens

def readMoreTargets : Nat → List Lexeme → Except Problem (List Expression × List Lexeme)
  | 0, tokens => unexpected tokens
  | fuel + 1, tokens => do
    if !startsExpression (head tokens) then return ([], tokens)
    let (target, rest) ← readTarget fuel tokens
    if isSign "," rest then
      let (others, rest) ← readMoreTargets fuel (rest.drop 1)
      return (target :: others, rest)
    else return ([target], rest)

def readAtom : Nat → List Lexeme → Except Problem (Expression × List Lexeme)
  | 0, tokens => unexpected tokens
  | fuel + 1, tokens => do
    let rest := tokens.drop 1
    match head tokens with
    | .name name => return (.name name, rest)
    | .integer value => return (.integer value, rest)
    | .real value => return (.real value, rest)
    | .keyword "None" => return (.none, rest)
    | .keyword "True" => return (.bool true, rest)
    | .keyword "False" => return (.bool false, rest)
    | .sign "..." => return (.ellipsis, rest)
    | .text _ | .template .. =>
      let (pieces, rest) ← readStrings fuel tokens
      return (ofPieces pieces, rest)
    | .bytes content =>
      let more := rest.takeWhile fun lexeme => match lexeme.token with
        | .bytes _ => true
        | _ => false
      let others := more.map fun lexeme => match lexeme.token with
        | .bytes content => content
        | _ => []
      return (.bytes (content ++ others.flatten), rest.drop more.length)
    | .sign "(" =>
      if isSign ")" rest then return (.tuple [], rest.drop 1)
      let (first, rest) ← readItem fuel rest
      if isWord "for" rest then
        let (clauses, rest) ← readClauses fuel rest
        let rest ← expect ")" rest
        return (.comprehension .generator first none clauses, rest)
      else if isSign "," rest then
        let (items, rest) ← readItems fuel ")" (rest.drop 1)
        return (.tuple (first :: items), rest)
      else
        let rest ← expect ")" rest
        return (first, rest)
    | .sign "[" =>
      if isSign "]" rest then return (.list [], rest.drop 1)
      let (first, rest) ← readItem fuel rest
      if isWord "for" rest then
        let (clauses, rest) ← readClauses fuel rest
        let rest ← expect "]" rest
        return (.comprehension .list first none clauses, rest)
      else if isSign "," rest then
        let (items, rest) ← readItems fuel "]" (rest.drop 1)
        return (.list (first :: items), rest)
      else
        let rest ← expect "]" rest
        return (.list [first], rest)
    | .sign "\x7b" => readBraces fuel rest
    | _ => unexpected tokens

def readBraces : Nat → List Lexeme → Except Problem (Expression × List Lexeme)
  | 0, tokens => unexpected tokens
  | fuel + 1, tokens => do
    if isSign "\x7d" tokens then return (.dict [], tokens.drop 1)
    if isSign "**" tokens then
      let (entries, rest) ← readEntries fuel tokens
      return (.dict entries, rest)
    let (first, rest) ← readItem fuel tokens
    if isSign ":" rest then
      let (value, after) ← readChoice fuel (rest.drop 1)
      if isWord "for" after then
        let (clauses, after) ← readClauses fuel after
        let after ← expect "\x7d" after
        return (.comprehension .dict first (some value) clauses, after)
      else
        let (entries, rest) ← readEntries fuel tokens
        return (.dict entries, rest)
    else if isWord "for" rest then
      let (clauses, rest) ← readClauses fuel rest
      let rest ← expect "\x7d" rest
      return (.comprehension .set first none clauses, rest)
    else
      let (items, rest) ← readItems fuel "\x7d" tokens
      return (.set items, rest)

def readEntries :
    Nat → List Lexeme → Except Problem (List (Option Expression × Expression) × List Lexeme)
  | 0, tokens => unexpected tokens
  | fuel + 1, tokens => do
    if isSign "\x7d" tokens then return ([], tokens.drop 1)
    let (entry, rest) ← readEntry fuel tokens
    if isSign "," rest then
      let (entries, rest) ← readEntries fuel (rest.drop 1)
      return (entry :: entries, rest)
    else
      let rest ← expect "\x7d" rest
      return ([entry], rest)

def readEntry : Nat → List Lexeme → Except Problem ((Option Expression × Expression) × List Lexeme)
  | 0, tokens => unexpected tokens
  | fuel + 1, tokens => do
    if isSign "**" tokens then
      let (inner, rest) ← readLevel fuel levels (tokens.drop 1)
      return ((none, inner), rest)
    let (key, rest) ← readChoice fuel tokens
    let rest ← expect ":" rest
    let (value, rest) ← readChoice fuel rest
    return ((some key, value), rest)

def readStrings : Nat → List Lexeme → Except Problem (List Piece × List Lexeme)
  | 0, tokens => unexpected tokens
  | fuel + 1, tokens => do
    match head tokens with
    | .text content =>
      match ← readStrings fuel (tokens.drop 1) with
      | (.text more :: pieces, rest) => return (.text (content ++ more) :: pieces, rest)
      | (pieces, rest) => return (.text content :: pieces, rest)
    | .template content isRaw =>
      let (pieces, _) ← readPieces fuel (lineOf tokens) isRaw false content
      let (more, rest) ← readStrings fuel (tokens.drop 1)
      return (pieces ++ more, rest)
    | _ => return ([], tokens)

def readPieces : Nat → Nat → Bool → Bool → List Char → Except Problem (List Piece × List Char)
  | 0, line, _, _, _ => .error ⟨"SyntaxError", "f-string: expressions nested too deeply", line⟩
  | fuel + 1, line, isRaw, isFormat, cs => do
    match cs with
    | [] => return ([], [])
    | '\x7b' :: '\x7b' :: rest =>
      let (pieces, rest) ← readPieces fuel line isRaw isFormat rest
      return (.text ['\x7b'] :: pieces, rest)
    | '\x7d' :: rest =>
      if isFormat then return ([], cs)
      match rest with
      | '\x7d' :: rest =>
        let (pieces, rest) ← readPieces fuel line isRaw isFormat rest
        return (.text ['\x7d'] :: pieces, rest)
      | _ => throw ⟨"SyntaxError", "f-string: single '\x7d' is not allowed", line⟩
    | '\x7b' :: rest =>
      let (inner, after) := splitField 0 none rest
      let trimmed := (inner.reverse.dropWhile (· == ' ')).reverse
      let isShown := trimmed.getLast? == some '=' && ["==", "!=", "<=", ">="].all fun operator =>
        !operator.toList.isSuffixOf trimmed
      let written := if isShown then trimmed.dropLast else inner
      let lexemes ← innerTokens line written
      let (first, behind) ← readItem fuel lexemes
      let (value, behind) ← if isSign "," behind then
          do
            let (others, behind) ← readMoreTargets fuel (behind.drop 1)
            pure (Expression.tuple (first :: others), behind)
        else pure (first, behind)
      if head behind != .newline then unexpected behind
      let (conversion, after) := match after with
        | '!' :: c :: rest => (some c, rest)
        | _ => (if isShown && after.head? == some '\x7d' then some 'r' else none, after)
      let (format, after) ← match after with
        | ':' :: rest => readPieces fuel line isRaw true rest
        | _ => pure ([], after)
      match after with
      | '\x7d' :: rest =>
        let (pieces, rest) ← readPieces fuel line isRaw isFormat rest
        let field := Piece.field value conversion format
        return ((if isShown then [.text inner, field] else [field]) ++ pieces, rest)
      | _ => throw ⟨"SyntaxError", "f-string: expecting '\x7d'", line⟩
    | _ =>
      let run := cs.takeWhile fun c => c != '\x7b' && c != '\x7d'
      let content := if isRaw then run else unescape false (run.length + 1) run
      let (pieces, rest) ← readPieces fuel line isRaw isFormat (cs.drop run.length)
      return (.text content :: pieces, rest)

def readParameters :
    Nat → String → Bool → Bool → List Lexeme → Except Problem (List Parameter × List Lexeme)
  | 0, _, _, _, tokens => unexpected tokens
  | fuel + 1, closing, annotated, onlyNamed, tokens => do
    if isSign closing tokens then return ([], tokens.drop 1)
    let (kind, start) := match head tokens with
      | .sign "*" => (ParameterKind.rest, tokens.drop 1)
      | .sign "**" => (.namedRest, tokens.drop 1)
      | _ => (if onlyNamed then .named else .plain, tokens)
    let onlyNamed := onlyNamed || kind == .rest
    let next (found : List Parameter) (rest : List Lexeme) : Except Problem
        (List Parameter × List Lexeme) := do
      if isSign "," rest then
        let (more, rest) ← readParameters fuel closing annotated onlyNamed (rest.drop 1)
        return (found ++ more, rest)
      else
        let rest ← expect closing rest
        return (found, rest)
    if (kind == .rest && isSign "," start) || isSign "/" start then
      next [] (if isSign "/" start then start.drop 1 else start)
    else
      let (name, rest) ← readName start
      let rest ← if annotated && isSign ":" rest then
          (readChoice fuel (rest.drop 1)).map (·.2)
        else pure rest
      if isSign "=" rest then
        let (preset, rest) ← readChoice fuel (rest.drop 1)
        next [.of name kind (some preset)] rest
      else next [.of name kind none] rest

end

def readExpressions (fuel : Nat) (tokens : List Lexeme) :
    Except Problem (Expression × List Lexeme) := do
  let (first, rest) ← readItem fuel tokens
  if isSign "," rest then
    let (others, rest) ← more fuel (rest.drop 1)
    return (.tuple (first :: others), rest)
  else
    match first with
    | .starred _ => unexpected tokens
    | _ => return (first, rest)
where
  more : Nat → List Lexeme → Except Problem (List Expression × List Lexeme)
    | 0, tokens => unexpected tokens
    | fuel + 1, tokens => do
      if !startsExpression (head tokens) then return ([], tokens)
      let (item, rest) ← readItem fuel tokens
      if isSign "," rest then
        let (items, rest) ← more fuel (rest.drop 1)
        return (item :: items, rest)
      else return ([item], rest)

def readAssigned : Nat → List Expression → List Lexeme → Except Problem (Statement × List Lexeme)
  | 0, _, tokens => unexpected tokens
  | fuel + 1, targets, tokens => do
    let (value, rest) ← readExpressions fuel tokens
    if isSign "=" rest then readAssigned fuel (targets ++ [value]) (rest.drop 1)
    else return (.assign targets value, rest)

def readOptional (fuel : Nat) (tokens : List Lexeme) :
    Except Problem (Option Expression × List Lexeme) := do
  if startsExpression (head tokens) then
    let (value, rest) ← readExpressions fuel tokens
    return (some value, rest)
  else return (none, tokens)

def augmentations : List (String × String) :=
  ["+", "-", "*", "/", "//", "%", "**", "|", "&", "^", "<<", ">>"].map fun operator =>
    (operator ++ "=", operator)

def readSimple (fuel : Nat) (tokens : List Lexeme) : Except Problem (Statement × List Lexeme) := do
  let rest := tokens.drop 1
  match head tokens with
  | .keyword "pass" => return (.pass, rest)
  | .keyword "break" => return (.break, rest)
  | .keyword "continue" => return (.continue, rest)
  | .keyword "return" =>
    let (value, rest) ← readOptional fuel rest
    return (.return value, rest)
  | .keyword "raise" =>
    let (value, rest) ← readOptional fuel rest
    if isWord "from" rest then
      let (_, rest) ← readChoice fuel (rest.drop 1)
      return (.raise value, rest)
    else return (.raise value, rest)
  | .keyword "global" =>
    let (names, rest) ← readNames fuel rest
    return (.global names, rest)
  | .keyword "nonlocal" =>
    let (names, rest) ← readNames fuel rest
    return (.nonlocal names, rest)
  | .keyword "import" =>
    let (modules, rest) ← readModules fuel rest
    return (.load modules, rest)
  | .keyword "from" =>
    let (module, rest) ← readDotted fuel rest
    let rest ← expectWord "import" rest
    if isSign "*" rest then return (.loadFrom module [("*", "*")], rest.drop 1)
    if isSign "(" rest then
      let (names, rest) ← readImports fuel (rest.drop 1)
      let rest ← expect ")" rest
      return (.loadFrom module names, rest)
    else
      let (names, rest) ← readImports fuel rest
      return (.loadFrom module names, rest)
  | .keyword "del" =>
    let (target, rest) ← readTargets fuel rest
    return (.delete (match target with
      | .tuple targets => targets
      | other => [other]), rest)
  | .keyword "assert" =>
    let (condition, rest) ← readChoice fuel rest
    if isSign "," rest then
      let (message, rest) ← readChoice fuel (rest.drop 1)
      return (.assert condition (some message), rest)
    else return (.assert condition none, rest)
  | _ =>
    let (value, rest) ← readExpressions fuel tokens
    match head rest with
    | .sign "=" => readAssigned fuel [value] (rest.drop 1)
    | .sign ":" =>
      let (_, rest) ← readChoice fuel (rest.drop 1)
      if isSign "=" rest then readAssigned fuel [value] (rest.drop 1) else return (.pass, rest)
    | .sign sign =>
      match augmentations.lookup sign with
      | some operator =>
        let (operand, rest) ← readExpressions fuel (rest.drop 1)
        return (.augment value operator operand, rest)
      | none => return (.expression value, rest)
    | _ => return (.expression value, rest)

def readLine : Nat → List Lexeme → Except Problem (List (Nat × Statement) × List Lexeme)
  | 0, tokens => unexpected tokens
  | fuel + 1, tokens => do
    let (statement, rest) ← readSimple fuel tokens
    let found := (lineOf tokens, statement)
    if isSign ";" rest && head (rest.drop 1) != .newline then
      let (more, rest) ← readLine fuel (rest.drop 1)
      return (found :: more, rest)
    let rest := if isSign ";" rest then rest.drop 1 else rest
    if head rest == .newline then return ([found], rest.drop 1) else unexpected rest

mutual

def readStatements : Nat → List Lexeme → Except Problem (List (Nat × Statement) × List Lexeme)
  | 0, tokens => unexpected tokens
  | fuel + 1, tokens => do
    if head tokens == .dedent || head tokens == .ended then return ([], tokens)
    if head tokens == .newline then return ← readStatements fuel (tokens.drop 1)
    let (found, rest) ← readStatement fuel tokens
    let (more, rest) ← readStatements fuel rest
    return (found ++ more, rest)

def readBlock : Nat → List Lexeme → Except Problem (List (Nat × Statement) × List Lexeme)
  | 0, tokens => unexpected tokens
  | fuel + 1, tokens => do
    if !isSign ":" tokens then throw ⟨"SyntaxError", "expected ':'", lineOf tokens⟩
    let rest := tokens.drop 1
    if head rest == .newline then
      if head (rest.drop 1) != .indent then
        throw ⟨"IndentationError", "expected an indented block", lineOf (rest.drop 1)⟩
      let (block, rest) ← readStatements fuel (rest.drop 2)
      if head rest == .dedent then return (block, rest.drop 1) else unexpected rest
    else readLine fuel rest

def readElse : Nat → String → List Lexeme → Except Problem (List (Nat × Statement) × List Lexeme)
  | 0, _, tokens => unexpected tokens
  | fuel + 1, word, tokens =>
    if isWord word tokens then readBlock fuel (tokens.drop 1) else .ok ([], tokens)

def readBranch : Nat → List Lexeme → Except Problem (Statement × List Lexeme)
  | 0, tokens => unexpected tokens
  | fuel + 1, tokens => do
    let (condition, rest) ← readNamed fuel tokens
    let (success, rest) ← readBlock fuel rest
    if isWord "elif" rest then
      let (other, after) ← readBranch fuel (rest.drop 1)
      return (.branch condition success [(lineOf rest, other)], after)
    else
      let (failure, rest) ← readElse fuel "else" rest
      return (.branch condition success failure, rest)

def readHandlers : Nat → List Lexeme →
    Except Problem (List (Option Expression × Option String × List (Nat × Statement)) × List Lexeme)
  | 0, tokens => unexpected tokens
  | fuel + 1, tokens => do
    if !isWord "except" tokens then return ([], tokens)
    let (kinds, rest) ← readOptional fuel (tokens.drop 1)
    let (name, rest) ← readAlias rest
    let (body, rest) ← readBlock fuel rest
    let (more, rest) ← readHandlers fuel rest
    return ((kinds, name, body) :: more, rest)

def readContexts :
    Nat → List Lexeme → Except Problem (List (Expression × Option Expression) × List Lexeme)
  | 0, tokens => unexpected tokens
  | fuel + 1, tokens => do
    let (item, rest) ← readChoice fuel tokens
    let (target, rest) ← if isWord "as" rest then
        (readTarget fuel (rest.drop 1)).map fun (target, rest) => (some target, rest)
      else pure (none, rest)
    if isSign "," rest then
      let (more, rest) ← readContexts fuel (rest.drop 1)
      return ((item, target) :: more, rest)
    else return ([(item, target)], rest)

def readStatement : Nat → List Lexeme → Except Problem (List (Nat × Statement) × List Lexeme)
  | 0, tokens => unexpected tokens
  | fuel + 1, tokens => do
    let line := lineOf tokens
    let rest := tokens.drop 1
    match head tokens with
    | .keyword "if" =>
      let (statement, rest) ← readBranch fuel rest
      return ([(line, statement)], rest)
    | .keyword "while" =>
      let (condition, rest) ← readNamed fuel rest
      let (body, rest) ← readBlock fuel rest
      let (otherwise, rest) ← readElse fuel "else" rest
      return ([(line, .while condition body otherwise)], rest)
    | .keyword "for" =>
      let (target, rest) ← readTargets fuel rest
      let rest ← expectWord "in" rest
      let (items, rest) ← readExpressions fuel rest
      let (body, rest) ← readBlock fuel rest
      let (otherwise, rest) ← readElse fuel "else" rest
      return ([(line, .for target items body otherwise)], rest)
    | .keyword "try" =>
      let (body, rest) ← readBlock fuel rest
      let (handlers, rest) ← readHandlers fuel rest
      let (otherwise, rest) ← readElse fuel "else" rest
      let (final, rest) ← readElse fuel "finally" rest
      return ([(line, .try body handlers otherwise final)], rest)
    | .keyword "with" =>
      let (items, rest) ← readContexts fuel rest
      let (body, rest) ← readBlock fuel rest
      return ([(line, .with items body)], rest)
    | .keyword "def" =>
      let (name, rest) ← readName rest
      let rest ← expect "(" rest
      let (parameters, rest) ← readParameters fuel ")" true false rest
      let rest ← if isSign "->" rest then (readChoice fuel (rest.drop 1)).map (·.2) else pure rest
      let (body, rest) ← readBlock fuel rest
      return ([(line, .define name parameters body)], rest)
    | _ => readLine fuel tokens

end

end Parsing

def parse (text : List Char) : Except Problem (List (Nat × Statement)) := do
  let tokens ← tokens text
  let (statements, rest) ← Parsing.readStatements (30 * (tokens.length + text.length) + 60) tokens
  if Parsing.head rest == .ended then return statements else Parsing.unexpected rest

end DialectLoader.Script
