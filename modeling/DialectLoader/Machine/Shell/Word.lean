import DialectLoader.Json.Value
import DialectLoader.Text.Lines

/-!
# Words of shell scripts

A shell script is read byte by byte, each byte as the character of that number. Its words are made
of parts: text, the values of variables, the output of other scripts and the values of expressions.
Quotes and backslashes keep text from being split into several words or taken for a pattern; within
double quotes the other parts are still put in.

The language is that of a plain POSIX shell, without the extensions that other shells have.
-/

namespace DialectLoader.Shell

inductive Alteration where
  | orElse
  | assign
  | instead
  | demand
  | cutStart (longest : Bool)
  | cutEnd (longest : Bool)
deriving DecidableEq

/-- A part of a word. `quoted` tells that what it stands for stays one piece. -/
inductive Part where
  | text (characters : List Char) (quoted : Bool)
  | value (name : String) (quoted : Bool)
  | length (name : String) (quoted : Bool)
  | altered (name : String) (alteration : Alteration) (emptyIsMissing : Bool) (operand : List Char)
    (quoted : Bool)
  | output (script : List Char) (quoted : Bool)
  | number (expression : List Char) (quoted : Bool)
  | senseless
deriving DecidableEq

def Part.isQuoted : Part → Bool
  | .text _ quoted | .value _ quoted | .length _ quoted | .altered _ _ _ _ quoted | .output _ quoted
  | .number _ quoted => quoted
  | .senseless => false

abbrev Word := List Part

inductive Arrow where
  | input
  | output
  | append
  | channel
  | document (text : List Char) (expands : Bool)
deriving DecidableEq

/-- A token of a script. What cannot be read is a token too, so that what stands before it can be
run. -/
inductive Token where
  | word (word : Word)
  | newline
  | semicolon
  | doubleSemicolon
  | background
  | bar
  | both
  | either
  | opening
  | closing
  | arrow (descriptor : Nat) (arrow : Arrow)
  | ended
  | unreadable (text : String)
deriving DecidableEq

structure Lexeme where
  token : Token
  line : Nat
deriving DecidableEq

def openQuote : String := "Unterminated quoted string"

def isMeta (c : Char) : Bool :=
  " \t\n;&|()<>".toList.contains c

def isNameChar (c : Char) : Bool :=
  c.isAlphanum || c == '_'

def readEnclosed (left right : Char) :
    Nat → Option Char → List Char → Option (List Char × List Char)
  | _, _, [] => none
  | depth, quote, '\\' :: escaped :: rest =>
    if quote == some '\'' then do
      let (text, after) ← readEnclosed left right depth
          (if escaped == '\'' then none else quote) rest
      return ('\\' :: escaped :: text, after)
    else do
      let (text, after) ← readEnclosed left right depth quote rest
      return ('\\' :: escaped :: text, after)
  | depth, some quote, c :: rest => do
    let (text, after) ← readEnclosed left right depth (if c == quote then none else some quote) rest
    return (c :: text, after)
  | depth, none, c :: rest =>
    if c == right && depth == 0 then some ([], rest)
    else do
      let deeper := if c == left then depth + 1 else if c == right then depth - 1 else depth
      let quote := if c == '\'' || c == '"' then some c else none
      let (text, after) ← readEnclosed left right deeper quote rest
      return (c :: text, after)

def parameterName (text : List Char) : List Char :=
  match text with
  | c :: _ => if "?#@*$!-".toList.contains c then [c] else text.takeWhile isNameChar
  | [] => []

def alterationOf? : Char → Option Alteration
  | '-' => some .orElse
  | '=' => some .assign
  | '+' => some .instead
  | '?' => some .demand
  | _ => none

def bracedPart (quoted : Bool) (inner : List Char) : Part :=
  match inner with
  | '#' :: c :: rest =>
    if isNameChar c || "?#@*$!-".toList.contains c then .length (String.ofList (c :: rest)) quoted
    else .senseless
  | _ =>
    let name := parameterName inner
    let altered (alteration : Alteration) (emptyIsMissing : Bool) (operand : List Char) : Part :=
      .altered (String.ofList name) alteration emptyIsMissing operand quoted
    if name.isEmpty then .senseless
    else
      match inner.drop name.length with
      | [] => .value (String.ofList name) quoted
      | ':' :: sign :: operand =>
        ((alterationOf? sign).map (altered · true operand)).getD .senseless
      | '#' :: '#' :: operand => altered (.cutStart true) false operand
      | '#' :: operand => altered (.cutStart false) false operand
      | '%' :: '%' :: operand => altered (.cutEnd true) false operand
      | '%' :: operand => altered (.cutEnd false) false operand
      | sign :: operand => ((alterationOf? sign).map (altered · false operand)).getD .senseless

def wordCount (word : String) (text : List Char) : Nat :=
  (Text.pieces (fun c => !isNameChar c) text).count word.toList

def readParenthesized? : Nat → List Char → Option (List Char × List Char)
  | 0, _ => none
  | fuel + 1, text => do
    let (inner, after) ← readEnclosed '(' ')' 0 none text
    if wordCount "esac" inner < wordCount "case" inner then
      match readParenthesized? fuel after with
      | some (more, behind) => return (inner ++ ')' :: more, behind)
      | none => return (inner, after)
    else return (inner, after)

def readDollar (quoted : Bool) (text : List Char) : Except String (Part × List Char) :=
  match text with
  | '(' :: rest =>
    let expression? : Option (List Char × List Char) := do
      let '(' :: more := rest | none
      let (expression, after) ← readEnclosed '(' ')' 0 none more
      let ')' :: after := after | none
      return (expression, after)
    match expression?, readParenthesized? (rest.length + 1) rest with
    | some (expression, after), _ => .ok (.number expression quoted, after)
    | none, some (inner, after) =>
      if rest.head? == some '(' && !after.contains ')' then .error "Missing '))'"
      else .ok (.output inner quoted, after)
    | none, none => .error "end of file unexpected (expecting \")\")"
  | '\x7b' :: rest =>
    match readEnclosed '\x7b' '\x7d' 0 none rest with
    | some (inner, after) => .ok (bracedPart quoted inner, after)
    | none => .error "Missing '\x7d'"
  | c :: rest =>
    if Json.isDigit c || "?#@*$!-".toList.contains c then
      .ok (.value (String.ofList [c]) quoted, rest)
    else
      let name := text.takeWhile isNameChar
      if name.isEmpty then .ok (.text ['$'] quoted, text)
      else .ok (.value (String.ofList name) quoted, text.drop name.length)
  | [] => .ok (.text ['$'] quoted, [])

def readBackquoted (quoted : Bool) : List Char → Except String (List Char × List Char)
  | [] => .error "EOF in backquote substitution"
  | '\\' :: c :: rest =>
    (readBackquoted quoted rest).map fun (script, after) =>
      (if "$`\\".toList.contains c || (quoted && c == '"') then c :: script
        else '\\' :: c :: script, after)
  | c :: rest =>
    if c == '\x60' then .ok ([], rest)
    else (readBackquoted quoted rest).map fun (script, after) => (c :: script, after)

inductive Quoting where
  | ends
  | keeps
  | drops
deriving DecidableEq

def readQuoted (quoting : Quoting) : Nat → List Char → Except String (Word × List Char)
  | 0, _ => .error openQuote
  | _ + 1, [] => if quoting == .ends then .error openQuote else .ok ([], [])
  | fuel + 1, c :: rest =>
    if quoting == .ends && c == '"' then .ok ([], rest)
    else if quoting == .drops && c == '"' then readQuoted quoting fuel rest
    else do
      let (part, rest) ←
        if c == '$' then readDollar true rest
        else if c == '\x60' then
          (readBackquoted (quoting != .keeps) rest).map fun (script, after) =>
            (Part.output script true, after)
        else match c, rest with
          | '\\', '\n' :: rest => .ok (Part.text [] true, rest)
          | '\\', escaped :: rest =>
            let escapes := "$`\\".toList.contains escaped || (quoting != .keeps && escaped == '"')
            .ok (Part.text (if escapes then [escaped] else ['\\', escaped]) true, rest)
          | _, _ => .ok (Part.text [c] true, rest)
      let (word, rest) ← readQuoted quoting fuel rest
      return (part :: word, rest)

def readWord (ends : Char → Bool) : Nat → List Char → Except String (Word × List Char)
  | 0, text => .ok ([], text)
  | _ + 1, [] => .ok ([], [])
  | fuel + 1, c :: rest =>
    if ends c then .ok ([], c :: rest)
    else do
      let (parts, rest) ←
        if c == '\'' then
          let characters := rest.takeWhile (· != '\'')
          match rest.drop characters.length with
          | _ :: after => .ok ([Part.text characters true], after)
          | [] => .error openQuote
        else if c == '"' then
          (readQuoted .ends (rest.length + 1) rest).map fun (word, after) =>
            (.text [] true :: word, after)
        else if c == '$' then (readDollar false rest).map fun (part, after) => ([part], after)
        else if c == '\x60' then
          (readBackquoted false rest).map fun (script, after) => ([Part.output script false], after)
        else match c, rest with
          | '\\', '\n' :: after => .ok ([], after)
          | '\\', escaped :: after => .ok ([Part.text [escaped] true], after)
          | _, _ => .ok ([Part.text [c] false], rest)
      let (word, rest) ← readWord ends fuel rest
      return (parts ++ word, rest)

def wordOf (read : Except String (Word × List Char)) : Word :=
  match read with
  | .ok (word, _) => word
  | .error _ => [.senseless]

def documentWord (text : List Char) : Word :=
  wordOf (readQuoted .keeps (text.length + 1) text)

def operandWord (quoted : Bool) (text : List Char) : Word :=
  wordOf (if quoted then readQuoted .drops (text.length + 1) text
    else readWord (fun _ => false) (text.length + 1) text)

def readDocument (delimiter : List Char) (tabs : Bool) : Nat → List Char → List Char × List Char
  | 0, text => ([], text)
  | _ + 1, [] => ([], [])
  | fuel + 1, text =>
    let whole := text.takeWhile (· != '\n')
    let line := if tabs then whole.dropWhile (· == '\t') else whole
    let behind := text.drop (whole.length + 1)
    if line == delimiter then ([], behind)
    else if whole.length = text.length then (line, [])
    else
      let (lines, after) := readDocument delimiter tabs fuel behind
      (line ++ '\n' :: lines, after)

def readDocumentArrow (descriptor : Nat) (tabs : Bool) (text : List Char) :
    Except String (Token × List Char) := do
  let spaced := text.dropWhile fun c => c == ' ' || c == '\t'
  let (word, rest) ← readWord isMeta (spaced.length + 1) spaced
  let characters := word.flatMap fun
    | .text characters _ => characters
    | .value name _ => '$' :: name.toList
    | _ => []
  let line := rest.takeWhile (· != '\n')
  let (document, after) := readDocument characters tabs rest.length (rest.drop (line.length + 1))
  return (.arrow descriptor (.document document (word.all (!·.isQuoted))), line ++ '\n' :: after)

def readArrow? (descriptor : Option Nat) : List Char → Option (Except String (Token × List Char))
  | '>' :: '&' :: rest => some (.ok (.arrow (descriptor.getD 1) .channel, rest))
  | '>' :: '>' :: rest => some (.ok (.arrow (descriptor.getD 1) .append, rest))
  | '>' :: '|' :: rest => some (.ok (.arrow (descriptor.getD 1) .output, rest))
  | '>' :: rest => some (.ok (.arrow (descriptor.getD 1) .output, rest))
  | '<' :: '<' :: '-' :: rest => some (readDocumentArrow (descriptor.getD 0) true rest)
  | '<' :: '<' :: rest => some (readDocumentArrow (descriptor.getD 0) false rest)
  | '<' :: '&' :: rest => some (.ok (.arrow (descriptor.getD 0) .channel, rest))
  | '<' :: '>' :: rest => some (.ok (.arrow (descriptor.getD 0) .input, rest))
  | '<' :: rest => some (.ok (.arrow (descriptor.getD 0) .input, rest))
  | _ => none

def readOperator? : List Char → Option (Except String (Token × List Char))
  | '\n' :: rest => some (.ok (.newline, rest))
  | ';' :: ';' :: rest => some (.ok (.doubleSemicolon, rest))
  | ';' :: rest => some (.ok (.semicolon, rest))
  | '&' :: '&' :: rest => some (.ok (.both, rest))
  | '&' :: rest => some (.ok (.background, rest))
  | '|' :: '|' :: rest => some (.ok (.either, rest))
  | '|' :: rest => some (.ok (.bar, rest))
  | '(' :: rest => some (.ok (.opening, rest))
  | ')' :: rest => some (.ok (.closing, rest))
  | c :: rest =>
    if Json.isDigit c && rest.head?.any (fun next => next == '<' || next == '>') then
      readArrow? (some (c.toNat - '0'.toNat)) rest
    else readArrow? none (c :: rest)
  | [] => none

def lexemesFrom (lines : Nat) : Nat → List Char → List Lexeme
  | 0, _ | _ + 1, [] => [⟨.ended, lines + 1⟩]
  | fuel + 1, c :: rest =>
    if c == ' ' || c == '\t' then lexemesFrom lines fuel rest
    else if c == '#' then lexemesFrom lines fuel (rest.dropWhile (· != '\n'))
    else if c == '\\' && rest.head? == some '\n' then lexemesFrom lines fuel (rest.drop 1)
    else
      let read := match readOperator? (c :: rest) with
        | some read => read
        | none => (readWord isMeta (rest.length + 1) (c :: rest)).map fun (word, rest) =>
          (.word word, rest)
      match read with
      | .ok (token, rest) => ⟨token, lines + 1 - rest.count '\n'⟩ :: lexemesFrom lines fuel rest
      | .error text =>
        -- Braces that are not closed belong to the line on which their word starts.
        let start := lines + 1 - (c :: rest).count '\n'
        [⟨.unreadable text, if "Missing".toList.isPrefixOf text.toList then start else lines + 1⟩]

def lexemes (script : List Char) : List Lexeme :=
  lexemesFrom (script.count '\n') (2 * script.length + 2) script

end DialectLoader.Shell
