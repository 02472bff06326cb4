import DialectLoader.Json.Value
import DialectLoader.Machine.Ratio

/-!
# Tokens of scripts

A script is made of lines, and the indentation of a line tells the block that it belongs to: a line
that is indented further opens a block, and one that is indented less closes blocks. Within brackets
lines and indentation mean nothing. A token knows its line.

Strings stand in single or double quotes or in three of these, and letters before the quote say what
kind of string it is. Names may have letters beyond ASCII, but their spelling is not normalized.
-/

namespace DialectLoader.Script

/-- A token. Openings and ends of blocks are tokens too, so that the reader of statements sees no
indentation. -/
inductive Token where
  | name (text : String)
  | keyword (word : String)
  | integer (value : Nat)
  | real (value : Text.Ratio)
  | text (content : List Char)
  | bytes (content : List Char)
  | template (content : List Char) (isRaw : Bool)
  | sign (sign : String)
  | newline
  | indent
  | dedent
  | ended
deriving DecidableEq

structure Lexeme where
  token : Token
  line : Nat

/-- A problem with the text of a script: the kind of exception it counts as, a message and a
line. -/
structure Problem where
  kind : String
  text : String
  line : Nat

def keywords : List String :=
  ["False", "None", "True", "and", "as", "assert", "async", "await", "break", "class", "continue",
    "def", "del",
   "elif", "else", "except", "finally", "for", "from", "global", "if", "import", "in", "is",
   "lambda", "nonlocal", "not", "or", "pass", "raise", "return", "try", "while", "with", "yield"]

def signs : List String :=
  ["**=", "//=", ">>=", "<<=", "...", "!=", "->", ":=", "+=", "-=", "*=", "/=", "%=", "&=", "|=",
    "^=", "@=", "**",
   "//", ">>", "<<", "<=", ">=", "==", "+", "-", "*", "/", "%", "@", "&", "|", "^", "~", "<", ">",
   "(", ")", "[", "]", "\x7b", "\x7d", ",", ":", ".", ";", "=", "!"]

def startsName (c : Char) : Bool :=
  c.isAlpha || c == '_' || 0x80 ≤ c.toNat

def isNameChar (c : Char) : Bool :=
  startsName c || c.isDigit

def isDigitTo (base : Nat) (c : Char) : Bool :=
  (Json.hexValue? c).any (· < base)

def valueOf (base : Nat) (digits : List Char) : Nat :=
  digits.foldl (fun value c => base * value + (Json.hexValue? c).getD 0) 0

def unescape (isBytes : Bool) : Nat → List Char → List Char
  | 0, cs => cs
  | _ + 1, [] => []
  | fuel + 1, '\\' :: c :: rest =>
    let coded (base width : Nat) (rest : List Char) : List Char :=
      let digits := (rest.take width).takeWhile (isDigitTo base)
      Char.ofNat (valueOf base digits) :: unescape isBytes fuel (rest.drop digits.length)
    let plain (c : Char) : List Char := c :: unescape isBytes fuel rest
    match c with
    | '\n' => unescape isBytes fuel rest
    | '\\' | '\'' | '"' => plain c
    | 'n' => plain '\n'
    | 't' => plain '\t'
    | 'r' => plain '\r'
    | 'a' => plain '\x07'
    | 'b' => plain '\x08'
    | 'f' => plain '\x0c'
    | 'v' => plain '\x0b'
    | 'x' => coded 16 2 rest
    | _ =>
      if isDigitTo 8 c then coded 8 3 (c :: rest)
      else if c == 'u' && !isBytes then coded 16 4 rest
      else if c == 'U' && !isBytes then coded 16 8 rest
      else '\\' :: c :: unescape isBytes fuel rest
  | fuel + 1, c :: rest => c :: unescape isBytes fuel rest

def readQuoted? (quotes : List Char) : Nat → List Char → Option (List Char × List Char)
  | 0, _ | _ + 1, [] => none
  | fuel + 1, c :: rest =>
    if quotes.isPrefixOf (c :: rest) then some ([], (c :: rest).drop quotes.length)
    else
      match c, rest with
      | '\\', escaped :: rest => (readQuoted? quotes fuel rest).map fun (text, rest) =>
        ('\\' :: escaped :: text, rest)
      | '\n', _ =>
        if quotes.length = 1 then none
        else (readQuoted? quotes fuel rest).map fun (text, rest) => ('\n' :: text, rest)
      | _, _ => (readQuoted? quotes fuel rest).map fun (text, rest) => (c :: text, rest)

def stringLetters? (cs : List Char) : Option (List Char) :=
  let letters := cs.takeWhile Char.isAlpha
  let known := ["", "r", "b", "f", "u", "rb", "br", "rf", "fr"].contains
    (String.ofList (letters.map Char.toLower))
  match cs.drop letters.length with
  | c :: _ => if known && (c == '"' || c == '\'') then some (letters.map Char.toLower) else none
  | [] => none

def readNumber (cs : List Char) : Token × List Char :=
  let run (isPart : Char → Bool) (cs : List Char) : List Char × List Char :=
    let digits := cs.takeWhile fun c => isPart c || c == '_'
    (digits.filter (· != '_'), cs.drop digits.length)
  let based (base : Nat) (cs : List Char) : Token × List Char :=
    let (digits, rest) := run (isDigitTo base) cs
    (.integer (valueOf base digits), rest)
  match cs with
  | '0' :: 'x' :: rest | '0' :: 'X' :: rest => based 16 rest
  | '0' :: 'o' :: rest | '0' :: 'O' :: rest => based 8 rest
  | '0' :: 'b' :: rest | '0' :: 'B' :: rest => based 2 rest
  | _ =>
    let (digits, rest) := run Char.isDigit cs
    let isReal := match rest with
      | '.' :: _ => true
      | 'e' :: c :: _ | 'E' :: c :: _ => c.isDigit || c == '-' || c == '+'
      | _ => false
    if isReal then
      match Text.Ratio.readSize? (digits ++ rest) with
      | some (value, rest) => (.real value, rest)
      | none => (.integer (valueOf 10 digits), rest)
    else (.integer (valueOf 10 digits), rest)

/-- Where a reader is in a script: the line, the open brackets and the open blocks. -/
structure Cursor where
  line : Nat := 1
  depth : Nat := 0
  indents : List Nat := [0]
  atStart : Bool := true

def width (blanks : List Char) : Nat :=
  blanks.foldl (fun width c =>
    if c == '\t' then (width / 8 + 1) * 8 else if c == '\x0c' then 0 else width + 1) 0

def isLineBlank (c : Char) : Bool :=
  c == ' ' || c == '\t' || c == '\r' || c == '\x0c'

def closing (cursor : Cursor) : List Lexeme :=
  List.replicate (cursor.indents.length - 1) ⟨.dedent, cursor.line⟩ ++ [⟨.ended, cursor.line⟩]

def shift (width : Nat) (cursor : Cursor) : Except Problem (List Lexeme × Cursor) :=
  let outer := cursor.indents.dropWhile (width < ·)
  let before := cursor.indents.headD 0
  if before < width then
    .ok ([⟨.indent, cursor.line⟩],
      { cursor with indents := width :: cursor.indents, atStart := false })
  else if outer.headD 0 == width then
    .ok (List.replicate (cursor.indents.length - outer.length) ⟨.dedent, cursor.line⟩,
      { cursor with indents := outer, atStart := false })
  else
    .error ⟨"IndentationError", "unindent does not match any outer indentation level", cursor.line⟩

def scan : Nat → Cursor → List Char → Except Problem (List Lexeme)
  | 0, cursor, _ => .ok (closing cursor)
  | fuel + 1, cursor, cs =>
    if cursor.atStart then
      let blanks := cs.takeWhile isLineBlank
      match cs.drop blanks.length with
      | [] => .ok (closing cursor)
      | '\n' :: rest => scan fuel { cursor with line := cursor.line + 1 } rest
      | '#' :: rest => scan fuel cursor (rest.dropWhile (· != '\n'))
      | rest => do
        let (tokens, cursor) ← shift (width blanks) cursor
        return tokens ++ (← scan fuel cursor rest)
    else
      let found (token : Token) (rest : List Char) : Except Problem (List Lexeme) := do
        let depth := match token with
          | .sign "(" | .sign "[" | .sign "\x7b" => cursor.depth + 1
          | .sign ")" | .sign "]" | .sign "\x7d" => cursor.depth - 1
          | _ => cursor.depth
        return ⟨token, cursor.line⟩ :: (← scan fuel { cursor with depth } rest)
      match cs with
      | [] => .ok (⟨.newline, cursor.line⟩ :: closing cursor)
      | c :: rest =>
        if isLineBlank c then scan fuel cursor rest
        else if c == '\n' then
          let next := { cursor with line := cursor.line + 1 }
          if 0 < cursor.depth then scan fuel next rest
          else do return ⟨.newline, cursor.line⟩ :: (← scan fuel { next with atStart := true } rest)
        else if c == '#' then scan fuel cursor (rest.dropWhile (· != '\n'))
        else if c == '\\' && rest.head? == some '\n' then
          scan fuel { cursor with line := cursor.line + 1 } (rest.drop 1)
        else
          match stringLetters? cs with
          | some letters =>
            let behind := cs.drop letters.length
            let quote := behind.head?.toList
            let triple := quote ++ quote ++ quote
            let quotes := if triple.isPrefixOf behind then triple else quote
            match readQuoted? quotes (cs.length + 1) (behind.drop quotes.length) with
            | none =>
              .error ⟨"SyntaxError", if quotes.length = 1 then
                "unterminated string literal (detected at line " ++
                  String.ofList (Text.decimal cursor.line) ++ ")"
                else "unterminated triple-quoted string literal", cursor.line⟩
            | some (written, rest) =>
              let isRaw := letters.contains 'r'
              let isBytes := letters.contains 'b'
              let content := if isRaw then written
                else unescape isBytes (written.length + 1) written
              let token := if letters.contains 'f' then Token.template written isRaw
                else if isBytes then .bytes content else .text content
              let lines := written.count '\n'
              do return ⟨token, cursor.line⟩ ::
                (← scan fuel { cursor with line := cursor.line + lines } rest)
          | none =>
            if c.isDigit || (c == '.' && rest.head?.any Char.isDigit) then
              let (number, rest) := readNumber cs
              found number rest
            else if startsName c then
              let run := cs.takeWhile isNameChar
              let word := String.ofList run
              found (if keywords.contains word then .keyword word else .name word)
                (cs.drop run.length)
            else
              match signs.find? fun sign => sign.toList.isPrefixOf cs with
              | some sign => found (.sign sign) (cs.drop sign.length)
              | none => .error ⟨"SyntaxError", "invalid syntax", cursor.line⟩

def tokens (text : List Char) : Except Problem (List Lexeme) :=
  scan (2 * text.length + 2) {} text

def innerTokens (line : Nat) (text : List Char) : Except Problem (List Lexeme) :=
  scan (2 * text.length + 2) { line, depth := 1, atStart := false } text

end DialectLoader.Script
