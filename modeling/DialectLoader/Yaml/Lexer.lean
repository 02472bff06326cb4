import DialectLoader.Yaml.Scalar
import DialectLoader.Yaml.Tag

/-!
# From text to tokens

The lexer keeps the indentation of the open block collections and, for every level of brackets, the
place of a scalar, alias or bracket that may turn out to be a key. A colon makes it one: the tokens
of the key, and of the block mapping if the key opens one, are put before it afterwards. A key has
to be on one line and no longer than 1024 bytes. In a block a scalar at the indentation of an open
mapping has to be a key. A byte order mark that starts a line is skipped and takes up a column.
-/

namespace DialectLoader.Yaml

/-- A place that may turn out to be a key. It keeps what is needed to put the tokens of a key before
it afterwards. -/
structure Candidate where
  /-- Whether it has to be a key, so that giving it up is an error. -/
  required : Bool
  /-- The number of tokens before it. -/
  tokenIndex : Nat
  offset : Nat
  line : Nat
  column : Nat

/-- The state of the lexer between two tokens. It has to look back but never ahead by more than a
few characters. -/
structure Lexer where
  cursor : Cursor
  /-- One more than the column of each open block collection, innermost first. -/
  indents : List Nat := []
  /-- The candidate of each bracket level, innermost first; the last is that of the block level. -/
  candidates : List (Option Candidate) := [none]
  keyAllowed : Bool := true
  /-- The tokens so far, latest first. -/
  tokens : List Token := []
  /-- The number of tokens so far. -/
  count : Nat := 0
  /-- The length of the whole text, which bounds every loop. -/
  size : Nat

namespace Lexer

/-- One more than the column of the innermost open block collection, zero without one. -/
def indent (lexer : Lexer) : Nat :=
  lexer.indents.headD 0

def inFlow (lexer : Lexer) : Bool :=
  1 < lexer.candidates.length

def push (lexer : Lexer) (token : Token) : Lexer :=
  { lexer with tokens := token :: lexer.tokens, count := lexer.count + 1 }

/-- Puts a token behind the first `index` ones. Only a key that was recognised late needs this. -/
def insertAt (lexer : Lexer) (index : Nat) (token : Token) : Lexer :=
  let behind := lexer.count - index
  { lexer with
    tokens := lexer.tokens.take behind ++ token :: lexer.tokens.drop behind
    count := lexer.count + 1 }

def setCandidate (lexer : Lexer) (candidate : Option Candidate) : Lexer :=
  { lexer with candidates := candidate :: lexer.candidates.drop 1 }

def candidate? (lexer : Lexer) : Option Candidate :=
  lexer.candidates.head?.join

/-- Gives up the candidate of the current level, which must not be a required one. -/
def dropCandidate? (lexer : Lexer) : Option Lexer :=
  if lexer.candidate?.any (·.required) then none else some (lexer.setCandidate none)

/-- Remembers the current place as a candidate where keys are allowed. An earlier candidate of the
level is given up by this. -/
def noteCandidate? (lexer : Lexer) : Option Lexer :=
  if lexer.keyAllowed then do
    let candidate : Candidate := {
      required := !lexer.inFlow && lexer.indent == lexer.cursor.column + 1
      tokenIndex := lexer.count
      offset := lexer.cursor.offset
      line := lexer.cursor.line
      column := lexer.cursor.column }
    return (← lexer.dropCandidate?).setCandidate (some candidate)
  else some lexer

/-- Opens a block collection at a column if that is deeper than the open ones. Inside brackets there
are none to open. -/
def openBlock (lexer : Lexer) (column index : Nat) (token : Token) : Lexer :=
  if lexer.inFlow || column + 1 ≤ lexer.indent then lexer
  else { lexer with indents := (column + 1) :: lexer.indents }.insertAt index token

/-- Closes the block collections that are deeper than a level, given as one more than a column.
Inside brackets nothing is closed. -/
def closeBlocks (lexer : Lexer) (level : Nat) : Lexer :=
  if lexer.inFlow then lexer
  else
    let closed := (lexer.indents.takeWhile (level < ·)).length
    { lexer with
      indents := lexer.indents.drop closed
      tokens := List.replicate closed .blockEnd ++ lexer.tokens
      count := lexer.count + closed }

def moveTo (lexer : Lexer) (cursor : Cursor) : Lexer :=
  { lexer with cursor }

def allowKey (lexer : Lexer) (allowed : Bool) : Lexer :=
  { lexer with keyAllowed := allowed }

/-- Skips blanks, comments and line breaks. Tabulators are skipped only where no key can start. The
fuel is the length of the text. -/
def skipSpace : Nat → Lexer → Lexer
  | 0, lexer => lexer
  | fuel + 1, lexer =>
    let cursor := if lexer.cursor.column == 0 && lexer.cursor.sees '\ufeff' then lexer.cursor.skip 1
      else lexer.cursor
    let tabs := lexer.inFlow || !lexer.keyAllowed
    let cursor := (cursor.skipWhile fun c => c == ' ' || (tabs && c == '\t')).skipComment
    if cursor.peek.any isBreak then
      skipSpace fuel ((lexer.moveTo cursor.skipBreak).allowKey (lexer.keyAllowed || !lexer.inFlow))
    else lexer.moveTo cursor

def endDocument? (lexer : Lexer) : Option Lexer :=
  ((lexer.closeBlocks 0).dropCandidate?).map (·.allowKey false)

/-- An opening bracket. It may itself start a key, and gets a level for the keys inside. -/
def openFlow? (lexer : Lexer) (token : Token) : Option Lexer := do
  let noted ← lexer.noteCandidate?
  return { noted.push token with
    candidates := none :: noted.candidates
    keyAllowed := true
    cursor := noted.cursor.skip 1 }

/-- A closing bracket. Which bracket it closes is checked when the tokens are read, not here. -/
def closeFlow? (lexer : Lexer) (token : Token) : Option Lexer := do
  let dropped ← lexer.dropCandidate?
  return { dropped.push token with
    candidates := if dropped.inFlow then dropped.candidates.drop 1 else dropped.candidates
    keyAllowed := false
    cursor := dropped.cursor.skip 1 }

def flowEntry? (lexer : Lexer) : Option Lexer :=
  lexer.dropCandidate?.map fun dropped =>
    ((dropped.push .flowEntry).allowKey true).moveTo (dropped.cursor.skip 1)

/-- A dash before an entry of a block sequence. In a block it needs a place where a key could start;
a dash inside brackets is left to the reader of the tokens, which refuses it. -/
def blockEntry? (lexer : Lexer) : Option Lexer := do
  guard (lexer.inFlow || lexer.keyAllowed)
  let opened := lexer.openBlock lexer.cursor.column lexer.count .blockSequenceStart
  let dropped ← opened.dropCandidate?
  return ((dropped.push .blockEntry).allowKey true).moveTo (dropped.cursor.skip 1)

/-- A question mark before a key. In a block it may open the mapping that the key belongs to. -/
def explicitKey? (lexer : Lexer) : Option Lexer := do
  guard (lexer.inFlow || lexer.keyAllowed)
  let opened := lexer.openBlock lexer.cursor.column lexer.count .blockMappingStart
  let dropped ← opened.dropCandidate?
  return ((dropped.push .key).allowKey (!dropped.inFlow)).moveTo (dropped.cursor.skip 1)

/-- Whether a candidate can still become a key: on the same line, and not too far back. -/
def isLive (lexer : Lexer) (candidate : Candidate) : Bool :=
  candidate.line == lexer.cursor.line && lexer.cursor.offset ≤ candidate.offset + 1024

/-- A colon before a value. The key, if there is a candidate for one, gets its tokens now. -/
def value? (lexer : Lexer) : Option Lexer :=
  let finish (lexer : Lexer) := (lexer.push .value).moveTo (lexer.cursor.skip 1)
  match lexer.candidate? with
  | some candidate =>
    if lexer.isLive candidate then
      let keyed :=
        (lexer.insertAt candidate.tokenIndex .key).openBlock candidate.column candidate.tokenIndex
        .blockMappingStart
      some (finish ((keyed.setCandidate none).allowKey false))
    else if candidate.required then none
    else complexValue? finish (lexer.setCandidate none)
  | none => complexValue? finish lexer
where
  /-- A colon that no candidate precedes. -/
  complexValue? (finish : Lexer → Lexer) (lexer : Lexer) : Option Lexer := do
    guard (lexer.inFlow || lexer.keyAllowed)
    let opened := lexer.openBlock lexer.cursor.column lexer.count .blockMappingStart
    return finish (opened.allowKey (!opened.inFlow))

/-- A scalar, alias, anchor or tag that may start a key. Behind it, on the same line, no other key
can start. -/
def item? (lexer : Lexer) (read : Cursor → Option (Token × Cursor)) : Option Lexer := do
  let noted ← lexer.noteCandidate?
  let (token, after) ← read noted.cursor
  return ((noted.push token).allowKey false).moveTo after

/-- A plain scalar. A key may follow on a new line, but not behind the scalar itself. -/
def plain? (lexer : Lexer) : Option Lexer := do
  let noted ← lexer.noteCandidate?
  let (text, broken, after) ← readPlain lexer.inFlow lexer.indent lexer.size lexer.size []
      {} noted.cursor
  return ((noted.push (.scalar (String.ofList text) .plain)).allowKey broken).moveTo after

/-- A block scalar. It takes whole lines, so a key may follow. -/
def block? (lexer : Lexer) (folds : Bool) : Option Lexer := do
  let dropped ← lexer.dropCandidate?
  let (text, after) ← readBlock folds lexer.indent lexer.size (dropped.cursor.skip 1)
  return ((dropped.push
    (.scalar (String.ofList text) (if folds then .folded else .literal))).allowKey true).moveTo
    after

/-- Whether a plain scalar starts here. Indicators cannot start one, except a few that no space
follows. -/
def startsPlain (lexer : Lexer) (c : Char) : Bool :=
  !(isBlank c || "-?:,[]\x7b\x7d#&*!|>'\"%@`".toList.contains c) ||
    (c == '-' && !(lexer.cursor.peekAt 1).any isBlank) ||
    (!lexer.inFlow && (c == '?' || c == ':') && !lexer.cursor.spaceAt 1)

def readQuotedToken? (single : Bool) (size : Nat) (cursor : Cursor) : Option (Token × Cursor) := do
  let (text, after) ← readQuoted single size size [] (cursor.skip 1)
  return (.scalar (String.ofList text) .quoted, after)

/-- Reads the token that starts with the given character. Indicators are tried first, so a plain
scalar is what is left. -/
def token? (lexer : Lexer) (c : Char) : Option Lexer :=
  let cursor := lexer.cursor
  let spaced := lexer.inFlow || cursor.spaceAt 1
  if cursor.column == 0 && c == '%' then do
    let ended ← lexer.endDocument?
    let (token, after) ← readDirective? (cursor.skip 1)
    return (ended.push token).moveTo after
  else if cursor.atMarker "---" then
    lexer.endDocument?.map fun ended => (ended.push .documentStart).moveTo (cursor.skip 3)
  else if cursor.atMarker "..." then
    lexer.endDocument?.map fun ended => (ended.push .documentEnd).moveTo (cursor.skip 3)
  else if c == '[' then lexer.openFlow? .flowSequenceStart
  else if c == '\x7b' then lexer.openFlow? .flowMappingStart
  else if c == ']' then lexer.closeFlow? .flowSequenceEnd
  else if c == '\x7d' then lexer.closeFlow? .flowMappingEnd
  else if c == ',' then lexer.flowEntry?
  else if c == '-' && cursor.spaceAt 1 then lexer.blockEntry?
  else if c == '?' && spaced then lexer.explicitKey?
  else if c == ':' && spaced then lexer.value?
  else if c == '*' then
    lexer.item? fun cursor => (readName? (cursor.skip 1)).map fun (name, after) =>
      (.alias name, after)
  else if c == '&' then
    lexer.item? fun cursor => (readName? (cursor.skip 1)).map fun (name, after) =>
      (.anchor name, after)
  else if c == '!' then lexer.item? (readTag? lexer.inFlow)
  else if c == '|' && !lexer.inFlow then lexer.block? false
  else if c == '>' && !lexer.inFlow then lexer.block? true
  else if c == '\'' then lexer.item? (readQuotedToken? true lexer.size)
  else if c == '"' then lexer.item? (readQuotedToken? false lexer.size)
  else if lexer.startsPlain c then lexer.plain?
  else none

/-- Reads all tokens. Every round reads at least one character, so the length of the text is fuel
enough. -/
def run : Nat → Lexer → Option (List Token)
  | 0, _ => none
  | fuel + 1, lexer =>
    let lexer := skipSpace lexer.size lexer
    let lexer := lexer.closeBlocks (lexer.cursor.column + 1)
    match lexer.cursor.peek with
    | none => ((lexer.closeBlocks 0).dropCandidate?).map (·.tokens.reverse)
    | some c => (lexer.token? c).bind (run fuel)

end Lexer

/-- The tokens of a text, if it is made of printable characters and well-formed tokens. -/
def Token.scan? (text : String) : Option (List Token) :=
  let size := text.length + 1
  if text.toList.all isPrintable then Lexer.run size { cursor := { rest := text.toList }, size }
  else none

end DialectLoader.Yaml
