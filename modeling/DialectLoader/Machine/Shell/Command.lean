import DialectLoader.Machine.Shell.Word

/-!
# Commands of shell scripts

A script is a list of commands. A simple command sets variables or names a tool with its arguments.
Other commands choose what to run or run commands repeatedly: by matching a word with patterns, by
the success of a condition, or for every word of a list. Commands are joined by pipes and by the
success of the one before, and their channels can be sent elsewhere.

Commands are read from tokens. What cannot be read is a problem with a line and a message that tells
what was met and, where only one thing can follow, what was expected. Other names for commands are
not put in while a script is read.
-/

namespace DialectLoader.Shell

/-- Where a redirected channel leads. Paths are words still, since they are expanded when the
command runs. -/
inductive Target where
  | input (path : Word)
  | output (path : Word) (append : Bool)
  | channel (number : Word)
  | document (text : List Char) (expands : Bool)
deriving DecidableEq

/-- A redirection of one channel. Redirections take effect in their order, so a later one can refer
to an earlier one. -/
structure Route where
  descriptor : Nat
  target : Target
deriving DecidableEq

inductive Command where
  | simple (line : Nat) (assignments : List (String × Word)) (words : List Word)
    (routes : List Route)
  | choose (subject : Word) (arms : List (List Word × List Command))
  | branch (condition success failure : List Command)
  | follow (first : Command) (success : Bool) (second : Command)
  | pipe (first second : Command)
  | negate (command : Command)
  | group (commands : List Command)
  | apart (commands : List Command)
  | background (command : Command)
  | loop (condition : List Command) (success : Bool) (body : List Command)
  | each (name : String) (words : Option (List Word)) (body : List Command)
  | define (name : String) (body : Command)
  | routed (command : Command) (routes : List Route)

namespace Command

/-- A problem with the text of a script: its line and a message. -/
structure Problem where
  line : Nat
  text : String

def keyword? : Token → Option String
  | .word parts => do
    let texts ← parts.mapM fun
      | .text characters false => some characters
      | _ => none
    return String.ofList texts.flatten
  | _ => none

def nextKeyword? (lexemes : List Lexeme) : Option String :=
  lexemes.head?.bind fun lexeme => keyword? lexeme.token

def keywords : List String :=
  ["!", "case", "do", "done", "elif", "else", "esac", "fi", "for", "if", "in", "then", "until",
    "while",
   "\x7b", "\x7d"]

def closingKeywords : List String :=
  ["then", "elif", "else", "fi", "esac", "do", "done", "\x7d"]

def describe (token : Token) : String :=
  match token with
  | .word _ =>
    match keyword? token with
    | some known => if keywords.contains known then "\"" ++ known ++ "\"" else "word"
    | none => "word"
  | .newline => "newline"
  | .semicolon => "\";\""
  | .doubleSemicolon => "\";;\""
  | .background => "\"&\""
  | .bar => "\"|\""
  | .both => "\"&&\""
  | .either => "\"||\""
  | .opening => "\"(\""
  | .closing => "\")\""
  | .arrow .. => "redirection"
  | .ended | .unreadable _ => "end of file"

def unexpected {α : Type} (lexemes : List Lexeme) (expected : Option String) : Except Problem α :=
  let lexeme := lexemes.headD ⟨.ended, 1⟩
  match lexeme.token with
  | .unreadable text => .error ⟨lexeme.line, text⟩
  | token =>
    let hint := match expected with
      | some text => " (expecting " ++ text ++ ")"
      | none => ""
    .error ⟨lexeme.line, describe token ++ " unexpected" ++ hint⟩

def endsList (lexemes : List Lexeme) : Bool :=
  match lexemes.head? with
  | none => true
  | some lexeme =>
    lexeme.token == .doubleSemicolon || lexeme.token == .closing || lexeme.token == .ended ||
      (keyword? lexeme.token).any (closingKeywords.contains ·)

def skipNewlines (lexemes : List Lexeme) : List Lexeme :=
  lexemes.dropWhile (·.token == .newline)

def expect (keyword : String) (lexemes : List Lexeme) : Except Problem (List Lexeme) :=
  if nextKeyword? lexemes == some keyword then .ok (lexemes.drop 1)
  else unexpected lexemes (some ("\"" ++ keyword ++ "\""))

def expectClosing (lexemes : List Lexeme) : Except Problem (List Lexeme) :=
  match lexemes with
  | ⟨.closing, _⟩ :: rest => .ok rest
  | _ => unexpected lexemes (some "\")\"")

def assignment? (word : Word) : Option (String × Word) :=
  let character? : Part → Option Char
    | .text [c] false => some c
    | _ => none
  let name := word.takeWhile fun part => (character? part).any isNameChar
  match word.drop name.length with
  | .text ['='] false :: value =>
    let letters := name.filterMap character?
    if letters.head?.all Json.isDigit then none else some (String.ofList letters, value)
  | _ => none

def declares (words : List Word) : Bool :=
  let named := words.dropWhile fun word => keyword? (.word word) == some "command"
  named.head?.any fun word => (keyword? (.word word)).any ["export", "readonly", "local"].contains

def readRoute (descriptor : Nat) (arrow : Arrow) (lexemes : List Lexeme) :
    Except Problem (Route × List Lexeme) :=
  match arrow, lexemes with
  | .document text expands, _ => .ok (⟨descriptor, .document text expands⟩, lexemes)
  | .input, ⟨.word path, _⟩ :: rest => .ok (⟨descriptor, .input path⟩, rest)
  | .output, ⟨.word path, _⟩ :: rest => .ok (⟨descriptor, .output path false⟩, rest)
  | .append, ⟨.word path, _⟩ :: rest => .ok (⟨descriptor, .output path true⟩, rest)
  | .channel, ⟨.word number, _⟩ :: rest => .ok (⟨descriptor, .channel number⟩, rest)
  | _, _ => unexpected lexemes none

def readRoutes : Nat → List Lexeme → Except Problem (List Route × List Lexeme)
  | fuel + 1, ⟨.arrow descriptor arrow, _⟩ :: rest => do
    let (route, rest) ← readRoute descriptor arrow rest
    let (routes, rest) ← readRoutes fuel rest
    return (route :: routes, rest)
  | _, lexemes => .ok ([], lexemes)

def readSimple (line : Nat) :
    Nat → List (String × Word) → List Word → List Route → List Lexeme →
    Except Problem (Command × List Lexeme)
  | 0, assignments, words, routes, lexemes => .ok (.simple line assignments words routes, lexemes)
  | fuel + 1, assignments, words, routes, lexemes =>
    match lexemes with
    | ⟨.word word, _⟩ :: rest =>
      match assignment? word, words with
      | some assignment, [] => readSimple line fuel (assignments ++ [assignment]) words routes rest
      | _, _ => readSimple line fuel assignments (words ++ [word]) routes rest
    | ⟨.arrow descriptor arrow, _⟩ :: rest => do
      let (route, rest) ← readRoute descriptor arrow rest
      readSimple line fuel assignments words (routes ++ [route]) rest
    | _ => .ok (.simple line assignments words routes, lexemes)

def readWords : List Lexeme → List Word × List Lexeme
  | ⟨.word word, _⟩ :: rest => let (words, rest) := readWords rest; (word :: words, rest)
  | lexemes => ([], lexemes)

def readPatterns : List Lexeme → Except Problem (List Word × List Lexeme)
  | ⟨.word word, _⟩ :: ⟨.bar, _⟩ :: rest => do
    let (words, rest) ← readPatterns rest
    return (word :: words, rest)
  | ⟨.word word, _⟩ :: rest => do return ([word], ← expectClosing rest)
  | lexemes => unexpected lexemes (some "\")\"")

def isName (text : List Char) : Bool :=
  match text with
  | c :: rest => isNameChar c && !Json.isDigit c && rest.all isNameChar
  | [] => false

mutual

def readList : Nat → Bool → List Lexeme → Except Problem (List Command × List Lexeme)
  | 0, _, lexemes => unexpected lexemes none
  | fuel + 1, any, lexemes => do
    let lexemes := skipNewlines lexemes
    let isOver := (lexemes.head?.map (·.token)).getD .ended == .ended
    if isOver || (!any && endsList lexemes) then return ([], lexemes)
    let (command, rest) ← readAndOr fuel lexemes
    match rest with
    | ⟨.newline, _⟩ :: more | ⟨.semicolon, _⟩ :: more =>
      let (others, rest) ← readList fuel false more
      return (command :: others, rest)
    | ⟨.background, _⟩ :: more =>
      let (others, rest) ← readList fuel false more
      return (.background command :: others, rest)
    | _ => return ([command], rest)

def readAndOr : Nat → List Lexeme → Except Problem (Command × List Lexeme)
  | 0, lexemes => unexpected lexemes none
  | fuel + 1, lexemes => do
    let (first, rest) ← readPipe fuel lexemes
    readFollowing fuel first rest

def readFollowing : Nat → Command → List Lexeme → Except Problem (Command × List Lexeme)
  | 0, _, lexemes => unexpected lexemes none
  | fuel + 1, first, lexemes =>
    match lexemes with
    | ⟨.both, _⟩ :: rest => do
      let (second, rest) ← readPipe fuel (skipNewlines rest)
      readFollowing fuel (.follow first true second) rest
    | ⟨.either, _⟩ :: rest => do
      let (second, rest) ← readPipe fuel (skipNewlines rest)
      readFollowing fuel (.follow first false second) rest
    | _ => .ok (first, lexemes)

def readPipe : Nat → List Lexeme → Except Problem (Command × List Lexeme)
  | 0, lexemes => unexpected lexemes none
  | fuel + 1, lexemes =>
    if nextKeyword? lexemes == some "!" then do
      let (command, rest) ← readPipe fuel (lexemes.drop 1)
      return (.negate command, rest)
    else do
      let (first, rest) ← read fuel lexemes
      readPiped fuel first rest

def readPiped : Nat → Command → List Lexeme → Except Problem (Command × List Lexeme)
  | 0, _, lexemes => unexpected lexemes none
  | fuel + 1, first, lexemes =>
    match lexemes with
    | ⟨.bar, _⟩ :: rest => do
      let (second, rest) ← read fuel (skipNewlines rest)
      readPiped fuel (.pipe first second) rest
    | _ => .ok (first, lexemes)

def read : Nat → List Lexeme → Except Problem (Command × List Lexeme)
  | 0, lexemes => unexpected lexemes none
  | fuel + 1, lexemes => do
    match ← readCompound fuel lexemes with
    | some (command, rest) =>
      let (routes, rest) ← readRoutes rest.length rest
      return (if routes.isEmpty then command else .routed command routes, rest)
    | none =>
      let line := (lexemes.head?.map (·.line)).getD 1
      let known := (nextKeyword? lexemes).any (keywords.contains ·)
      let (command, rest) ← readSimple line lexemes.length [] [] [] lexemes
      if known || rest.length == lexemes.length then unexpected lexemes none
      else return (command, rest)

def readCompound : Nat → List Lexeme → Except Problem (Option (Command × List Lexeme))
  | 0, lexemes => unexpected lexemes none
  | fuel + 1, lexemes =>
    match nextKeyword? lexemes, lexemes with
    | some "case", _ :: rest =>
      match rest with
      | ⟨.word subject, _⟩ :: rest => do
        let (arms, rest) ← readArms fuel (← expect "in" (skipNewlines rest))
        return some (.choose subject arms, rest)
      | _ => unexpected rest (some "word")
    | some "if", _ :: rest => (readBranch fuel rest).map some
    | some "while", _ :: rest => (readLoop fuel true rest).map some
    | some "until", _ :: rest => (readLoop fuel false rest).map some
    | some "for", _ :: rest =>
      match rest.head?.map fun lexeme => (keyword? lexeme.token, lexeme.line) with
      | some (some name, line) => do
        if !isName name.toList then .error ⟨line, "Bad for loop variable"⟩
        let behind := skipNewlines (rest.drop 1)
        let (words, rest) ← match nextKeyword? behind, rest.drop 1 with
          | some "in", _ =>
            let (words, rest) := readWords (behind.drop 1)
            match rest with
            | ⟨.newline, _⟩ :: rest | ⟨.semicolon, _⟩ :: rest => pure (some words, rest)
            | _ => unexpected rest none
          | _, ⟨.semicolon, _⟩ :: rest => pure (none, rest)
          | _, _ => pure (none, behind)
        let (body, rest) ← readBody fuel (skipNewlines rest)
        return some (.each name words body, rest)
      | other => .error ⟨(other.map (·.2)).getD 1, "Bad for loop variable"⟩
    | some "\x7b", _ :: rest => do
      let (commands, rest) ← readList fuel true rest
      return some (.group commands, ← expect "\x7d" rest)
    | some name, _ :: ⟨.opening, line⟩ :: rest => do
      let rest ← expectClosing rest
      if !isName name.toList then .error ⟨line, "Bad function name"⟩
      let (body, rest) ← read fuel (skipNewlines rest)
      return some (.define name body, rest)
    | _, ⟨.opening, _⟩ :: rest => do
      let (commands, rest) ← readList fuel true rest
      return some (.apart commands, ← expectClosing rest)
    | _, _ => .ok none

def readLoop : Nat → Bool → List Lexeme → Except Problem (Command × List Lexeme)
  | 0, _, lexemes => unexpected lexemes none
  | fuel + 1, success, lexemes => do
    let (condition, rest) ← readList fuel true lexemes
    let (body, rest) ← readBody fuel rest
    return (.loop condition success body, rest)

def readBody : Nat → List Lexeme → Except Problem (List Command × List Lexeme)
  | 0, lexemes => unexpected lexemes none
  | fuel + 1, lexemes => do
    let (body, rest) ← readList fuel true (← expect "do" lexemes)
    return (body, ← expect "done" rest)

def readBranch : Nat → List Lexeme → Except Problem (Command × List Lexeme)
  | 0, lexemes => unexpected lexemes none
  | fuel + 1, lexemes => do
    let (condition, rest) ← readList fuel true lexemes
    let (success, rest) ← readList fuel true (← expect "then" rest)
    match nextKeyword? rest with
    | some "elif" =>
      let (other, rest) ← readBranch fuel (rest.drop 1)
      return (.branch condition success [other], rest)
    | some "else" =>
      let (failure, rest) ← readList fuel true (rest.drop 1)
      return (.branch condition success failure, ← expect "fi" rest)
    | _ => return (.branch condition success [], ← expect "fi" rest)

def readArms : Nat → List Lexeme → Except Problem (List (List Word × List Command) × List Lexeme)
  | 0, lexemes => unexpected lexemes none
  | fuel + 1, lexemes => do
    let lexemes := skipNewlines lexemes
    if nextKeyword? lexemes == some "esac" then return ([], lexemes.drop 1)
    let opened := match lexemes with
      | ⟨.opening, _⟩ :: rest => rest
      | _ => lexemes
    let (patterns, rest) ← readPatterns opened
    let (commands, rest) ← readList fuel false rest
    match rest with
    | ⟨.doubleSemicolon, _⟩ :: rest =>
      let (arms, rest) ← readArms fuel rest
      return ((patterns, commands) :: arms, rest)
    | _ =>
      if nextKeyword? rest == some "esac" then return ([(patterns, commands)], rest.drop 1)
      else unexpected rest (some "\";;\"")

end

def readingLimit (lexemes : List Lexeme) : Nat :=
  10 * lexemes.length + 10

def readLine : Nat → List Lexeme → Except Problem (Option (List Command × List Lexeme))
  | 0, lexemes => unexpected lexemes none
  | fuel + 1, lexemes =>
    match lexemes with
    | [] | ⟨.ended, _⟩ :: _ => .ok none
    | ⟨.newline, _⟩ :: rest => readLine fuel rest
    | _ => (readFurther (fuel + 1) lexemes).map some
where
  readFurther : Nat → List Lexeme → Except Problem (List Command × List Lexeme)
    | 0, lexemes => unexpected lexemes none
    | fuel + 1, lexemes => do
      let (command, rest) ← readAndOr (readingLimit lexemes) lexemes
      let (command, rest, goesOn) ← match rest with
        | ⟨.newline, _⟩ :: rest => pure (command, rest, false)
        | ⟨.ended, _⟩ :: _ => pure (command, rest, false)
        | ⟨.semicolon, _⟩ :: rest => pure (command, rest, true)
        | ⟨.background, _⟩ :: rest => pure (.background command, rest, true)
        | _ => unexpected rest none
      match goesOn, rest with
      | true, ⟨.newline, _⟩ :: rest => return ([command], rest)
      | true, ⟨.ended, _⟩ :: _ => return ([command], rest)
      | true, _ =>
        let (others, rest) ← readFurther fuel rest
        return (command :: others, rest)
      | false, _ => return ([command], rest)

end Command

end DialectLoader.Shell
