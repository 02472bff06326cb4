import DialectLoader.Machine.Tools.Format
import DialectLoader.Machine.Tools.Regex

/-!
# Tokens of report programs

A report program is made of numbers, strings, regular expressions between slashes, names, keywords
and signs. A slash starts an expression where no operand stands before it, else it divides. A
newline is a token; comments and continued lines are left out.

The functions of the language that are listed here are recognised by their names. Not all of them do
something; `Report.Run` says which.
-/

namespace DialectLoader.Report

/-- A token. It keeps no place in the text; how many tokens are left tells the line of a mistake. -/
inductive Token where
  | number (value : Text.Ratio)
  | string (text : List Char)
  | regex (spelled : List Char)
  | name (name : String)
  | call (name : String)
  | keyword (word : String)
  | builtin (name : String)
  | sign (sign : String)
  | newline
  | ended
deriving DecidableEq

def keywords : List String :=
  ["BEGIN", "END", "function", "func", "if", "else", "while", "for", "do", "break", "continue",
    "next", "nextfile",
   "exit", "return", "delete", "in", "getline", "print", "printf"]

def builtinNames : List String :=
  ["length", "substr", "index", "split", "sub", "gsub", "match", "sprintf", "tolower", "toupper",
    "int", "sqrt",
   "exp", "log", "sin", "cos", "atan2", "rand", "srand", "system", "close", "fflush"]

def signs : List String :=
  ["&&", "||", "++", "--", "+=", "-=", "*=", "/=", "%=", "^=", "==", "<=", ">=", "!=", "!~", ">>",
   "\x7b", "\x7d", "(", ")", "[", "]", ";", ",", "+", "-", "*", "/", "%", "^", "!", ">", "<", "|",
   "?", ":", "~", "$", "="]

def Token.endsOperand : Token → Bool
  | .number _ | .string _ | .regex _ | .name _ | .builtin _ => true
  | .sign ")" | .sign "]" | .sign "$" | .sign "++" | .sign "--" => true
  | _ => false

def readString : Nat → List Char → Except String (List Char × List Char)
  | 0, _ | _ + 1, [] => .error "runaway string constant"
  | _ + 1, '"' :: rest => .ok ([], rest)
  | fuel + 1, '\\' :: '\n' :: rest => readString fuel rest
  | fuel + 1, '\\' :: c :: rest => do
    if c == '"' || c == '/' then
      let (text, after) ← readString fuel rest
      return (c :: text, after)
    else
      let digits := ((c :: rest).take 3).takeWhile Format.isOctal
      let (escaped, behind) :=
        if !digits.isEmpty then ([Format.octalByte digits], (c :: rest).drop digits.length)
        else
          match Format.letterEscape? c with
          | some escaped => ([escaped], rest)
          | none => (['\\', c], rest)
      let (text, after) ← readString fuel behind
      return (escaped ++ text, after)
  | fuel + 1, c :: rest => do
    let (text, after) ← readString fuel rest
    return (c :: text, after)

def readRegex : Nat → Bool → List Char → Except String (List Char × List Char)
  | 0, _, _ | _ + 1, _, [] | _ + 1, _, '\n' :: _ => .error "runaway regular expression"
  | fuel + 1, inSet, '\\' :: '/' :: rest => do
    let (text, after) ← readRegex fuel inSet rest
    return ('/' :: text, after)
  | fuel + 1, inSet, '\\' :: c :: rest => do
    let (text, after) ← readRegex fuel inSet rest
    return ('\\' :: c :: text, after)
  | _ + 1, false, '/' :: rest => .ok ([], rest)
  | fuel + 1, inSet, c :: rest => do
    let (text, after) ← readRegex fuel ((inSet || c == '[') && c != ']') rest
    return (c :: text, after)

def isNameChar (c : Char) : Bool :=
  c.isAlphanum || c == '_'

def tokensFrom : Nat → Token → List Char → Except String (List Token)
  | 0, _, _ | _ + 1, _, [] => .ok [.ended]
  | fuel + 1, before, c :: rest =>
    let found (token : Token) (rest : List Char) : Except String (List Token) := do
      return token :: (← tokensFrom fuel token rest)
    if c == ' ' || c == '\t' || c == '\r' then tokensFrom fuel before rest
    else if c == '#' then tokensFrom fuel before (rest.dropWhile (· != '\n'))
    else if c == '\n' then found .newline rest
    else if c == '\\' && rest.head? == some '\n' then tokensFrom fuel before (rest.drop 1)
    else if c == '"' then do
      let (text, after) ← readString (rest.length + 1) rest
      found (.string text) after
    else if c == '/' && !before.endsOperand then do
      let (text, after) ← readRegex (rest.length + 1) false rest
      found (.regex text) after
    else if c.isDigit || (c == '.' && rest.head?.any Char.isDigit) then
      match Text.Ratio.readSize? (c :: rest) with
      | some (value, after) => found (.number value) after
      | none => .error "unexpected character"
    else if isNameChar c then
      let run := (c :: rest).takeWhile isNameChar
      let after := (c :: rest).drop run.length
      let word := String.ofList run
      if keywords.contains word then
        found (.keyword (if word == "func" then "function" else word)) after
      else if builtinNames.contains word then found (.builtin word) after
      else if after.head? == some '(' then found (.call word) after
      else found (.name word) after
    else
      match signs.find? fun sign => sign.toList.isPrefixOf (c :: rest) with
      | some sign => found (.sign sign) ((c :: rest).drop sign.length)
      | none => .error ("unexpected character '" ++ String.ofList [c] ++ "'")

def tokens (text : List Char) : Except String (List Token) :=
  tokensFrom (text.length + 1) .newline text

end DialectLoader.Report
