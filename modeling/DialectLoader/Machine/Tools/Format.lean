import DialectLoader.Json.Value
import DialectLoader.Machine.Octet
import DialectLoader.Machine.Ratio

/-!
# Formatted output

A format is text with escapes and directives. A directive takes the next argument and writes it as a
string, as a number or as a character, in a field of some width; a missing argument is an empty
string or zero. The format is used again as long as it takes arguments and some are left.

Numbers with places are ratios, so more digits are right than a machine would show.
-/

namespace DialectLoader.Format

def letterEscape? : Char → Option Char
  | 'a' => some '\x07'
  | 'b' => some '\x08'
  | 'f' => some '\x0c'
  | 'n' => some '\n'
  | 'r' => some '\r'
  | 't' => some '\t'
  | 'v' => some '\x0b'
  | '\\' => some '\\'
  | _ => none

def isOctal (c : Char) : Bool :=
  '0' ≤ c && c ≤ '7'

def octalByte (digits : List Char) : Char :=
  Char.ofNat (digits.foldl (fun value c => 8 * value + (c.toNat - '0'.toNat)) 0 % 256)

def readEscape (text : List Char) : List Char × List Char :=
  let text := match text with
    | '0' :: c :: rest => if isOctal c then c :: rest else text
    | _ => text
  let digits := (text.take 3).takeWhile isOctal
  if !digits.isEmpty then ([octalByte digits], text.drop digits.length)
  else
    match text with
    | c :: rest => (letterEscape? c).elim (['\\'], text) fun escaped => ([escaped], rest)
    | [] => (['\\'], [])

def unescape : Nat → List Char → List Char × Bool
  | 0, text => (text, false)
  | _ + 1, [] => ([], false)
  | _ + 1, '\\' :: 'c' :: _ => ([], true)
  | fuel + 1, '\\' :: rest =>
    let (escaped, rest) := readEscape rest
    let (text, ended) := unescape fuel rest
    (escaped ++ text, ended)
  | fuel + 1, c :: rest =>
    let (text, ended) := unescape fuel rest
    (c :: text, ended)

structure Directive where
  left : Bool := false
  zeros : Bool := false
  sign : List Char := []
  showsBase : Bool := false
  width : Nat := 0
  precision : Option Nat := none
  kind : Char

def Directive.fill (directive : Directive) (text : List Char) : List Char :=
  let missing := directive.width - text.length
  if directive.left then text ++ List.replicate missing ' '
  else List.replicate missing ' ' ++ text

def Directive.string (directive : Directive) (text : List Char) : List Char :=
  directive.fill (directive.precision.elim text text.take)

def Directive.digits (directive : Directive) (sign digits : List Char) : List Char :=
  let digits := List.replicate (directive.precision.getD 1 - digits.length) '0' ++ digits
  if directive.zeros && !directive.left && directive.precision.isNone then
    sign ++ List.replicate (directive.width - sign.length - digits.length) '0' ++ digits
  else directive.fill (sign ++ digits)

def Directive.signOf (directive : Directive) (negative : Bool) : List Char :=
  if negative then ['-'] else directive.sign

def baseDigits (base : Nat) (value : Int) : List Char :=
  Nat.toDigits base (if value < 0 then Text.longWordBound - value.natAbs else value.natAbs)

def Directive.whole? (directive : Directive) (value : Int) : Option (List Char) :=
  let base (mark : String) : List Char :=
    if directive.showsBase && value != 0 then mark.toList else []
  match directive.kind with
  | 'd' | 'i' => some (directive.digits (directive.signOf (value < 0)) (Text.decimal value.natAbs))
  | 'u' => some (directive.digits [] (baseDigits 10 value))
  | 'o' => some (directive.digits (base "0") (baseDigits 8 value))
  | 'x' => some (directive.digits (base "0x") (baseDigits 16 value))
  | 'X' => some (directive.digits (base "0X") ((baseDigits 16 value).map Char.toUpper))
  | _ => none

def Directive.real? (directive : Directive) (value : Text.Ratio) : Option (List Char) :=
  let precision := directive.precision.getD 6
  let size := match directive.kind with
    | 'f' | 'F' => some (value.fixed precision)
    | 'e' => some (value.exponential precision)
    | 'E' => some ((value.exponential precision).map Char.toUpper)
    | 'g' => some (value.general precision)
    | 'G' => some ((value.general precision).map Char.toUpper)
    | _ => none
  size.map fun digits =>
    { directive with precision := none }.digits (directive.signOf (value.numerator < 0)) digits

def readNumber (text : List Char) : Nat × List Char :=
  let digits := text.takeWhile Json.isDigit
  (Json.digitsValue digits, text.drop digits.length)

def readDirective? (text : List Char) (stars : List Int) :
    Option (Directive × List Int × List Char) :=
  let flags := text.takeWhile ("-+ 0#".toList.contains ·)
  let number (text : List Char) (stars : List Int) : Int × List Int × List Char :=
    match text with
    | '*' :: rest => (stars.headD 0, stars.drop 1, rest)
    | _ => let (value, rest) := readNumber text; (value, stars, rest)
  let (width, stars, rest) := number (text.drop flags.length) stars
  let (precision, stars, rest) := match rest with
    | '.' :: more =>
      let (precision, stars, rest) := number more stars; (some precision, stars, rest)
    | _ => (none, stars, rest)
  match rest with
  | kind :: rest =>
    let directive : Directive := {
      left := flags.contains '-' || width < 0
      zeros := flags.contains '0'
      sign := if flags.contains '+' then ['+'] else if flags.contains ' ' then [' '] else []
      showsBase := flags.contains '#'
      width := width.natAbs
      precision := precision.bind fun value => if value < 0 then none else some value.toNat
      kind }
    some (directive, stars, rest)
  | [] => none

def readInteger? (text : List Char) : Option (Int × List Char) :=
  let text := text.dropWhile fun c => c == ' ' || ('\t' ≤ c && c ≤ '\r')
  let negative := text.head? == some '-'
  let text := if negative || text.head? == some '+' then text.drop 1 else text
  let inBase (base : Nat) (digits : List Char) : Option (Int × List Char) :=
    let read := digits.takeWhile fun c => (Json.hexValue? c).any (· < base)
    if read.isEmpty then none
    else
      let value : Int := read.foldl (fun value c => base * value + (Json.hexValue? c).getD 0) 0
      some (if negative then -value else value, digits.drop read.length)
  match text with
  | '0' :: 'x' :: digits | '0' :: 'X' :: digits => (inBase 16 digits).or (some (0, 'x' :: digits))
  | '0' :: _ => inBase 8 text
  | _ => inBase 10 text

def integerOf (argument : List Char) : Int × Option String :=
  match argument with
  | [] => (0, none)
  | quote :: rest =>
    if quote == '\'' || quote == '"' then ((rest.headD '\x00').toNat, none)
    else
      match readInteger? argument with
      | none => (0, some "expected numeric value")
      | some (value, []) => (value, none)
      | some (value, _) => (value, some "not completely converted")

def realOf (argument : List Char) : Text.Ratio × Option String :=
  match argument with
  | [] => (.ofInt 0, none)
  | quote :: rest =>
    if quote == '\'' || quote == '"' then (.ofInt (rest.headD '\x00').toNat, none)
    else
      match Text.Ratio.read? (argument.dropWhile (· == ' ')) with
      | none => (.ofInt 0, some "expected numeric value")
      | some (value, []) => (value, none)
      | some (value, _) => (value, some "not completely converted")

structure Written where
  text : List Char := []
  left : List (List Char) := []
  problems : List String := []
  ended : Bool := false
  refused : Bool := false

def Written.behind (written : Written) (text : List Char) (problems : List String) : Written :=
  { written with text := text ++ written.text, problems := problems ++ written.problems }

def Directive.write? (directive : Directive) (argument : List Char) :
    Option (List Char × List String × Bool) :=
  let complaint (problem : Option String) : List String :=
    (problem.map fun text => Text.ofOctets argument ++ ": " ++ text).toList
  match directive.kind with
  | 's' => some (directive.string argument, [], false)
  | 'b' =>
    let (text, ended) := unescape argument.length argument
    some (directive.string text, [], ended)
  | 'c' => some (directive.fill (argument.take 1), [], false)
  | _ =>
    let (value, problem) := integerOf argument
    match directive.whole? value with
    | some text => some (text, complaint problem, false)
    | none =>
      let (value, problem) := realOf argument
      (directive.real? value).map fun text => (text, complaint problem, false)

def once : Nat → List Char → List (List Char) → Written
  | 0, _, arguments => { left := arguments }
  | _ + 1, [], arguments => { left := arguments }
  | _ + 1, '\\' :: 'c' :: _, _ => { ended := true }
  | fuel + 1, '\\' :: rest, arguments =>
    let (escaped, rest) := readEscape rest
    (once fuel rest arguments).behind escaped []
  | fuel + 1, '%' :: '%' :: rest, arguments => (once fuel rest arguments).behind ['%'] []
  | fuel + 1, '%' :: rest, arguments =>
    match readDirective? rest (arguments.map fun argument => (integerOf argument).1) with
    | none => { problems := ["%: invalid directive"], refused := true }
    | some (directive, stars, behind) =>
      let arguments := arguments.drop (arguments.length - stars.length)
      match directive.write? (arguments.headD []) with
      | none =>
        let spelled := Text.ofOctets ('%' :: rest.take (rest.length - behind.length))
        { problems := [spelled ++ ": invalid directive"], refused := true }
      | some (text, problems, ended) =>
        if ended then { text, problems, ended }
        else (once fuel behind (arguments.drop 1)).behind text problems
  | fuel + 1, c :: rest, arguments => (once fuel rest arguments).behind [c] []

def all (format : List Char) : Nat → List (List Char) → Written
  | 0, arguments => once format.length format arguments
  | fuel + 1, arguments =>
    let written := once format.length format arguments
    if written.left.isEmpty || written.refused ||
      written.left.length = arguments.length then written
    else (all format fuel written.left).behind written.text written.problems

def echo (arguments : List (List Char)) : List Char :=
  let line (words : List (List Char)) : List Char × Bool :=
    let text := [' '].intercalate words
    unescape text.length text
  match arguments with
  | ['-', 'n'] :: rest => (line rest).1
  | _ =>
    let (text, ended) := line arguments
    if ended then text else text ++ ['\n']

end DialectLoader.Format
