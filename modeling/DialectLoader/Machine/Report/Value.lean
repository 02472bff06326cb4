import DialectLoader.Text.Search
import DialectLoader.Machine.Tools.Lines
import DialectLoader.Machine.Tools.Regex

/-!
# Values of report programs

A value is a number or a text. A text from outside counts as a number too if it is spelled like one,
and a variable that has not been set is both zero and the empty text. A whole number is shown by its
digits, any other number by a format.

Numbers are ratios and not floating point numbers, so sums and products are exact and very large or
small results differ from those of a machine.
-/

namespace DialectLoader.Report

/-- A value. Where it came from decides how it is compared, which is why texts from outside are a
case of their own. -/
inductive Value where
  | unset
  | number (value : Text.Ratio)
  | text (characters : List Char)
  | outside (characters : List Char)
deriving DecidableEq

namespace Value

def ofNat (value : Nat) : Value := .number (.ofInt value)

def truth (value : Bool) : Value := ofNat (if value then 1 else 0)

def wholeNumber? (text : List Char) : Option Text.Ratio :=
  let trimmed := text.dropWhile Tools.isSpace
  match Text.Ratio.read? trimmed with
  | some (value, rest) => if rest.all Tools.isSpace then some value else none
  | none => none

def toNumber : Value → Text.Ratio
  | .unset => .ofInt 0
  | .number value => value
  | .text characters | .outside characters =>
    ((Text.Ratio.read? (characters.dropWhile Tools.isSpace)).map (·.1)).getD (.ofInt 0)

def formatted (format : List Char) (value : Text.Ratio) : List Char :=
  match format with
  | '%' :: rest =>
    match Format.readDirective? rest [] with
    | some (directive, _, after) =>
      ((directive.real? value).or (directive.whole? value.whole)).getD (value.general 6) ++ after
    | none => value.general 6
  | _ => format

def toText (format : List Char) : Value → List Char
  | .unset => []
  | .number value =>
    if value.isWhole && value.numerator.natAbs < Text.longWordBound / 2 then
      Tools.integerText value.numerator
    else if value.numerator < 0 && format == "%.6g".toList then '-' :: value.general 6
    else formatted format value
  | .text characters | .outside characters => characters

def numeric? : Value → Option Text.Ratio
  | .unset => some (.ofInt 0)
  | .number value => some value
  | .text _ => none
  | .outside characters => wholeNumber? characters

def isTrue : Value → Bool
  | .unset => false
  | .number value => !value.isZero
  | .text characters => !characters.isEmpty
  | .outside characters =>
    match wholeNumber? characters with
    | some value => !value.isZero
    | none => !characters.isEmpty

def compare (format : List Char) (left right : Value) : Ordering :=
  match left.numeric?, right.numeric? with
  | some first, some second =>
    if first.isLess second then .lt else if second.isLess first then .gt else .eq
  | _, _ =>
    let first := left.toText format
    let second := right.toText format
    if first < second then .lt else if second < first then .gt else .eq

end Value

/-- How a text is cut into fields or records. A text alone says which of these is meant. -/
inductive Separator where
  | blanks
  | nothing
  | char (c : Char)
  | matching (regex : Regex)
deriving DecidableEq

def Separator.of (spelled : List Char) : Separator :=
  match spelled with
  | [' '] => .blanks
  | [] => .nothing
  | [c] => .char c
  | _ =>
    match Regex.parse { extended := true, escapesInSets := true } spelled with
    | .ok regex => .matching regex
    | .error _ => .char (spelled.headD ' ')

def Separator.fields (separator : Separator) (text : List Char) : List (List Char) :=
  if text.isEmpty then []
  else
    match separator with
    | .blanks => Tools.wordsOf text
    | .nothing => text.map fun c => [c]
    | .char c => Text.pieces (· == c) text
    | .matching regex =>
      let (found, last) := regex.all false text
      let step (hit : Regex.Found) (pieces : List Char × List (List Char)) : List Char ×
          List (List Char) :=
        if hit.text.isEmpty then (hit.before ++ pieces.1, pieces.2)
        else (hit.before, pieces.1 :: pieces.2)
      let (first, others) := found.foldr step (last, [])
      first :: others

def nextRecord? (spelled text : List Char) : Option (List Char × List Char) :=
  match spelled with
  | [] =>
    let text := text.dropWhile (· == '\n')
    if text.isEmpty then none
    else
      match Text.indexOf? ['\n', '\n'] text with
      | some index => some (text.take index, (text.drop index).dropWhile (· == '\n'))
      | none => some (if text.getLast? == some '\n' then text.dropLast else text, [])
  | [c] =>
    if text.isEmpty then none
    else
      let record := text.takeWhile (· != c)
      some (record, text.drop (record.length + 1))
  | _ =>
    if text.isEmpty then none
    else
      match Regex.parse { extended := true, escapesInSets := true } spelled with
      | .ok regex =>
        match regex.search? false text with
        | some found =>
          if found.text.isEmpty then some (text, [])
          else some (found.before, found.behind)
        | none => some (if text.getLast? == some '\n' then text.dropLast else text, [])
      | .error _ => some (text, [])

end DialectLoader.Report
