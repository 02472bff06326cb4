import DialectLoader.Machine.Manage
import DialectLoader.Machine.CharClass
import DialectLoader.Machine.Octet

/-!
# Patterns and fields of shell words

When a word has been expanded, each of its characters still tells where it came from. A character of
quoted text stands for itself. Separators in the value of an unquoted variable separate fields. In a
pattern an unquoted star stands for any text, an unquoted question mark for any character, and
unquoted square brackets for one of the characters between them. A field that is a pattern stands
for the paths that match it, if there are any.

Characters are bytes here, so a question mark stands for one byte of a longer character. Names are
sorted by their bytes, as in the plain locale.
-/

namespace DialectLoader.Shell

inductive Glyph where
  | char (c : Char) (quoted splits : Bool)
  | boundary (quoted : Bool)
deriving DecidableEq

namespace Glyph

def shown : Glyph → Char
  | .char c _ _ => c
  | .boundary _ => ' '

def chars (glyphs : List Glyph) : List Char :=
  glyphs.map shown

def isSign (c : Char) : Glyph → Bool
  | .char found quoted _ => found == c && !quoted
  | .boundary _ => false

def isBlank (c : Char) : Bool :=
  c == ' ' || c == '\t' || c == '\n'

def fieldsFrom (separators : List Char) :
    Option (List Glyph) → Bool → List Glyph → List (List Glyph)
  | current, _, [] => (current.map List.reverse).toList
  | current, _, .boundary quoted :: rest =>
    if quoted then (current.getD []).reverse :: fieldsFrom separators (some []) false rest
    else (current.map List.reverse).toList ++ fieldsFrom separators none false rest
  | current, closed, .char c quoted splits :: rest =>
    if splits && separators.contains c then
      if isBlank c then
        (current.map List.reverse).toList ++ fieldsFrom separators none
          (closed || current.isSome) rest
      else if current.isNone && closed then fieldsFrom separators none false rest
      else (current.getD []).reverse :: fieldsFrom separators none false rest
    else fieldsFrom separators (some (.char c quoted splits :: current.getD [])) false rest

def fields (separators : List Char) (hasQuotes : Bool) (glyphs : List Glyph) : List (List Glyph) :=
  let found := fieldsFrom separators none false glyphs
  if found.isEmpty && hasQuotes then [[]] else found

end Glyph

/-- A piece of a pattern. Only the piece for any text matches more or less than one character. -/
inductive Piece where
  | anyText
  | anyChar
  | exactly (c : Char)
  | among (characters : Text.CharSet)
deriving DecidableEq

namespace Piece

def accepts (c : Char) : Piece → Bool
  | .anyText => false
  | .anyChar => true
  | .exactly wanted => c == wanted
  | .among characters => characters.contains c

def readRanges : Nat → Bool → List Glyph → Option (List (Char × Char) × List Glyph)
  | 0, _, _ => none
  | _ + 1, _, [] => none
  | fuel + 1, first, glyph :: rest =>
    let named := match glyph.isSign '[', rest with
      | true, colon :: rest =>
        if colon.isSign ':' then (Text.readNamedClass? (Glyph.chars rest)).map
          fun (ranges, after) =>
          (ranges, rest.drop (rest.length - after.length))
        else none
      | _, _ => none
    if glyph.isSign ']' && !first then some ([], rest)
    else if let some (named, rest) := named then
      (readRanges fuel false rest).map fun (ranges, rest) => (named ++ ranges, rest)
    else
      match rest with
      | dash :: last :: after =>
        if dash.isSign '-' && !last.isSign ']' then
          (readRanges fuel false after).map fun (ranges, rest) =>
            ((glyph.shown, last.shown) :: ranges, rest)
        else (readRanges fuel false rest).map fun (ranges, rest) =>
          ((glyph.shown, glyph.shown) :: ranges, rest)
      | _ => (readRanges fuel false rest).map fun (ranges, rest) =>
        ((glyph.shown, glyph.shown) :: ranges, rest)

def ofGlyphs : Nat → List Glyph → List Piece
  | 0, _ => []
  | _ + 1, [] => []
  | fuel + 1, glyph :: rest =>
    if glyph.isSign '*' then .anyText :: ofGlyphs fuel rest
    else if glyph.isSign '?' then .anyChar :: ofGlyphs fuel rest
    else if glyph.isSign '[' then
      let negated := rest.head?.any fun next => next.isSign '!' || next.isSign '^'
      match readRanges (rest.length + 1) true (if negated then rest.drop 1 else rest) with
      | some (ranges, after) => .among ⟨negated, ranges⟩ :: ofGlyphs fuel after
      | none => .exactly '[' :: ofGlyphs fuel rest
    else .exactly glyph.shown :: ofGlyphs fuel rest

def ends : List Char → List (List Char)
  | [] => [[]]
  | c :: rest => (c :: rest) :: ends rest

def matchesAll : List Piece → List Char → Bool
  | [], text => text.isEmpty
  | .anyText :: pieces, text => (ends text).any (matchesAll pieces)
  | piece :: pieces, c :: rest => piece.accepts c && matchesAll pieces rest
  | _ :: _, [] => false

end Piece

def Glyph.matchesText (pattern : List Glyph) (text : List Char) : Bool :=
  Piece.matchesAll (Piece.ofGlyphs pattern.length pattern) text

def Glyph.cutStart (pattern : List Glyph) (longest : Bool) (text : List Char) : List Char :=
  let lengths := List.range (text.length + 1)
  let tried := if longest then lengths.reverse else lengths
  match tried.find? fun length => Glyph.matchesText pattern (text.take length) with
  | some length => text.drop length
  | none => text

def Glyph.cutEnd (pattern : List Glyph) (longest : Bool) (text : List Char) : List Char :=
  let lengths := List.range (text.length + 1)
  let tried := if longest then lengths else lengths.reverse
  match tried.find? fun length => Glyph.matchesText pattern (text.drop length) with
  | some length => text.take length
  | none => text

namespace Glyph

def isPattern (field : List Glyph) : Bool :=
  field.any fun glyph => glyph.isSign '*' || glyph.isSign '?' || glyph.isSign '['

def pathsFrom (disk : Disk) : List Char → List (List Glyph) → List (List Char)
  | before, [] => [before]
  | before, name :: rest =>
    let below (found : List Char) : List Char :=
      before ++ found ++ (if rest.isEmpty then [] else ['/'])
    if isPattern name then
      let directory := if before.isEmpty then "." else Text.ofOctets before
      let inside := ((disk.children directory).toOption.getD []).map Text.octetsOf
      let names := if inside.isEmpty then [] else ['.'] :: ['.', '.'] :: inside
      let found := names.filter fun known =>
        (known.head? != some '.' || name.head?.any (·.shown == '.')) && matchesText name known
      (found.map fun known => pathsFrom disk (below known) rest).flatten
    else
      let path := below (chars name)
      if rest.isEmpty && (disk.look .entry (Text.ofOctets path)).toOption.isNone &&
        !path.isEmpty then []
      else pathsFrom disk path rest

def paths (disk : Disk) (field : List Glyph) : List (List Char) :=
  if isPattern field then
    let found := pathsFrom disk [] (Text.pieces (fun glyph => glyph.shown == '/') field)
    if found.isEmpty then [chars field] else found.mergeSort fun left right => !(right < left)
  else [chars field]

end Glyph

end DialectLoader.Shell
