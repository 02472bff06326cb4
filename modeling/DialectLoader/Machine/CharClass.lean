/-!
# Classes of characters

Sets of characters, as patterns and regular expressions name them: ranges, and classes with names.
Only ASCII characters belong to a class with a name, as in the plain locale of a system; other
locales are not modelled. Only the programs under `Machine` use these sets, and nothing is proved
about them.
-/

namespace DialectLoader.Text

/-- A set of characters: the ones in some ranges, or the ones in none of them. Ranges may overlap,
and an empty range does no harm. -/
structure CharSet where
  negated : Bool
  ranges : List (Char × Char)
deriving DecidableEq

def CharSet.contains (set : CharSet) (c : Char) : Bool :=
  (set.ranges.any fun (first, last) => first ≤ c && c ≤ last) != set.negated

def CharSet.single (c : Char) : CharSet :=
  ⟨false, [(c, c)]⟩

def namedRanges? (name : String) : Option (List (Char × Char)) :=
  match name with
  | "alpha" => some [('A', 'Z'), ('a', 'z')]
  | "digit" => some [('0', '9')]
  | "alnum" => some [('0', '9'), ('A', 'Z'), ('a', 'z')]
  | "upper" => some [('A', 'Z')]
  | "lower" => some [('a', 'z')]
  | "space" => some [('\t', '\r'), (' ', ' ')]
  | "blank" => some [('\t', '\t'), (' ', ' ')]
  | "punct" => some [('!', '/'), (':', '@'), ('[', '\x60'), ('\x7b', '~')]
  | "print" => some [(' ', '~')]
  | "graph" => some [('!', '~')]
  | "cntrl" => some [('\x00', '\x1f'), ('\x7f', '\x7f')]
  | "xdigit" => some [('0', '9'), ('A', 'F'), ('a', 'f')]
  | _ => none

def readNamedClass? (text : List Char) : Option (List (Char × Char) × List Char) :=
  let name := text.takeWhile Char.isAlpha
  match text.drop name.length with
  | ':' :: ']' :: rest => (namedRanges? (String.ofList name)).map (·, rest)
  | _ => none

def rangeChars (first last : Char) : List Char :=
  (List.range (last.toNat + 1 - first.toNat)).map fun step => Char.ofNat (first.toNat + step)

end DialectLoader.Text
