/-!
# Blank characters

A character is blank when the Unicode property `White_Space` holds of it: twenty-five code
points, from the tabulator to the ideographic space. Trimming removes blank characters from
the ends of a text and never from its middle. The byte order mark and the zero-width spaces
do not have the property, so they count as visible.
-/

namespace DialectLoader.Text

/-- The code points with the property `White_Space`, as inclusive ranges in increasing order. The
table is written out, since the core library knows only the ASCII ones. -/
def blankRanges : List (Nat × Nat) :=
  [(0x09, 0x0D), (0x20, 0x20), (0x85, 0x85), (0xA0, 0xA0), (0x1680, 0x1680), (0x2000, 0x200A),
   (0x2028, 0x2029), (0x202F, 0x202F), (0x205F, 0x205F), (0x3000, 0x3000)]

/-- Whether a character is blank, by looking it up in the table of ranges. -/
def isBlank (c : Char) : Bool :=
  blankRanges.any fun (first, last) => first ≤ c.toNat && c.toNat ≤ last

def trimStart (cs : List Char) : List Char :=
  cs.dropWhile isBlank

def trimEnd (cs : List Char) : List Char :=
  (cs.reverse.dropWhile isBlank).reverse

/-- Drops the blank characters at both ends. A text of blanks only loses all of them. -/
def trim (cs : List Char) : List Char :=
  trimEnd (trimStart cs)

/-- A text without its blank ends, as strings have it; `trim` is the same on characters. -/
def trimmed (text : String) : String :=
  String.ofList (trim text.toList)

def blank (text : String) : Bool :=
  text.toList.all isBlank

end DialectLoader.Text
