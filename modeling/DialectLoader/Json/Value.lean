/-!
# JSON values

A reader for JSON texts. It accepts the grammar of the format and nothing else: only four characters
are blank, numbers have no leading zeros, strings have no raw control characters, and nothing may
follow the value. Objects keep their members in order, repeated names included.

Two distinctions matter to those who use the values and are kept. A number is a plain natural number
or some other number. A string is a text, or it is broken because an escape names half of a
surrogate pair; a broken string is well formed but stands for no text.

A text is accepted or not. Where and why one is refused is not kept, as nobody asks for it.
-/

namespace DialectLoader

/-- A JSON value, as far as the program needs to know it. -/
inductive Json where
  | null
  | bool (value : Bool)
  /-- A number written with digits alone. -/
  | natural (value : Nat)
  /-- A number with a sign, a fraction or an exponent. -/
  | number
  | text (value : String)
  /-- A string with an unpaired surrogate. -/
  | brokenText
  | array (items : List Json)
  /-- The members in order; a broken name is `none`. -/
  | object (members : List (Option String × Json))

namespace Json

def isSpace (c : Char) : Bool :=
  c == ' ' || c == '\n' || c == '\t' || c == '\r'

def skipSpace (cs : List Char) : List Char :=
  cs.dropWhile isSpace

def hexValue? (c : Char) : Option Nat :=
  if '0' ≤ c ∧ c ≤ '9' then some (c.toNat - '0'.toNat)
  else if 'a' ≤ c ∧ c ≤ 'f' then some (c.toNat - 'a'.toNat + 10)
  else if 'A' ≤ c ∧ c ≤ 'F' then some (c.toNat - 'A'.toNat + 10)
  else none

def readUnit? : List Char → Option (Nat × List Char)
  | a :: b :: c :: d :: rest => do
    let unit :=
      (((← hexValue? a) * 16 + (← hexValue? b)) * 16 + (← hexValue? c)) * 16 + (← hexValue? d)
    return (unit, rest)
  | _ => none

def shortEscape? : Char → Option Char
  | '"' => some '"'
  | '\\' => some '\\'
  | '/' => some '/'
  | 'b' => some '\x08'
  | 'f' => some '\x0c'
  | 'n' => some '\n'
  | 'r' => some '\r'
  | 't' => some '\t'
  | _ => none

/-- A character or code unit of a string. Halves of a surrogate pair are told apart, as only the
right order makes a character. -/
inductive Unit16 where
  | char (c : Char)
  | high (unit : Nat)
  | low (unit : Nat)

def Unit16.ofNat (unit : Nat) : Unit16 :=
  if 0xD800 ≤ unit ∧ unit < 0xDC00 then .high unit
  else if 0xDC00 ≤ unit ∧ unit < 0xE000 then .low unit
  else .char (Char.ofNat unit)

/-- Reads the units of a string up to its closing quote. Control characters have to be escaped. -/
def readUnits : List Char → Option (List Unit16 × List Char)
  | [] => none
  | '"' :: rest => some ([], rest)
  | '\\' :: 'u' :: a :: b :: c :: d :: rest => do
    let (unit, _) ← readUnit? [a, b, c, d]
    let (units, rest) ← readUnits rest
    return (.ofNat unit :: units, rest)
  | '\\' :: letter :: rest => do
    let c ← shortEscape? letter
    let (units, rest) ← readUnits rest
    return (.char c :: units, rest)
  | c :: rest =>
    if c.toNat < 0x20 || c = '\\' then none
    else do
      let (units, rest) ← readUnits rest
      return (.char c :: units, rest)

/-- The text of a string, if every surrogate has its other half right behind it. -/
def pairUnits? : List Unit16 → Option (List Char)
  | [] => some []
  | .char c :: rest => (pairUnits? rest).map (c :: ·)
  | .high upper :: .low lower :: rest =>
    (pairUnits? rest).map (Char.ofNat (0x10000 + (upper - 0xD800) * 0x400 + (lower - 0xDC00)) :: ·)
  | _ => none

/-- Reads a string behind its opening quote; a broken one is `none`. -/
def readString (cs : List Char) : Option (Option String × List Char) := do
  let (units, rest) ← readUnits cs
  return ((pairUnits? units).map String.ofList, rest)

def isDigit (c : Char) : Bool :=
  '0' ≤ c && c ≤ '9'

/-- Reads the digits of a whole number: a single zero, or digits that do not start with one. -/
def readWhole? (cs : List Char) : Option (List Char × List Char) :=
  match cs.takeWhile isDigit with
  | [] => none
  | ['0'] => some (['0'], cs.dropWhile isDigit)
  | '0' :: _ => none
  | digits => some (digits, cs.dropWhile isDigit)

def readFraction? : List Char → Option (Bool × List Char)
  | '.' :: rest =>
    if (rest.takeWhile isDigit).isEmpty then none else some (true, rest.dropWhile isDigit)
  | cs => some (false, cs)

def readExponent? : List Char → Option (Bool × List Char)
  | c :: rest =>
    if c == 'e' || c == 'E' then
      let digits := match rest with
        | sign :: more => if sign == '+' || sign == '-' then more else rest
        | [] => rest
      if (digits.takeWhile isDigit).isEmpty then none else some (true, digits.dropWhile isDigit)
    else some (false, c :: rest)
  | [] => some (false, [])

def digitsValue (digits : List Char) : Nat :=
  digits.foldl (fun value c => 10 * value + (c.toNat - '0'.toNat)) 0

/-- Reads a number. Its value is kept only if it is written with digits alone. -/
def readNumber? (cs : List Char) : Option (Json × List Char) := do
  let (negative, unsigned) := match cs with
    | '-' :: rest => (true, rest)
    | _ => (false, cs)
  let (digits, rest) ← readWhole? unsigned
  let (fractional, rest) ← readFraction? rest
  let (scaled, rest) ← readExponent? rest
  return (if negative || fractional || scaled then .number else .natural (digitsValue digits), rest)

def readWord? (cs : List Char) : Option (Json × List Char) :=
  if "null".toList.isPrefixOf cs then some (.null, cs.drop 4)
  else if "true".toList.isPrefixOf cs then some (.bool true, cs.drop 4)
  else if "false".toList.isPrefixOf cs then some (.bool false, cs.drop 5)
  else none

mutual

/-- Reads a value, blank characters in front of it included. The fuel bounds the number of values
and separators, of which there are no more than characters. -/
def readValue : Nat → List Char → Option (Json × List Char)
  | 0, _ => none
  | fuel + 1, cs =>
    match skipSpace cs with
    | '{' :: rest =>
      match skipSpace rest with
      | '}' :: rest => some (.object [], rest)
      | _ => (readMembers fuel rest).map fun (members, rest) => (.object members, rest)
    | '[' :: rest =>
      match skipSpace rest with
      | ']' :: rest => some (.array [], rest)
      | _ => (readItems fuel rest).map fun (items, rest) => (.array items, rest)
    | '"' :: rest => (readString rest).map fun (content, rest) =>
      (content.elim .brokenText .text, rest)
    | cs => if (cs.head?.any fun c => c == '-' || isDigit c) then readNumber? cs else readWord? cs

/-- Reads the items of an array up to its end, behind the first bracket or a comma. -/
def readItems : Nat → List Char → Option (List Json × List Char)
  | 0, _ => none
  | fuel + 1, cs => do
    let (item, rest) ← readValue fuel cs
    match skipSpace rest with
    | ',' :: rest =>
      let (items, rest) ← readItems fuel rest
      return (item :: items, rest)
    | ']' :: rest => return ([item], rest)
    | _ => none

/-- Reads the members of an object up to its end, behind the first brace or a comma. -/
def readMembers : Nat → List Char → Option (List (Option String × Json) × List Char)
  | 0, _ => none
  | fuel + 1, cs =>
    match skipSpace cs with
    | '"' :: rest => do
      let (name, rest) ← readString rest
      match skipSpace rest with
      | ':' :: rest =>
        let (value, rest) ← readValue fuel rest
        match skipSpace rest with
        | ',' :: rest =>
          let (members, rest) ← readMembers fuel rest
          return ((name, value) :: members, rest)
        | '}' :: rest => return ([(name, value)], rest)
        | _ => none
      | _ => none
    | _ => none

end

/-- Reads a text that consists of one value, with blanks around it. The length of the text is fuel
enough. -/
def parse? (text : String) : Option Json := do
  let cs := text.toList
  let (value, rest) ← readValue (2 * cs.length + 1) cs
  if (skipSpace rest).isEmpty then some value else none

end Json

end DialectLoader
