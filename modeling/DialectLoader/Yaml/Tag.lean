import DialectLoader.Json.Value
import DialectLoader.Yaml.Cursor
import DialectLoader.Yaml.Token

/-!
# YAML names, tags and directives

Anchors, aliases and tag handles have names of letters, digits, `_` and `-`. A tag is written in
angle brackets, with a handle between exclamation marks, or with one mark. In tags, and in what a
directive says a handle stands for, a percent sign and two hexadecimal digits are an octet; octets
have to come in groups as UTF-8 has them, though not every such group is a character. A tag ends at
an octet zero.
-/

namespace DialectLoader.Yaml

/-- Whether a character can be part of the name of an anchor or a handle. -/
def isNameChar (c : Char) : Bool :=
  Json.isDigit c || ('a' ≤ c && c ≤ 'z') || ('A' ≤ c && c ≤ 'Z') || c == '_' || c == '-'

/-- Reads the name of an anchor or an alias behind its indicator. It must not be empty, and only
certain characters may follow it. -/
def readName? (cursor : Cursor) : Option (String × Cursor) :=
  let (name, after) := cursor.readWhile isNameChar
  if !name.isEmpty && (after.spaceAt 0 || after.seesAny "?:,]\x7d%@`") then
    some (String.ofList name, after)
  else none

/-- Whether a character can be part of a tag. A comma is none, so inside brackets it ends a tag. -/
def isTagChar (c : Char) : Bool :=
  isNameChar c || ";/?:@&=+$.!~*'()%".toList.contains c

/-- Whether a character can be part of a tag in angle brackets, where more is allowed than
elsewhere. -/
def isVerbatimTagChar (c : Char) : Bool :=
  isTagChar c || ",[]".toList.contains c

/-- How many octets follow the first one of a group. An octet that starts no group is an error. -/
def octetsBehind? (octet : Nat) : Option Nat :=
  if octet < 0x80 then some 0
  else if octet / 0x20 = 0x6 then some 1
  else if octet / 0x10 = 0xE then some 2
  else if octet / 0x08 = 0x1E then some 3
  else none

/-- The octets that a spelled tag stands for; all its characters are ASCII. The number says how many
octets the group that was begun still lacks, which have to be escaped too. -/
def tagOctets? : Nat → List Char → Option Bytes
  | 0, [] => some []
  | _ + 1, [] => none
  | lacking, '%' :: high :: low :: rest => do
    let octet := 16 * (← Json.hexValue? high) + (← Json.hexValue? low)
    let lacking ← match lacking with
      | 0 => octetsBehind? octet
      | others + 1 => if octet / 0x40 = 0x2 then some others else none
    return UInt8.ofNat octet :: (← tagOctets? lacking rest)
  | 0, c :: rest => if c = '%' then none else (tagOctets? 0 rest).map (UInt8.ofNat c.toNat :: ·)
  | _ + 1, _ :: _ => none

/-- The text that a spelled tag stands for, up to an octet zero if there is one. -/
def tagText? (spelled : List Char) : Option String :=
  (tagOctets? 0 spelled).map fun octets => Text.ofUtf8Lenient (octets.takeWhile (· != 0))

def readTagText? (cursor : Cursor) (property : Char → Bool) : Option (String × Cursor) :=
  let (spelled, after) := cursor.readWhile property
  if spelled.isEmpty then none else (tagText? spelled).map (·, after)

/-- Reads a tag. An exclamation mark alone is a tag without a handle. -/
def readTag? (inFlow : Bool) (cursor : Cursor) : Option (Token × Cursor) := do
  let (token, after) ←
    if cursor.peekAt 1 == some '<' then do
      let (name, after) ← readTagText? (cursor.skip 2) isVerbatimTagChar
      if after.sees '>' then some (Token.tag "" name, after.skip 1) else none
    else
      let (name, after) := (cursor.skip 1).readWhile isNameChar
      if after.sees '!' then
        (readTagText? (after.skip 1) isTagChar).map fun (suffix, after) =>
          (Token.tag (String.ofList ('!' :: name ++ ['!'])) suffix, after)
      else
        let (spelled, after) := (cursor.skip 1).readWhile isTagChar
        (tagText? spelled).map fun suffix =>
          (if suffix.isEmpty then Token.tag "" "!" else Token.tag "!" suffix, after)
  if after.spaceAt 0 || (inFlow && after.sees ',') then some (token, after) else none

/-- Reads a whole number of at most nine digits; a longer one is an error and not a larger
number. -/
def readVersionNumber? (cursor : Cursor) : Option (Nat × Cursor) :=
  let (digits, after) := cursor.readWhile Json.isDigit
  if digits.isEmpty || 9 < digits.length then none else some (Json.digitsValue digits, after)

/-- Reads a directive behind its percent sign. Only versions and tag handles are known; any other
directive is an error. -/
def readDirective? (cursor : Cursor) : Option (Token × Cursor) := do
  let (name, after) := cursor.readWhile isNameChar
  guard (after.spaceAt 0)
  let after := after.skipWhile isBlank
  let (token, after) ← match String.ofList name with
    | "YAML" => do
      let (major, after) ← readVersionNumber? after
      guard (after.sees '.')
      let (minor, after) ← readVersionNumber? (after.skip 1)
      pure (Token.versionDirective major minor, after)
    | "TAG" => do
      guard (after.sees '!')
      let (handle, after) := (after.skip 1).readWhile isNameChar
      let close := after.rest.take 1 == ['!']
      let after := if close then after.skip 1 else after
      guard ((handle.isEmpty || close) && after.peek.any isBlank)
      let (expansion, after) ← readTagText? (after.skipWhile isBlank) isVerbatimTagChar
      guard (after.spaceAt 0)
      pure (Token.tagDirective (String.ofList ('!' :: handle ++ if close then ['!'] else []))
        expansion, after)
    | _ => none
  let after := (after.skipWhile isBlank).skipComment
  guard after.atLineEnd
  return (token, after.skipBreak)

end DialectLoader.Yaml
