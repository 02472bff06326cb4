/-!
# Bytes and text

Text is stored as UTF-8. Reading is either strict, where one wrong byte refuses the whole input, or
lenient, where each longest wrong stretch that could have begun a character becomes one replacement
character U+FFFD. On valid input both give the same text.

Strict reading is that of the core library. Lenient reading has no counterpart there and is written
out as a scan.
-/

namespace DialectLoader

/-- A byte string. Lists are used where the contents of files are concerned, since all reasoning
about them follows the bytes one by one. -/
abbrev Bytes := List UInt8

namespace Text

def utf8 (text : String) : Bytes :=
  text.toByteArray.data.toList

/-- The number of bytes of the UTF-8 form of characters, without building that form. -/
def byteLength : List Char → Nat
  | [] => 0
  | c :: rest => c.utf8Size + byteLength rest

/-- Strict reading: the text whose UTF-8 form the bytes are. There is at most one, and none if any
byte is wrong. -/
def ofUtf8? (bytes : Bytes) : Option String :=
  String.fromUTF8? ⟨bytes.toArray⟩

/-- What is still owed to a character whose first bytes have been read: how many bytes, the
inclusive range of the next one, and the bits collected so far. -/
structure Owed where
  count : Nat
  low : Nat
  high : Nat
  bits : Nat

/-- How a byte opens a character. Continuation bytes open none, so outside a character they are
wrong. -/
inductive Opening where
  | complete (c : Char)
  /-- More bytes have to follow before there is a character. -/
  | owes (rest : Owed)
  | invalid

/-- Classifies a byte at the start of a character. The narrowed ranges after `E0`, `ED`, `F0` and
`F4` exclude overlong forms, surrogates and code points past U+10FFFF. -/
def opening (b : Nat) : Opening :=
  if b < 0x80 then .complete (Char.ofNat b)
  else if 0xC2 ≤ b ∧ b ≤ 0xDF then .owes ⟨1, 0x80, 0xBF, b - 0xC0⟩
  else if b = 0xE0 then .owes ⟨2, 0xA0, 0xBF, 0⟩
  else if b = 0xED then .owes ⟨2, 0x80, 0x9F, 0xD⟩
  else if 0xE1 ≤ b ∧ b ≤ 0xEF then .owes ⟨2, 0x80, 0xBF, b - 0xE0⟩
  else if b = 0xF0 then .owes ⟨3, 0x90, 0xBF, 0⟩
  else if 0xF1 ≤ b ∧ b ≤ 0xF3 then .owes ⟨3, 0x80, 0xBF, b - 0xF0⟩
  else if b = 0xF4 then .owes ⟨3, 0x80, 0x8F, 4⟩
  else .invalid

/-- The character that stands for a wrong stretch. A text that holds it already cannot be told from
one where it was put in. -/
def replacement : Char := '\ufffd'

/-- Lenient reading from between characters (`none`) or inside one. A byte that cannot continue the
character closes the wrong stretch and is read again as the start of the next character. -/
def readLenient : Option Owed → Bytes → List Char
  | none, [] => []
  | some _, [] => [replacement]
  | none, b :: rest => start b rest
  | some owed, b :: rest =>
    if owed.low ≤ b.toNat ∧ b.toNat ≤ owed.high then
      let bits := owed.bits * 64 + (b.toNat - 0x80)
      if owed.count ≤ 1 then Char.ofNat bits :: readLenient none rest
      else readLenient (some ⟨owed.count - 1, 0x80, 0xBF, bits⟩) rest
    else replacement :: start b rest
where
  /-- Reads a byte at the start of a character, then the rest. -/
  start (b : UInt8) (rest : Bytes) : List Char :=
    match opening b.toNat with
    | .complete c => c :: readLenient none rest
    | .owes owed => readLenient (some owed) rest
    | .invalid => replacement :: readLenient none rest

/-- Lenient reading of a byte string. It always gives a text, so it serves where something has to be
shown. -/
def ofUtf8Lenient (bytes : Bytes) : String :=
  (ofUtf8? bytes).getD (String.ofList (readLenient none bytes))

end Text

end DialectLoader
