/-!
# Quoted JSON text

The compact written form of a text: quotes around it, and a backslash escape for the quote, the
backslash and every control character below U+0020. Five of those have a letter of their own; the
others are written as four hexadecimal digits in lower case. All other characters stand for
themselves.

This is the form that the digest of the options is taken of, so it is fixed to the last character.
-/

namespace DialectLoader.Json

def hexDigit (n : Nat) : Char :=
  Nat.digitChar (n % 16)

/-- The written form of one character inside quotes. No other character is escaped, not even the
slash. -/
def escape (c : Char) : List Char :=
  if c = '"' then ['\\', '"']
  else if c = '\\' then ['\\', '\\']
  else if c = '\x08' then ['\\', 'b']
  else if c = '\t' then ['\\', 't']
  else if c = '\n' then ['\\', 'n']
  else if c = '\x0c' then ['\\', 'f']
  else if c = '\r' then ['\\', 'r']
  else if c.toNat < 0x20 then ['\\', 'u', '0', '0', hexDigit (c.toNat / 16), hexDigit c.toNat]
  else [c]

def quote (text : List Char) : List Char :=
  '"' :: text.flatMap escape ++ ['"']

end DialectLoader.Json
