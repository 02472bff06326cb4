/-!
# Decimal digits and decimal numbers

A digit is any character of the Unicode category `Nd`. The category consists of runs of ten
consecutive code points, zero to nine, so a table of the zeros describes it. Only the ASCII
digits have a value here: a number spelled with other digits is recognised as a digit run but
cannot be read.
-/

namespace DialectLoader.Text

/-- The code points of the digit zero of every script. The nine others follow each zero directly,
which is what makes a table of the zeros enough. -/
def digitZeros : List Nat :=
  [0x30, 0x660, 0x6F0, 0x7C0, 0x966, 0x9E6, 0xA66, 0xAE6, 0xB66, 0xBE6, 0xC66, 0xCE6, 0xD66,
   0xDE6, 0xE50, 0xED0, 0xF20, 0x1040, 0x1090, 0x17E0, 0x1810, 0x1946, 0x19D0, 0x1A80, 0x1A90,
   0x1B50, 0x1BB0, 0x1C40, 0x1C50, 0xA620, 0xA8D0, 0xA900, 0xA9D0, 0xA9F0, 0xAA50, 0xABF0,
   0xFF10, 0x104A0, 0x10D30, 0x10D40, 0x11066, 0x110F0, 0x11136, 0x111D0, 0x112F0, 0x11450,
   0x114D0, 0x11650, 0x116C0, 0x116D0, 0x116DA, 0x11730, 0x118E0, 0x11950, 0x11BF0, 0x11C50,
   0x11D50, 0x11DA0, 0x11F50, 0x16130, 0x16A60, 0x16AC0, 0x16B50, 0x16D70, 0x1CCF0, 0x1D7CE,
   0x1D7D8, 0x1D7E2, 0x1D7EC, 0x1D7F6, 0x1E140, 0x1E2F0, 0x1E4F0, 0x1E5F1, 0x1E950, 0x1FBF0]

/-- Whether a character is a decimal digit of some script. Such a digit need not have a value
here. -/
def isDigit (c : Char) : Bool :=
  digitZeros.any fun first => first ≤ c.toNat && c.toNat < first + 10

/-- The value of an ASCII digit. Digits of other scripts have none, so a number that contains one
cannot be read. -/
def digitValue? (c : Char) : Option Nat :=
  if '0' ≤ c ∧ c ≤ '9' then some (c.toNat - '0'.toNat) else none

/-- Appends decimal digits to a value already read. One character without a value refuses the whole
run. -/
def readDigitsFrom (value : Nat) : List Char → Option Nat
  | [] => some value
  | c :: rest => (digitValue? c).bind fun digit => readDigitsFrom (10 * value + digit) rest

/-- Reads a non-empty run of ASCII digits, whatever its length and leading zeros, if its value stays
below the bound. -/
def readDecimal? (bound : Nat) (digits : List Char) : Option Nat :=
  if digits.isEmpty then none else (readDigitsFrom 0 digits).filter (· < bound)

/-- Reads a decimal number that may carry a plus sign. One sign is allowed, and digits must follow
it. -/
def readSigned? (bound : Nat) : List Char → Option Nat
  | '+' :: digits => readDecimal? bound digits
  | digits => readDecimal? bound digits

/-- The decimal digits of a number, without leading zeros; zero is one digit. -/
def decimal (n : Nat) : List Char :=
  Nat.toDigits 10 n

def wordBound : Nat := 0x100000000

def signedBound : Nat := 0x80000000

def longWordBound : Nat := 0x10000000000000000

end DialectLoader.Text
