import DialectLoader.Text.Utf8

/-!
# Bytes as characters

Programs read and write bytes. Where bytes are treated one by one, each is taken for the character
with its number, so that a text of such characters is a byte string. This is a convention of the
modules under `Machine`; in the loader bytes are bytes.
-/

namespace DialectLoader.Text

def octets (bytes : Bytes) : List Char :=
  bytes.map fun byte => Char.ofNat byte.toNat

def octetBytes (octets : List Char) : Bytes :=
  octets.map fun c => c.toNat.toUInt8

def octetsOf (text : String) : List Char :=
  octets (utf8 text)

def ofOctets (octets : List Char) : String :=
  ofUtf8Lenient (octetBytes octets)

end DialectLoader.Text
