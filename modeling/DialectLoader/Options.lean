import DialectLoader.Digest.Blake3
import DialectLoader.Json.Quoted

/-!
# Compile options

Code compiled under other options must not be reused, so a manifest carries a fingerprint of the
options: the digest of their compact JSON form, whose keys stand in a fixed order.
-/

namespace DialectLoader

/-- Options handed to the backends, which may heed them or not. -/
structure Options where
  /-- Whether the last statement of a script is its value. -/
  implicitReturn : Bool := true
  /-- Whether generated lines are to be annotated with the source line. -/
  reserveLines : Bool := true
  targetLua : String := "5.1"
deriving DecidableEq, Repr

namespace Options

def boolText (value : Bool) : List Char :=
  (if value then "true" else "false").toList

/-- The compact JSON form of the options. Keys and their order are fixed, so that equal options have
equal digests. -/
def canonicalText (options : Options) : List Char :=
  "\x7b\"implicitlyReturnRoot\":".toList ++ boolText options.implicitReturn ++
    ",\"reserveLineNumbers\":".toList ++ boolText options.reserveLines ++
    ",\"targetLua\":".toList ++ Json.quote options.targetLua.toList ++ "\x7d".toList

def fingerprint (options : Options) : String :=
  Digest.hex (Digest.blake3 (Text.utf8 (String.ofList options.canonicalText)))

end Options

end DialectLoader
