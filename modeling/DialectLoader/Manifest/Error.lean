import DialectLoader.Files.Error
import DialectLoader.Manifest

/-!
# Manifest errors

Why a manifest could not be stored, or why a stored one is not trusted. Bytes that are no manifest
are reported as such; the account that a decoding library gives of the place and the reason is left
out of the message, and no part of the program looks at it.
-/

namespace DialectLoader

/-- Why a manifest is of no use. A realm that starts takes each of these but a missing manifest as a
reason to empty the cache root. -/
inductive ManifestError where
  | file (cause : FileError)
  | malformed
  | absent
  | otherVersion (found : Nat)
  | otherOptions
deriving DecidableEq

/-- The message of an error. That of malformed bytes ends where the words of the decoder would
begin: these are not modelled. -/
def ManifestError.message : ManifestError → String
  | file cause => "IO error: " ++ cause.message
  | malformed => "Serialization error"
  | absent => "Cache manifest not found"
  | otherVersion found =>
    "Cache version mismatch: expected " ++ String.ofList (Text.decimal Manifest.currentVersion) ++
      ", found " ++ String.ofList (Text.decimal found)
  | otherOptions => "Compile options changed since the cache was written"

end DialectLoader
