import DialectLoader.Cache

/-!
# Manifests

A manifest is what a cache leaves on disk: the version of the format, the fingerprint of the
options, and the artifacts in the order of their sources. It lists the artifacts and not their code,
which is in files of its own and may be gone when the manifest is read.
-/

namespace DialectLoader

/-- The stored form of a cache, with what decides whether it can be trusted. -/
structure Manifest where
  version : Nat
  fingerprint : String
  artifacts : List Artifact
deriving DecidableEq

namespace Manifest

/-- The version of the format. A manifest of another version is not read any further. -/
def currentVersion : Nat := 1

def isCompatible (manifest : Manifest) : Bool :=
  manifest.version == currentVersion

def ofCache (cache : Cache) (fingerprint : String) : Manifest :=
  ⟨currentVersion, fingerprint, cache.artifacts⟩

def fileName : String := ".manifest.bin"

def path (cacheRoot : String) : String :=
  Path.join cacheRoot fileName

end Manifest

end DialectLoader
