import DialectLoader.Dialect
import DialectLoader.LineMap

/-!
# Artifacts

An artifact records one compiled script: where its source and its generated code are, how fresh the
source was, and how generated lines belong to source lines. The code itself is not part of it; it is
on disk, and an artifact whose code was removed is of no use.
-/

namespace DialectLoader

/-- A modification time since the epoch, ordered by seconds and then by nanoseconds. Times before
the epoch do not occur. -/
structure Signal where
  seconds : Nat
  nanoseconds : Nat := 0
deriving DecidableEq, Repr

namespace Signal

def perSecond : Nat := 1000000000

/-- The first number of seconds that a time cannot have, since the system counts them in a signed
word of 64 bits. -/
def secondsBound : Nat := 0x8000000000000000

/-- A time from seconds and any number of nanoseconds, full seconds among which are carried over.
There is none if the seconds get too many. -/
def of? (seconds nanoseconds : Nat) : Option Signal :=
  let total := seconds + nanoseconds / perSecond
  if total < secondsBound then some ⟨total, nanoseconds % perSecond⟩ else none

/-- Whether a time is later than another. Equal times count as not later, so a source that was saved
twice at one time looks unchanged. -/
def later (current known : Signal) : Bool :=
  known.seconds < current.seconds ||
    (known.seconds == current.seconds && known.nanoseconds < current.nanoseconds)

end Signal

/-- One compiled script, as the cache keeps it and as a manifest lists it. -/
structure Artifact where
  /-- Logical path of the source. -/
  sourcePath : String
  /-- Path of the source from the root; messages show it. -/
  fullSourcePath : String
  /-- Path of the generated code below the cache root. -/
  outputPath : String
  /-- Path of the generated code from the root; errors at run time name it. -/
  fullOutputPath : String
  signal : Signal
  dialect : Dialect
  lineMap : LineMap
deriving DecidableEq

namespace Artifact

/-- The key under which an artifact is found by its source: the common spelling of the logical
path. -/
def sourceKey (artifact : Artifact) : String :=
  Path.normalize artifact.sourcePath

/-- The key under which an artifact is found by its generated code: the common spelling of its path
from the root. -/
def outputKey (artifact : Artifact) : String :=
  Path.normalize artifact.fullOutputPath

/-- The source line of a generated line, or that of the nearest mapped line before it. -/
def sourceLine? (artifact : Artifact) (line : Nat) : Option Nat :=
  artifact.lineMap.nearest? line

end Artifact

end DialectLoader
