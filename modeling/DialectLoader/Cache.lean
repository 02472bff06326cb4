import Std.Data.ExtTreeMap
import DialectLoader.Artifact

/-!
# The artifact cache

The cache finds an artifact by its source and by its generated code. It holds at most one artifact
for a source and at most one for an output: a new artifact displaces the one with its source as well
as the one with its output. Paths are compared in their common spelling.

A cache is a value. The lock that guards the cache of a running program, and what becomes of it when
a thread fails while holding it, is not modelled.
-/

namespace DialectLoader

/-- Artifacts by the key of their source, and for every key of an output the key of the source it
was generated from. -/
structure Cache where
  bySource : Std.ExtTreeMap String Artifact := ∅
  byOutput : Std.ExtTreeMap String String := ∅

namespace Cache

def empty : Cache := {}

def lookup (cache : Cache) (source : String) : Option Artifact :=
  cache.bySource[Path.normalize source]?

/-- The artifact whose generated code is at a path, under any spelling of it. Errors at run time are
traced back through this. -/
def lookupOutput (cache : Cache) (output : String) : Option Artifact :=
  cache.byOutput[Path.normalize output]?.bind (cache.bySource[·]?)

def size (cache : Cache) : Nat :=
  cache.bySource.size

/-- All artifacts, by the spelling of their source. The order is that in which a manifest lists
them, so equal caches have equal manifests. -/
def artifacts (cache : Cache) : List Artifact :=
  (cache.bySource.toList.map (·.2)).mergeSort fun left right =>
    decide (left.sourcePath ≤ right.sourcePath)

/-- The artifacts by source once the one with another source and the given output is gone. Its code
is about to be overwritten. -/
def withoutOwner (cache : Cache) (output source : String) : Std.ExtTreeMap String Artifact :=
  match cache.byOutput[output]? with
  | some owner => if owner = source then cache.bySource else cache.bySource.erase owner
  | none => cache.bySource

/-- Stores an artifact. The answer holds the artifact that it replaces as the one of its source;
the artifact that it displaces from its output leaves without mention. -/
def upsert (cache : Cache) (artifact : Artifact) : Option Artifact × Cache :=
  let source := artifact.sourceKey
  let output := artifact.outputKey
  let kept := cache.withoutOwner output source
  let previous := kept[source]?
  let outputs := match previous with
    | some old =>
      if old.outputKey = output then cache.byOutput else cache.byOutput.erase old.outputKey
    | none => cache.byOutput
  (previous, ⟨kept.insert source artifact, outputs.insert output source⟩)

def insert (cache : Cache) (artifact : Artifact) : Cache :=
  (cache.upsert artifact).2

/-- Forgets the artifact of a source, and the way to it from its output. The answer is what was
forgotten. -/
def remove (cache : Cache) (source : String) : Option Artifact × Cache :=
  match cache.lookup source with
  | none => (none, cache)
  | some artifact =>
    (some artifact,
      ⟨cache.bySource.erase (Path.normalize source), cache.byOutput.erase artifact.outputKey⟩)

/-- Whether a source has to be compiled: it has no artifact, or it was modified since. -/
def isStale (cache : Cache) (source : String) (current : Signal) : Bool :=
  match cache.lookup source with
  | some artifact => current.later artifact.signal
  | none => true

/-- Stores in order the artifacts that are to be kept, and counts them. A later one may displace an
earlier one, which has been counted. -/
def restore (cache : Cache) (stored : List Artifact) (keep : Artifact → Bool) : Nat × Cache :=
  let kept := stored.filter keep
  (kept.length, kept.foldl insert cache)

end Cache

end DialectLoader
