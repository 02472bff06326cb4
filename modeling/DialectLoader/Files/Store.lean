import DialectLoader.Artifact
import DialectLoader.Files.Error
import DialectLoader.Path.Host

/-!
# File stores

A file store is a value that holds files under paths relative to its root. An operation that changes
it answers with a result and the store afterwards; a failed operation may still have changed it, for
instance when only some directories could be made.

The program is written against these operations alone. A store in memory and a disk have them; what
is proved for every store cannot use how they work.
-/

namespace DialectLoader

/-- The operations of a file store. No laws come with them, so what an operation does is known of
particular stores only. -/
class FileStore (σ : Type) where
  read : σ → String → Except FileError Bytes
  write : σ → String → Bytes → Except FileError Unit × σ
  isFile : σ → String → Bool
  isDirectory : σ → String → Bool
  modified : σ → String → Except FileError Signal
  createDirectories : σ → String → Except FileError Unit × σ
  walk : σ → String → Except FileError (List String)
  /-- Removes a directory with all that is in it, and counts the files. -/
  removeTree : σ → String → Except FileError Nat × σ
  absolute : σ → String → String
  /-- The path from the root of an absolute path below it. -/
  relative? : σ → String → Option String
  /-- The one spelling that all ways to an existing file share; the path itself if there is none. -/
  canonical : σ → String → String

end DialectLoader
