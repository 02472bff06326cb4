import DialectLoader.Config.Yaml
import DialectLoader.Files.Disk

/-!
# Configuration files

A configuration file is named by a path of its own, not below the root of a realm. It cannot be used
if it cannot be read as text, or if its text is no configuration. In the second case only this much
is said: the reader of YAML has more to say about the place and the reason, in words of its own that
are left out here.
-/

namespace DialectLoader

/-- Why a configuration file cannot be used: the system's reason for not reading it, or that its
text is no configuration. -/
inductive ConfigError where
  | unreadable (cause : FileError)
  | malformed
deriving DecidableEq

/-- The text of the file at a path, which has to be UTF-8 throughout. -/
def Disk.textAt (disk : Disk) (path : String) : Except FileError String := do
  match Text.ofUtf8? (← disk.readAt path) with
  | some text => .ok text
  | none => .error .notText

namespace Config

def load (disk : Disk) (path : String) : Except ConfigError Config :=
  match disk.textAt path with
  | .error cause => .error (.unreadable cause)
  | .ok text => (ofYaml? text).elim (.error .malformed) .ok

/-- Writes a new configuration file over whatever file is there. Asking first is up to the command
line. -/
def writeInitial (disk : Disk) (path : String) : Except FileError Unit × Disk :=
  disk.writeAt path (Text.utf8 initialText)

end Config

end DialectLoader
