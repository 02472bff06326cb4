import DialectLoader.Files.Error
import DialectLoader.Position

/-!
# Compile errors

Why no artifact came of a script. The message of a failed compilation is its display form alone;
the other messages name the path they are about, which for a failed write is the generated file.
-/

namespace DialectLoader

/-- Why a script could not be turned into an artifact. Each kind belongs to one step of
compiling. -/
inductive CompileError where
  | unsupportedDialect (path : String)
  /-- The source could not be read; without a cause it was empty. -/
  | sourceUnreadable (path : String) (cause : Option FileError)
  | transpileFailed (path message display : String) (position : Option Position)
  | writeFailed (path : String) (cause : FileError)
deriving DecidableEq

namespace CompileError

/-- The path that an error is about: that of the script, except where the generated code could not
be written. -/
def path : CompileError → String
  | unsupportedDialect path => path
  | sourceUnreadable path _ => path
  | transpileFailed path _ _ _ => path
  | writeFailed path _ => path

/-- The message of an error. That of a failed compilation is the backend's own wording. -/
def message : CompileError → String
  | unsupportedDialect path => path ++ " is not a MoonScript or YueScript source"
  | sourceUnreadable path _ => "failed to read " ++ path
  | transpileFailed _ _ display _ => display
  | writeFailed path cause => "failed to write " ++ path ++ ": " ++ cause.message

def cause? : CompileError → Option FileError
  | sourceUnreadable _ cause => cause
  | writeFailed _ cause => some cause
  | _ => none

end CompileError

end DialectLoader
