import DialectLoader.CompileError
import DialectLoader.Text.Digit

/-!
# Diagnostics

A diagnostic is a message about a place in a source. A script that does not compile gives a warning,
not an error: the host goes on without it. Diagnostics are what a session prints; what a host shows
of a message is its own affair.
-/

namespace DialectLoader

inductive Severity where
  | error
  | warning
  | info
deriving DecidableEq, Repr

def Severity.word : Severity → String
  | error => "error"
  | warning => "warning"
  | info => "info"

/-- A place in a source. A column without a line says nothing. -/
structure SourcePlace where
  file : String
  line : Option Nat := none
  column : Option Nat := none
deriving DecidableEq, Repr

/-- The written form of a place: file, line and column with colons between them, as far as they are
known. -/
def SourcePlace.render (place : SourcePlace) : String :=
  match place.line, place.column with
  | none, _ => place.file
  | some line, none => place.file ++ ":" ++ String.ofList (Text.decimal line)
  | some line, some column =>
    place.file ++ ":" ++ String.ofList (Text.decimal line) ++ ":" ++
      String.ofList (Text.decimal column)

/-- A message about a place in a source, with how serious it is. -/
structure Diagnostic where
  severity : Severity
  place : SourcePlace
  message : String
deriving DecidableEq, Repr

namespace Diagnostic

/-- The diagnostic of a compile error, at the position of the fault if the backend gave one. -/
def ofError (error : CompileError) : Diagnostic :=
  let place : SourcePlace := match error with
    | .transpileFailed path _ _ (some position) => ⟨path, some position.line, some position.column⟩
    | other => { file := other.path }
  ⟨.warning, place, error.message⟩

/-- The line that a console shows; `bold` sets off the severity by escape sequences. -/
def render (bold : Bool) (diagnostic : Diagnostic) : String :=
  let word := diagnostic.severity.word
  (if bold then "\x1b[1m" ++ word ++ "\x1b[0m" else word) ++ " at " ++ diagnostic.place.render ++
    ": " ++ diagnostic.message

def count (severity : Severity) (diagnostics : List Diagnostic) : Nat :=
  diagnostics.countP (·.severity == severity)

end Diagnostic

end DialectLoader
