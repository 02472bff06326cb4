import DialectLoader.Dialect
import DialectLoader.LineMap
import DialectLoader.Options

/-!
# Backends

A backend turns the text of one script into Lua. Whatever it does, compiling comes to one of two
outcomes: code that shows something, with its line map, or a failure with a message and a form of it
for display, both of which show something.

A backend may produce code, report a fault, or panic; asked to word a fault for display it may
answer, stay silent, or panic. A missing, blank or panicked wording is replaced by the message of
the fault, and a blank message by a sentence that names the backend.

A backend is a function here: it answers at once, always in the same way, and touches nothing. That
a panic is caught, and what it may leave behind in the thread that it happened in, is not modelled.
-/

namespace DialectLoader

/-- The code that a backend produced, with what it tells about lines in one of two ways. -/
inductive Output where
  /-- Code with byte offsets into the source, reported for generated lines. -/
  | offsetMapped (code : String) (reports : List (Nat × Nat))
  /-- Code whose lines end in line comments. -/
  | annotated (code : String)
deriving DecidableEq, Repr

/-- A fault that a backend reports about a script. It may say where it is by an offset, by a line
and a column, or not at all. -/
structure Fault where
  message : String
  offset : Option Nat := none
  lineColumn : Option (Nat × Nat) := none
  display : Option String := none
deriving DecidableEq, Repr

/-- What a backend does with a script, before it is judged whether that is of any use. -/
inductive Attempt where
  | produced (output : Output)
  | faulted (fault : Fault)
  /-- The backend panicked, with a text or with something else. -/
  | panicked (payload : Option String)
deriving DecidableEq, Repr

/-- What a backend does when asked to word a fault. -/
inductive Wording where
  | worded (text : String)
  | silent
  | panicked
deriving DecidableEq, Repr

/-- A compiler for one dialect: its name, what it does with a script, and how it words a fault. -/
structure Backend where
  name : String
  transpile : String → Options → Attempt
  wording : Fault → String → Wording := fun fault _ => fault.display.elim .silent .worded

/-- What compiling a script comes to once everything a backend can do wrong has been taken care
of. -/
inductive Outcome where
  | success (code : String) (lineMap : LineMap)
  | failure (message display : String) (position : Option Position)
deriving DecidableEq

namespace Output

def code : Output → String
  | offsetMapped code _ => code
  | annotated code => code

/-- The line map of the code, made of the reported offsets or read from the comments in the code. -/
def lineMap (source : String) : Output → LineMap
  | offsetMapped _ reports => .ofOffsets (Text.utf8 source) reports
  | annotated code => .ofComments code

end Output

/-- Where in the source a fault is. An offset counts more than a line and a column, and either is
kept within the source. -/
def Fault.position? (fault : Fault) (source : String) : Option Position :=
  match fault.offset, fault.lineColumn with
  | some offset, _ => some (.ofOffset (Text.utf8 source) offset)
  | none, some (line, column) => some (.ofLineColumn (Text.utf8 source) line column)
  | none, none => none

namespace Backend

/-- The outcome of a fault: blank messages and wordings are replaced, so that there is always
something to show. -/
def failure (backend : Backend) (fault : Fault) (source : String) : Outcome :=
  let stated := if Text.blank fault.message then
    { fault with message := backend.name ++ " failed without a message" } else fault
  let display := match backend.wording stated source with
    | .worded text => if Text.blank text then stated.message else text
    | .silent | .panicked => stated.message
  .failure stated.message display (fault.position? source)

/-- The outcome of produced code. Code that shows nothing is a fault. -/
def accept (backend : Backend) (output : Output) (source : String) : Outcome :=
  if Text.blank output.code then
    backend.failure { message := backend.name ++ " produced no output" } source
  else .success output.code (output.lineMap source)

/-- The outcome of compiling a script. A panic becomes a fault that tells what the panic said. -/
def compile (backend : Backend) (source : String) (options : Options) : Outcome :=
  match backend.transpile source options with
  | .produced output => backend.accept output source
  | .faulted fault => backend.failure fault source
  | .panicked payload =>
    let message := backend.name ++ " panicked: " ++ payload.getD "unknown panic"
    .failure message message none

end Backend

structure Backends where
  moonScript : Backend
  yueScript : Backend

namespace Backends

def backend (backends : Backends) : Dialect → Backend
  | .moonScript => backends.moonScript
  | .yueScript => backends.yueScript

/-- The outcome of compiling a script of a dialect with the backend of that dialect. -/
def compile (backends : Backends) (dialect : Dialect) (source : String) (options : Options) :
    Outcome :=
  (backends.backend dialect).compile source options

end Backends

end DialectLoader
