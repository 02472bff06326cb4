import DialectLoader.Backend
import DialectLoader.Json.Value

/-!
# Backends in another process

A backend may be an external program. It gets the source on its standard input and the options in
its environment, and answers in one of two protocols.

In the JSON protocol the answer is an object. With an `error` it reports a fault, with its byte
offset `pos` and its wording `display`; otherwise `code` is the generated code and `posmap` gives
byte offsets for generated lines, whose numbers are the names of its members. Of several names for
one line the greatest offset counts, so the order of the members does not matter. A program that
fails reports its standard error.

In the annotated protocol a program that succeeds writes annotated code. One that fails writes a
message on its standard error; the first pair of numbers joined by a colon in its first line is the
position of the fault.

Starting a program, feeding it and waiting for its end are a parameter, and so are the reasons that
the system gives when one of them fails. A reply that cannot be read is reported without the account
that the reader of JSON gives of the reason: that account is worded by a library, and nothing in the
program looks at it.
-/

namespace DialectLoader.Backend

/-- How a program answers, which decides what its output and its status mean. -/
inductive Protocol where
  | json
  | annotatedCode
deriving DecidableEq, Repr

/-- What a program is started with: all that it can know of the script and the options. -/
structure Invocation where
  program : String
  arguments : List String
  environment : List (String × String)
  input : Bytes

/-- What starting a program comes to. Only the last case is an answer of the program; the others are
failures of the system, each with its reason. -/
inductive Run where
  /-- The program could not be started, for a reason. -/
  | notStarted (reason : String)
  /-- The program was started, but the source could not be written to it, for a reason. -/
  | notFed (reason : String)
  /-- The program was fed, but its end could not be waited for, for a reason. -/
  | unfinished (reason : String)
  /-- The program ended, successfully or not, and had written this. -/
  | ended (success : Bool) (output errors : Bytes)
deriving DecidableEq

/-- What starting a program comes to on file stores of one type. A program may change files while it
runs, so the store afterwards is part of the answer. -/
abbrev Starter (σ : Type) :=
  Invocation → σ → Run × σ

/-- An external program together with the way to start it and the protocol in which it answers. -/
structure Process where
  name : String
  program : String
  arguments : List String
  protocol : Protocol

/-- The environment in which a program finds the options, beside what it inherits. -/
def environment (options : Options) : List (String × String) :=
  [("MOONLOADER_IMPLICIT_RETURN", if options.implicitReturn then "1" else "0"),
   ("MOONLOADER_RESERVE_LINES", if options.reserveLines then "1" else "0"),
   ("MOONLOADER_TARGET_LUA", options.targetLua)]

/-- The answer of a program in the JSON protocol. A field that is missing or null is none. -/
structure Reply where
  code : Option String := none
  posmap : Option (List (String × Nat)) := none
  error : Option String := none
  pos : Option Nat := none
  display : Option String := none
deriving DecidableEq, Repr

namespace Reply

def textOrNull? : Json → Option (Option String)
  | .null => some none
  | .text value => some (some value)
  | _ => none

/-- Reads an offset: a natural number that fits a word of 64 bits, written without a fraction or an
exponent. -/
def offset? : Json → Option Nat
  | .natural value => if value < Text.longWordBound then some value else none
  | _ => none

def offsetOrNull? : Json → Option (Option Nat)
  | .null => some none
  | json => (offset? json).map some

/-- Reads the offsets of generated lines. Names stay as they are spelled; of two members with one
name only the last counts. -/
def posmap? : Json → Option (List (String × Nat))
  | .object members => do
    let pairs ← members.mapM fun (name, value) => do return (← name, ← offset? value)
    return (Std.ExtTreeMap.ofList pairs).toList
  | _ => none

/-- The names that have a meaning in a reply, in the order in which an array gives their values. -/
inductive Field where
  | code
  | posmap
  | error
  | pos
  | display
deriving DecidableEq

def Field.ofName? : String → Option Field
  | "code" => some .code
  | "posmap" => some .posmap
  | "error" => some .error
  | "pos" => some .pos
  | "display" => some .display
  | _ => none

/-- Sets a field to a value of its kind. A value of another kind makes the whole reply
unreadable. -/
def set? (reply : Reply) (field : Field) (value : Json) : Option Reply :=
  match field with
  | .code => (textOrNull? value).map fun code => { reply with code }
  | .posmap => (posmap? value).map fun posmap => { reply with posmap := some posmap }
  | .error => (textOrNull? value).map fun error => { reply with error }
  | .pos => (offsetOrNull? value).map fun pos => { reply with pos }
  | .display => (textOrNull? value).map fun display => { reply with display }

/-- Adds the members of an object to a reply. `seen` holds the fields that were there before; none
may come again. Members of other names are skipped. -/
def addMembers? (reply : Reply) (seen : List Field) : List (Option String × Json) → Option Reply
  | [] => some reply
  | (name, value) :: rest => do
    match Field.ofName? (← name) with
    | none => addMembers? reply seen rest
    | some field =>
      if seen.contains field then none
      else addMembers? (← reply.set? field value) (field :: seen) rest

/-- The reply that a JSON value stands for: an object, or an array of all five fields in order. -/
def ofJson? : Json → Option Reply
  | .object members => addMembers? {} [] members
  | .array [code, posmap, error, pos, display] => do
    let reply ← ({} : Reply).set? .code code
    let reply ← reply.set? .posmap posmap
    let reply ← reply.set? .error error
    let reply ← reply.set? .pos pos
    reply.set? .display display
  | _ => none

/-- The offsets of the lines whose numbers can be read, in the order of lines and then of
offsets. -/
def reports (reply : Reply) : List (Nat × Nat) :=
  let read := (reply.posmap.getD []).filterMap fun (name, offset) =>
    (Text.readSigned? Text.wordBound name.toList).map (·, offset)
  read.mergeSort fun left right => left.1 < right.1 || (left.1 == right.1 && left.2 ≤ right.2)

/-- What a reply says. An error counts more than code, and code that is missing is empty. -/
def attempt (reply : Reply) : Attempt :=
  match reply.error with
  | some message => .faulted { message, offset := reply.pos, display := reply.display }
  | none => .produced (.offsetMapped (reply.code.getD "") reply.reports)

/-- What the output of a successful program says. Output that is no reply is a fault; its message
says only that, and leaves out how the reader of JSON words the reason. -/
def read (output : String) : Attempt :=
  match (Json.parse? (Text.trimmed output)).bind ofJson? with
  | some reply => reply.attempt
  | none => .faulted { message := "malformed driver reply" }

end Reply

/-- The first pair of digit runs with a colon between them. A run starts as early as possible and
takes in all digits that follow. -/
def linePair? : List Char → Option (List Char × List Char)
  | [] => none
  | c :: rest =>
    let line := (c :: rest).takeWhile Text.isDigit
    match (c :: rest).drop line.length with
    | ':' :: after =>
      let column := after.takeWhile Text.isDigit
      if line.isEmpty || column.isEmpty then linePair? rest else some (line, column)
    | _ => linePair? rest

/-- The fault in a message of the annotated protocol, with the position that its first line mentions
if that fits words. -/
def messageFault (message : String) : Fault :=
  let position := do
    let (line, column) ← linePair? ((Text.lines message.toList).headD [])
    return (← Text.readDecimal? Text.wordBound line, ← Text.readDecimal? Text.wordBound column)
  { message, lineColumn := position }

/-- What a program that ended says. Bytes that are no UTF-8 are replaced, so there is always a text
to go by. -/
def Protocol.interpret (protocol : Protocol) (success : Bool) (output errors : Bytes) : Attempt :=
  match protocol, success with
  | .json, true => Reply.read (Text.ofUtf8Lenient output)
  | .json, false => .faulted { message := Text.trimmed (Text.ofUtf8Lenient errors) }
  | .annotatedCode, true => .produced (.annotated (Text.ofUtf8Lenient output))
  | .annotatedCode, false => .faulted (messageFault (Text.trimmed (Text.ofUtf8Lenient errors)))

def Process.invocation (process : Process) (source : String) (options : Options) : Invocation :=
  ⟨process.program, process.arguments, environment options, Text.utf8 source⟩

/-- A backend that hands scripts to an external program; `start` says what starting one comes to. -/
def ofProcess (process : Process) (start : Invocation → Run) : Backend where
  name := process.name
  transpile source options :=
    match start (process.invocation source options) with
    | .notStarted reason =>
      .faulted { message := "failed to start " ++ process.program ++ ": " ++ reason }
    | .notFed reason => .faulted { message := "failed to feed " ++ process.name ++ ": " ++ reason }
    | .unfinished reason => .faulted { message := process.name ++ " did not finish: " ++ reason }
    | .ended success output errors => process.protocol.interpret success output errors

end DialectLoader.Backend
