import DialectLoader.Machine.Script.Run

/-!
# Starting scripts

A script comes from a file, from an argument or from the input. It ends with the status that it asks
for, or with a message about an exception that nothing handled.

The scripts are written in a part of Python that has no classes, generators or decorators and few
modules. They stand in for the interpreters of transpilers. The loader takes what starting a program
comes to as a parameter, so no result depends on what they do.
-/

namespace DialectLoader.Script

def stepLimit : Nat := 200000

/-- The text of a script, and where it comes from. Messages about it depend on both. -/
structure Source where
  place : List Char
  text : List Char
  isShown : Bool

namespace Source

def shownLine (source : Source) (line : Nat) : List Char :=
  if !source.isShown then []
  else
    let found := ((Text.pieces (· == '\n') source.text).getD (line - 1) []).dropWhile isGap
    if found.isEmpty then [] else "    ".toList ++ (found.reverse.dropWhile isGap).reverse ++ ['\n']

def location (source : Source) (line : Nat) (function : Option String) : List Char :=
  "  File \"".toList ++ source.place ++ "\", line ".toList ++ Text.decimal line ++
    (function.map fun name => ", in ".toList ++ name.toList).getD [] ++ '\n' ::
      source.shownLine line

def complaint (source : Source) (problem : Problem) : List Char :=
  source.location problem.line none ++ problem.kind.toList ++ ": ".toList ++
    problem.text.toList ++ ['\n']

def report (source : Source) (state : State) (exception : Value) (trace : List (Nat × String)) :
    List Char :=
  let kind := match exception with
    | .exception "json.JSONDecodeError" _ => "json.decoder.JSONDecodeError"
    | .exception kind _ => kind
    | _ => ""
  let text := state.textOf exception
  "Traceback (most recent call last):\n".toList ++
    (trace.map fun (line, function) => source.location line (some function)).flatten ++
    kind.toList ++ (if text.isEmpty then [] else ':' :: ' ' :: text) ++ ['\n']

end Source

/-- Runs a script with arguments. An exit is an exception too and decides the status; any other
exception is a failure. -/
def run (task : Task) (source : Source) (arguments : List (List Char)) (input : List Char) : Done :=
  match parse source.text with
  | .error problem => { task.idle with errors := encoded (source.complaint problem), status := 1 }
  | .ok statements =>
    let environment := task.environment.map fun (name, value) =>
      (Value.text name.toList, Value.text (decoded value))
    let globals := [("__name__", Value.text "__main__".toList), ("__file__", .text source.place)]
    let initial : State := {
      cells := #[.scope globals [] [], .dict environment,
        .list (arguments.map fun text => .text (decoded text))]
      scope := [0]
      input
      disk := task.disk }
    let (outcome, final) := (exec stepLimit statements).run initial
    let (status, message) := match outcome with
      | .error (.raised (.exception "SystemExit" arguments) _) =>
        match arguments.headD .none with
        | .none => (0, [])
        | .bool flag => (if flag then 1 else 0, [])
        | .int status => ((status.emod 256).toNat, [])
        | value => (1, final.textOf value ++ ['\n'])
      | .error (.raised exception trace) => (1, source.report final exception trace)
      | .error .exhausted => (137, [])
      | _ => (0, [])
    { output := final.output.reverse.flatten
      errors := final.errors.reverse.flatten ++ encoded message
      status, input := final.input, disk := final.disk }

def withoutOptions : List (List Char) → List (List Char)
  | ('-' :: c :: letters) :: rest =>
    if (c :: letters).all fun letter => "uBEsSIOq".toList.contains letter then withoutOptions rest
    else ('-' :: c :: letters) :: rest
  | arguments => arguments

end DialectLoader.Script

namespace DialectLoader.Tools

/-- Runs a script of the general language: one in a file, in an argument behind `-c`, or the
input. -/
def script (task : Task) : Done :=
  match Script.withoutOptions task.arguments with
  | [] => Script.run task ⟨"<stdin>".toList, Script.decoded task.input, false⟩ [[]] []
  | ['-'] :: rest =>
    Script.run task ⟨"<stdin>".toList, Script.decoded task.input, false⟩ (['-'] :: rest) []
  | ['-', 'c'] :: text :: rest =>
    Script.run task ⟨"<string>".toList, Script.decoded text, false⟩ (['-', 'c'] :: rest) task.input
  | ['-', '-', 'v', 'e', 'r', 's', 'i', 'o', 'n'] :: _ | ['-', 'V'] :: _ => task.idle
  | ('-' :: c :: _) :: _ => { task.idle with
      errors := Text.octetsOf ("Unknown option: -" ++ String.ofList [c] ++ "\n"), status := 2 }
  | path :: rest =>
    let place := Script.joinedPaths [Script.workingPath task.disk, Script.decoded path]
    match task.disk.readAt (pathOf path) with
    | .ok bytes =>
      Script.run task ⟨place, Script.unifiedNewlines (Script.decoded (Text.octets bytes)), true⟩
        (path :: rest) task.input
    | .error cause =>
      let number := cause.number?.getD "0"
      task.fail 2
        ("can't open file '" ++ String.ofList place ++ "': [Errno " ++ number ++ "] " ++
        cause.reason)

end DialectLoader.Tools
