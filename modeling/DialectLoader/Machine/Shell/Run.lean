import DialectLoader.Machine.Shell.State
import DialectLoader.Machine.Tools.Find

/-!
# Running shell scripts

Running a script changes its state. A script is read line by line, so what stands before a line that
cannot be read is run. Commands on a copy of the state leave nothing behind but what they wrote, the
input they have read and their status. A number bounds the nesting of commands and the rounds of
loops; a script that exceeds it fails.

A name means a part of the language, a command of the script, or a program: a tool of the system, or
an executable file on the disk whose first line tells which tool runs it.

All commands run one after the other. The commands of a pipe do not run at the same time, a command
in the background is over before the next one starts, and signals come only from the script itself.
-/

namespace DialectLoader.Shell

def interpreter? (script : List Char) : Option (List Char × List Char) :=
  let isBlank (c : Char) : Bool := c == ' ' || c == '\t'
  match script with
  | '#' :: '!' :: rest =>
    let line := ((rest.takeWhile (· != '\n')).dropWhile isBlank).reverse.dropWhile isBlank
    let path := line.reverse.takeWhile (!isBlank ·)
    some (path, (line.reverse.drop path.length).dropWhile isBlank)
  | _ => none

def systemProgram? (path : List Char) : Option String :=
  let name := Text.ofOctets (Tools.lastName path)
  let directory := String.ofList (Tools.directoryName path)
  if ["/bin", "/usr/bin", "/usr/local/bin"].contains directory && isProgram name then some name
  else none

def splitWords : Option (List Char) → List Char → List (List Char)
  | current, [] => (current.map List.reverse).toList
  | current, '\\' :: c :: rest => splitWords (some (c :: current.getD [])) rest
  | current, c :: rest =>
    if Tools.isSpace c then (current.map List.reverse).toList ++ splitWords none rest
    else if c == '\'' || c == '"' then splitWords (some (current.getD [])) rest
    else splitWords (some (c :: current.getD [])) rest

def chunks {α : Type} (size : Nat) : Nat → List α → List (List α)
  | 0, _ | _ + 1, [] => []
  | fuel + 1, items => items.take size :: chunks size fuel (items.drop size)

def putIn (mark text : List Char) : Nat → List Char → List Char
  | 0, word => word
  | _ + 1, [] => []
  | fuel + 1, c :: rest =>
    if !mark.isEmpty && mark.isPrefixOf (c :: rest) then
      text ++ putIn mark text fuel ((c :: rest).drop mark.length)
    else c :: putIn mark text fuel rest

def commandsFor (input : List Char) :
    Nat → Option Nat → Option (List Char) → Bool → Bool → List (List Char) →
    List (List (List Char))
  | 0, _, _, _, _, _ => []
  | fuel + 1, size, mark, zero, lazy, arguments =>
    match arguments with
    | ['-', 'n'] :: digits :: rest | ['-', 'L'] :: digits :: rest =>
      commandsFor input fuel (Text.readDecimal? Text.wordBound digits) mark zero lazy rest
    | ['-', 'I'] :: mark :: rest => commandsFor input fuel size (some mark) zero lazy rest
    | ['-', '0'] :: rest => commandsFor input fuel size mark true lazy rest
    | ['-', 'r'] :: rest => commandsFor input fuel size mark zero true rest
    | ['-', 't'] :: rest => commandsFor input fuel size mark zero lazy rest
    | ['-', 'P'] :: _ :: rest => commandsFor input fuel size mark zero lazy rest
    | ('-' :: 'n' :: digits) :: rest =>
      commandsFor input fuel (Text.readDecimal? Text.wordBound digits) mark zero lazy rest
    | ('-' :: 'I' :: mark) :: rest => commandsFor input fuel size (some mark) zero lazy rest
    | _ =>
      let command := if arguments.isEmpty then ["echo".toList] else arguments
      let words := if zero then (Text.pieces (· == '\x00') input).filter (!·.isEmpty)
        else splitWords none input
      match mark with
      | some mark =>
        let lines := if zero then words
          else (Text.plainLines input).map (·.dropWhile fun c => c == ' ' || c == '\t')
        (lines.filter (!·.isEmpty)).map fun line => command.map fun word =>
          putIn mark line word.length word
      | none =>
        if words.isEmpty then (if lazy then [] else [command])
        else
          match size with
          | some size => (chunks (max size 1) words.length words).map (command ++ ·)
          | none => [command ++ words]

def plainEcho : Bool → Bool → List (List Char) → List Char
  | escapes, _, ['-', 'n'] :: rest => plainEcho escapes false rest
  | _, newline, ['-', 'e'] :: rest => plainEcho true newline rest
  | escapes, newline, words =>
    let text := [' '].intercalate words
    let (shown, ended) := if escapes then Format.unescape text.length text else (text, false)
    if newline && !ended then shown ++ ['\n'] else shown

mutual

def runScript : Nat → Nat → List Char → State → State
  | 0, _, _, state => state.finish 2
  | fuel + 1, base, script, state =>
    let shifted := (lexemes script).map fun lexeme => { lexeme with line := lexeme.line + base - 1 }
    runLines fuel shifted state

def runLines : Nat → List Lexeme → State → State
  | 0, _, state => state.finish 2
  | fuel + 1, lexemes, state =>
    match Command.readLine (lexemes.length + 1) lexemes with
    | .ok none => state
    | .ok (some (commands, rest)) =>
      let after := runList fuel commands state
      if after.flow == .going then runLines fuel rest after else after
    | .error problem => { state with line := problem.line }.abort ("Syntax error: " ++ problem.text)

/-- Runs a whole script as a program, and at its end what it has left for then. -/
def runWhole : Nat → List Char → State → State
  | 0, _, state => state.finish 2
  | fuel + 1, script, state =>
    let after := runScript fuel 1 script state
    match after.flow, after.farewell with
    | .killed, _ => after
    | _, some commands =>
      let last := runScript fuel 1 commands { after with farewell := none, flow := .going }
      if last.flow == .ended then last else { last with status := after.status }
    | _, none => after

def runList : Nat → List Command → State → State
  | 0, _, state => state.finish 2
  | _ + 1, [], state => state
  | fuel + 1, command :: rest, state =>
    let after := run fuel command state
    if after.flow == .going then runList fuel rest after else after

def runTested : Nat → List Command → State → State
  | 0, _, state => state.finish 2
  | fuel + 1, commands, state =>
    (runList fuel commands (state.setOption 'e' false)).setOption 'e' (state.has 'e')

def run : Nat → Command → State → State
  | 0, _, state => state.finish 2
  | fuel + 1, .simple line assignments words routes, state =>
    let expanding := { state with line, outputStatus := 0 }
    let (fields, expanded) :=
      if Command.declares words then expandDeclared fuel words expanding
      else expandFields fuel words expanding
    if expanded.flow != .going then expanded
    else
      match fields with
      | [] =>
        let (opened, redirected) := redirect fuel routes expanded
        let back := redirected.released routes expanded
        if !opened then { back with status := 2 }.checked
        else
          let assigned :=
            (assignAll fuel assignments back).trace (assignments.map (·.1)) [] back.channels
          if assigned.flow != .going then assigned
          else { assigned with status := assigned.outputStatus }.checked
      | name :: arguments =>
        let known := Text.ofOctets name
        if known == "exec" && arguments.isEmpty then
          let (opened, redirected) := redirect fuel routes expanded
          if opened then assignAll fuel assignments { redirected with status := 0 }
          else redirected.finish 2
        else if specialBuiltins.contains known then
          let (opened, redirected) := redirect fuel routes expanded
          if !opened then { redirected with channels := expanded.channels }.finish 2
          else
            let assigned := (assignAll fuel assignments redirected).trace (assignments.map (·.1))
              fields expanded.channels
            if assigned.flow != .going then assigned
            else
              let after := runNamed fuel known arguments assigned
              (after.released routes expanded).checked
        else
          let names := assignments.map (·.1)
          let after := runRouted fuel routes
            (fun state =>
              let assigned :=
                (assignAll fuel assignments state).trace names fields expanded.channels
              if assigned.flow != .going then assigned
              else runNamed fuel known arguments
                { assigned with exported := names ++ assigned.exported })
            expanded
          let restored :=
            names.foldl (fun state name => state.restore name (expanded.bindings.lookup name)) after
          { restored with exported := if names.isEmpty then after.exported
            else expanded.exported }.checked
  | fuel + 1, .choose subject arms, state =>
    let (glyphs, state) := expand fuel subject { state with outputStatus := 0 }
    if state.flow != .going then state
    else runArms fuel (Glyph.chars glyphs) arms { state with status := 0 }
  | fuel + 1, .branch condition success failure, state =>
    let tested := runTested fuel condition state
    if tested.flow != .going then tested
    else if tested.status = 0 then runList fuel success tested
    else runList fuel failure { tested with status := 0 }
  | fuel + 1, .follow first success second, state =>
    let after := runTested fuel [first] state
    if after.flow != .going || (after.status == 0) != success then after else run fuel second after
  | fuel + 1, .pipe first second, state =>
    let (text, left) := state.collecting (run fuel first)
    let after := { left with input := text }.isolated (run fuel second)
    { after with input := left.input }.checked
  | fuel + 1, .negate command, state =>
    let after := runTested fuel [command] state
    { after with status := if after.status = 0 then 1 else 0 }
  | fuel + 1, .group commands, state => runList fuel commands state
  | fuel + 1, .apart commands, state => (state.isolated (runCopy fuel commands)).checked
  | fuel + 1, .background command, state =>
    let after := { state with input := [] }.isolated (run fuel command)
    { after with input := state.input, status := 0, backgroundStatus := some after.status }
  | fuel + 1, .loop condition success body, state =>
    runLoop fuel condition success body { state with status := 0 }
  | fuel + 1, .each name words body, state =>
    let (fields, state) := match words with
      | none => (state.parameters.drop 1, state)
      | some words => expandFields fuel words state
    if state.flow != .going then state else runEach fuel name fields body { state with status := 0 }
  | _ + 1, .define name body, state =>
    { state with functions := (name, body) :: state.functions, status := 0 }
  | fuel + 1, .routed command routes, state => runRouted fuel routes (run fuel command) state

def runCopy : Nat → List Command → State → State
  | 0, _, state => state.finish 2
  | fuel + 1, commands, state =>
    let after := runList fuel commands state
    match after.flow, after.farewell with
    | .killed, _ | _, none => after
    | _, some text =>
      let last := runScript fuel 1 text { after with farewell := none, flow := .going }
      if last.flow == .ended then last else { last with status := after.status }

def assignAll : Nat → List (String × Word) → State → State
  | 0, _, state => state.finish 2
  | _ + 1, [], state => state
  | fuel + 1, (name, word) :: rest, state =>
    let (glyphs, state) := expand fuel word state
    if state.flow != .going then state
    else assignAll fuel rest (state.set name (Glyph.chars glyphs))

def runRouted : Nat → List Route → (State → State) → State → State
  | 0, _, _, state => state.finish 2
  | fuel + 1, routes, act, state =>
    let (opened, redirected) := redirect fuel routes state
    let after := if opened && redirected.flow == .going then act redirected
      else { redirected with status := 2 }
    after.released routes state

def redirect : Nat → List Route → State → Bool × State
  | 0, _, state => (false, state)
  | _ + 1, [], state => (true, state)
  | fuel + 1, ⟨descriptor, target⟩ :: rest, state =>
    let (opened, redirected) := match target with
      | .document text expands =>
        if expands then
          let (glyphs, state) := expand fuel (documentWord text) state
          (true, state.feed descriptor (Glyph.chars glyphs))
        else (true, state.feed descriptor text)
      | .input word =>
        let (glyphs, state) := expand fuel word state
        let path := Glyph.chars glyphs
        match String.ofList path with
        | "/dev/null" => (true, state.feed descriptor [])
        | "/dev/stdin" => (true, state)
        | _ =>
          match endless? path, state.disk.readAt (pathOf path) with
          | some text, _ => (true, state.feed descriptor text)
          | none, .ok bytes => (true, state.feed descriptor (Text.octets bytes))
          | none, .error cause =>
            (false, state.complain
              ("cannot open " ++ pathOf path ++ ": " ++ State.openingReason false cause))
      | .output word append =>
        let (glyphs, state) := expand fuel word state
        let path := Glyph.chars glyphs
        match String.ofList path with
        | "/dev/null" => (true, state.connect descriptor .nowhere)
        | "/dev/stdout" =>
          (true, state.connect descriptor ((state.channels.lookup 1).getD .nowhere))
        | "/dev/stderr" =>
          (true, state.connect descriptor ((state.channels.lookup 2).getD .nowhere))
        | _ =>
          match state.disk.openFile (pathOf path) append with
          | (.ok place, disk) => (true, { state with disk }.connect descriptor (.file place))
          | (.error cause, disk) =>
            (false, { state with disk }.complain
              ("cannot create " ++ pathOf path ++ ": " ++ State.openingReason true cause))
      | .channel word =>
        let (glyphs, state) := expand fuel word state
        let number := Glyph.chars glyphs
        if number == ['-'] then
          (true, { state with sources := state.sources.filter (·.1 != descriptor) }.connect
            descriptor .nowhere)
        else
          match Text.readDecimal? 10 number with
          | some 0 => (true, if descriptor == 0 then state else state.feed descriptor state.input)
          | some other =>
            match state.sources.lookup other, state.channels.lookup other with
            | some text, _ => (true, state.feed descriptor text)
            | none, some channel => (true, state.connect descriptor channel)
            | none, none =>
              (false, state.complain (Text.ofOctets number ++ ": Bad file descriptor"))
          | none => (false, state.complain "Syntax error: Bad fd number")
    if opened && redirected.flow == .going then redirect fuel rest redirected
    else (false, redirected)

def runNamed : Nat → String → List (List Char) → State → State
  | 0, _, _, state => state.finish 2
  | fuel + 1, name, arguments, state =>
    if specialBuiltins.contains name then runSpecial fuel name arguments state
    else
      match state.functions.lookup name with
      | some body =>
        let after := run fuel body
          { state with parameters := state.parameters.take 1 ++ arguments, locals := some [] }
        { (after.locals.getD []).foldl (fun after (name, value) => after.restore name value)
          after with
          parameters := state.parameters
          locals := state.locals
          flow := if after.flow == .returning then .going else after.flow }
      | none => runPlain fuel name arguments state

def runSpecial : Nat → String → List (List Char) → State → State
  | 0, _, _, state => state.finish 2
  | fuel + 1, name, arguments, state =>
    match name with
    | "exit" => state.withNumber "exit" arguments state.status fun status =>
      state.finish (status % 256)
    | "return" => state.withNumber "return" arguments state.status fun status =>
      { state with status := status % 256, flow := .returning }
    | "break" => state.withNumber "break" arguments 1 fun loops =>
      { state with status := 0, flow := .leaving loops }
    | "continue" => state.withNumber "continue" arguments 1 fun loops =>
      { state with status := 0, flow := .continuing loops }
    | "shift" => state.withNumber "shift" arguments 1 fun count =>
      if state.parameters.length ≤ count then state.abort "shift: can't shift that many"
      else { state with
        parameters := state.parameters.take 1 ++ state.parameters.drop (1 + count), status := 0 }
    | "set" => { state with status := 0 }.configure arguments
    | "export" =>
      let declared := arguments.filter (·.head? != some '-')
      if declared.isEmpty then
        let lines := state.environment.map fun (name, value) =>
          "export ".toList ++ Text.octetsOf name ++ "='".toList ++ value ++ ['\'']
        { state.write 1 (Text.joinLines (Tools.sortedPaths lines)) with status := 0 }
      else
        state.declare "export" declared fun state name value =>
          let known := { state with exported := name :: state.exported }
          value.elim known (known.set name)
    | "readonly" =>
      state.declare "readonly" (arguments.filter (·.head? != some '-')) fun state name value =>
      let known := value.elim state (state.set name)
      { known with frozen := name :: known.frozen }
    | "unset" =>
      let names := arguments.filter (·.head? != some '-')
      if arguments.head? == some ['-', 'f'] then
        { state with functions := state.functions.filter fun (known, _) =>
          !names.contains known.toList, status := 0 }
      else
        state.declare "unset" names fun state name _ =>
          if state.frozen.contains name then state.abort ("unset: " ++ name ++ ": is read only")
          else state.remove name
    | "trap" =>
      match arguments with
      | [] => { state with status := 0 }
      | [signal] => state.setTraps ['-'] [signal]
      | ['-', '-'] :: action :: signals | action :: signals => state.setTraps action signals
    | "eval" =>
      let after := runScript fuel 1 ([' '].intercalate arguments)
        { state with status := 0, speaker := some "eval" }
      { after with line := state.line, speaker := state.speaker }
    | "exec" =>
      match arguments with
      | other :: arguments =>
        let after :=
          runProgram fuel (Text.ofOctets other) arguments { state with speaker := some "exec" }
        { after with farewell := none, speaker := state.speaker }.finish after.status
      | [] => { state with status := 0 }
    | "." =>
      match arguments with
      | [] => { state with status := 0 }
      | path :: _ =>
        if !path.contains '/' then state.abort (".: " ++ pathOf path ++ ": not found")
        else
          match state.disk.readAt (pathOf path) with
          | .ok bytes =>
            let after := runScript fuel 1 (Text.octets bytes) { state with status := 0 }
            { after with line := state.line, flow := if after.flow == .returning then .going
              else after.flow }
          | .error cause =>
            state.abort
              (".: cannot open " ++ pathOf path ++ ": " ++ State.openingReason false cause)
    | _ => { state with status := 0 }

def runPlain : Nat → String → List (List Char) → State → State
  | 0, _, _, state => state.finish 2
  | fuel + 1, name, arguments, state =>
    match name with
    | "echo" => { state.write 1 (Format.echo arguments) with status := 0 }
    | "printf" =>
      match if arguments.head? == some ['-', '-'] then arguments.drop 1 else arguments with
      | format :: values =>
        let written := Format.all format values.length values
        let shown :=
          written.problems.foldl (fun state problem => state.complain ("printf: " ++ problem))
          (state.write 1 written.text)
        { shown with status := if written.refused then 2 else if written.problems.isEmpty then 0
          else 1 }
      | [] => state.fail 2 "printf: usage: printf format [arg ...]"
    | "true" => { state with status := 0 }
    | "false" => { state with status := 1 }
    | "test" | "[" =>
      if name == "[" && arguments.getLast? != some [']'] then state.fail 2 "[: missing ]"
      else
        let (status, problem) :=
          Condition.status state.disk (if name == "[" then arguments.dropLast else arguments)
        let shown := problem.elim state fun text => state.complain (name ++ ": " ++ text)
        { shown with status }
    | "cd" => state.goTo arguments
    | "pwd" => { state.write 1 (Tools.here state.disk ++ ['\n']) with status := 0 }
    | "read" => state.readLine arguments
    | "getopts" => state.nextOption arguments
    | "local" =>
      match state.locals with
      | none => state.abort "local: not in a function"
      | some _ => state.declare "local" arguments fun state name value =>
        let saved := (name, state.bindings.lookup name) :: state.locals.getD []
        let known := { state with locals := some saved }
        value.elim known (known.set name)
    | "kill" =>
      match arguments with
      | [] => state.fail 2
        ("kill: Usage: kill [-s sigspec | -signum | -sigspec] [pid | job]... or\n" ++
          "kill -l [exitstatus]")
      | first :: rest =>
        let (signal, targets) := match first, rest with
          | ['-', 's'], name :: targets => (State.signalNumber? name, targets)
          | '-' :: name, targets => (State.signalNumber? name, targets)
          | _, _ => (some 15, arguments)
        match signal with
        | none =>
          if first == ['-', 'l'] then { state with status := 0 }
          else state.fail 2 ("kill: Illegal option " ++ Text.ofOctets first)
        | some number =>
          if number == 0 || number == 17 || number == 18 ||
            !targets.any (fun target => target == state.value "$" || target == ['0'])
          then { state with status := 0 }
          else
            match if number == 9 then none else state.traps.lookup number with
            | some action =>
              let after := runScript fuel 1 action { state with status := 0 }
              { after with line := state.line, status := if after.flow == .ended then after.status
                else 0 }
            | none => { state with status := 128 + number, flow := .killed }
    | "umask" =>
      { (if arguments.isEmpty then state.write 1 "0022\n".toList else state) with status := 0 }
    | "wait" =>
      { state with status := if arguments.isEmpty then 0 else state.backgroundStatus.getD 0 }
    | "hash" | "alias" | "unalias" | "jobs" | "bg" | "fg" | "ulimit" => { state with status := 0 }
    | "command" =>
      match arguments with
      | ['-', 'v'] :: other :: _ =>
        match describe state (Text.ofOctets other) with
        | some (plain, _) => { state.write 1 (Text.octetsOf plain ++ ['\n']) with status := 0 }
        | none => { state with status := 127 }
      | ['-', 'V'] :: others => runPlain fuel "type" others state
      | ['-', 'p'] :: other :: arguments | other :: arguments =>
        let known := Text.ofOctets other
        if specialBuiltins.contains known then runSpecial fuel known arguments state
        else runPlain fuel known arguments state
      | [] => { state with status := 0 }
    | "type" =>
      arguments.foldl
        (fun state argument =>
          let other := Text.ofOctets argument
          match describe state other with
          | some (_, long) => state.write 1 (Text.octetsOf (other ++ " is " ++ long ++ "\n"))
          | none => { state.write 1 (Text.octetsOf (other ++ ": not found\n")) with status := 127 })
        { state with status := 0 }
    | _ => runProgram fuel name arguments state
where
  describe (state : State) (name : String) : Option (String × String) :=
    if Command.keywords.contains name then some (name, "a shell keyword")
    else if specialBuiltins.contains name then some (name, "a special shell builtin")
    else if (state.functions.lookup name).isSome then some (name, "a shell function")
    else if builtins.contains name then some (name, "a shell builtin")
    else if isProgram name then some ("/usr/bin/" ++ name, "/usr/bin/" ++ name)
    else if name.toList.contains '/' && state.disk.isFileAt name then some (name, name)
    else none

def runProgram : Nat → String → List (List Char) → State → State
  | 0, _, _, state => state.finish 2
  | fuel + 1, name, arguments, state =>
    if name.isEmpty then state.fail 127 ": Permission denied"
    else if !name.toList.contains '/' then
      if isProgram name then runTool fuel name arguments state
      else state.fail 127 (name ++ ": not found")
    else
      match systemProgram? (Text.octetsOf name), state.disk.stat name with
      | some known, _ => runTool fuel known arguments state
      | none, .error .noEntry | none, .error .notDirectory => state.fail 127 (name ++ ": not found")
      | none, .ok (_, .file contents _ true) =>
        runFile fuel name (Text.octets contents) arguments state
      | none, _ => state.fail 126 (name ++ ": Permission denied")

def runFile : Nat → String → List Char → List (List Char) → State → State
  | 0, _, _, _, state => state.finish 2
  | fuel + 1, name, contents, arguments, state =>
    let path := Text.octetsOf name
    match interpreter? contents with
    | none | some ([], _) => state.awaited fun state =>
      runWhole fuel contents (state.spawned (path :: arguments))
    | some (interpreter, option) =>
      match systemProgram? interpreter with
      | some known =>
        runTool fuel known ((if option.isEmpty then [] else [option]) ++ path :: arguments) state
      | none => state.fail 127 (name ++ ": not found")

/-- Runs a tool of the system. Tools that run programs themselves are handled here, all others are
functions of their task. -/
def runTool : Nat → String → List (List Char) → State → State
  | 0, _, _, state => state.finish 2
  | fuel + 1, name, arguments, state =>
    match name with
    | "sh" | "dash" | "bash" => state.awaited (runShell fuel name [] arguments)
    | "env" => state.isolated (runEnvironment fuel arguments)
    | "echo" => { state.write 1 (plainEcho false true arguments) with status := 0 }
    | "printf" | "test" | "[" | "true" | "false" | "pwd" | "kill" =>
      runPlain fuel name arguments state
    | "timeout" => runCommand fuel "timeout" (arguments.drop 1) state
    | "nohup" => runCommand fuel "nohup" arguments state
    | "nice" =>
      runCommand fuel "nice" (if arguments.head? == some ['-', 'n'] then arguments.drop 2
        else arguments) state
    | "xargs" =>
      let commands := commandsFor state.input (arguments.length + 1) none none false false arguments
      let after := commands.foldl
        (fun (worst, state) command =>
          let after := runCommand fuel "xargs" command { state with input := [] }
          (max worst after.status, after))
        (0, state)
      { after.2 with input := [], status := if after.1 = 0 then 0 else if after.1 ≤ 125 then 123
        else after.1 }
    | "which" =>
      let found := arguments.filter fun argument =>
        let other := Text.ofOctets argument
        isProgram other || (other.toList.contains '/' && state.disk.isFileAt other)
      let paths := found.map fun argument =>
        if argument.contains '/' then argument else "/usr/bin/".toList ++ argument
      { state.write 1 (Text.joinLines paths) with
        status := if found.length = arguments.length then 0 else 1 }
    | "find" =>
      match Tools.Find.planOf state.disk arguments with
      | .error text => { state.write 2 (Text.octetsOf ("find: " ++ text ++ "\n")) with status := 1 }
      | .ok plan =>
        let missing := plan.missing state.disk
        let told := missing.foldl
          (fun state start =>
            state.write 2
              (Text.octetsOf ("find: " ++ quotedName start ++ ": No such file or directory\n")))
          state
        let paths := plan.paths state.disk
        let after := plan.actions.foldl (fun state action => runAction fuel action paths state) told
        { after with status := if missing.isEmpty then 0 else 1 }
    | _ =>
      match Tools.find? name with
      | some tool => state.settle (tool (state.task name arguments))
      | none => state.fail 127 (name ++ ": not found")

def runAction : Nat → Tools.Find.Action → List (List Char) → State → State
  | 0, _, _, state => state.finish 2
  | fuel + 1, action, paths, state =>
    match action with
    | .print ending => state.write 1 (paths.map (· ++ [ending])).flatten
    | .delete =>
      paths.reverse.foldl
        (fun state path =>
          let removed := match state.disk.named (pathOf path) with
            | .ok (_, .node .directory _) => state.disk.removeDirectory (pathOf path)
            | _ => state.disk.removeFile (pathOf path)
          { state with disk := removed.2 })
        state
    | .run command once =>
      let braces := ['\x7b', '\x7d']
      if once then
        if paths.isEmpty then state
        else runCommand fuel "find" (command.flatMap fun word => if word == braces then paths
          else [word]) state
      else
        paths.foldl
          (fun state path =>
            runCommand fuel "find"
              (command.map fun word => putIn braces path word.length word) state)
          state

def runCommand : Nat → String → List (List Char) → State → State
  | 0, _, _, state => state.finish 2
  | fuel + 1, tool, command, state =>
    match command with
    | [] => { state.write 2 (Text.octetsOf (tool ++ ": missing operand\n")) with status := 125 }
    | name :: arguments =>
      let known := Text.ofOctets name
      let isKnown := isProgram known || (known.toList.contains '/' &&
        ((state.disk.stat known).toOption.isSome || (systemProgram? name).isSome))
      if isKnown then runProgram fuel known arguments state
      else
        let quoted := if tool == "xargs" || tool == "nohup" then
          tool ++ ": " ++ (if tool == "xargs" then known else
          "failed to run command " ++ quotedName name) else tool ++ ": " ++ quotedName name
        { state.write 2 (Text.octetsOf (quoted ++ ": No such file or directory\n")) with
          status := 127 }

def runEnvironment : Nat → List (List Char) → State → State
  | 0, _, state => state.finish 2
  | fuel + 1, arguments, state =>
    match arguments with
    | [] =>
      let lines := state.environment.map fun (name, value) => Text.octetsOf name ++ '=' :: value
      { state.write 1 (Text.joinLines lines) with status := 0 }
    | ['-', 'i'] :: rest | ['-'] :: rest => runEnvironment fuel rest { state with exported := [] }
    | ['-', 'u'] :: name :: rest => runEnvironment fuel rest (state.remove (Text.ofOctets name))
    | ['-', 'S'] :: text :: rest => runEnvironment fuel (splitWords none text ++ rest) state
    | word :: rest =>
      if "-S".toList.isPrefixOf word then
        runEnvironment fuel (splitWords none (word.drop 2) ++ rest) state
      else if word.contains '=' then
        let (name, value) := State.declaration word
        runEnvironment fuel rest { state.assign name (value.getD []) with
          exported := name :: state.exported }
      else if word.head? == some '-' then
        let text := "env: invalid option -- '" ++ Text.ofOctets (word.drop 1 |>.take 1) ++
          "'\nTry 'env --help' for more information.\n"
        { state.write 2 (Text.octetsOf text) with status := 125 }
      else runCommand fuel "env" arguments state

def runShell : Nat → String → List Char → List (List Char) → State → State
  | 0, _, _, _, state => state.finish 2
  | fuel + 1, name, options, arguments, state =>
    let own := Text.octetsOf name
    let fresh (parameters : List (List Char)) : State :=
      let spawned := { state.spawned parameters with options }.assign "PWD" (Tools.here state.disk)
      { spawned with exported := "PWD" :: spawned.exported }
    match arguments with
    | ['-', '-'] :: rest => runShell fuel name options rest state
    | ['-', 'o'] :: option :: rest =>
      match State.longOption? option with
      | some letter => runShell fuel name (letter :: options) rest state
      | none => { fresh [own] with line := 0 }.fail 2 ("Illegal option -o " ++ Text.ofOctets option)
    | ('-' :: letter :: letters) :: rest =>
      let all := letter :: letters
      if all.contains 'c' then
        match rest with
        | script :: parameters => runWhole fuel script
          { fresh (if parameters.isEmpty then [own] else parameters) with
            options := all.filter (· != 'c') ++ options }
        | [] => { fresh [own] with line := 0 }.fail 2 "-c requires an argument"
      else
        match all.find? (!State.optionLetters.contains ·) with
        | some letter =>
          { fresh [own] with line := 0 }.fail 2 ("Illegal option -" ++ Text.ofOctets [letter])
        | none =>
          if all.contains 's' then
            runWhole fuel state.input { fresh (own :: rest) with
              input := [], options := all.filter (· != 's') ++ options }
          else runShell fuel name (all ++ options) rest state
    | path :: _ =>
      match state.disk.readAt (pathOf path) with
      | .ok bytes => runWhole fuel (Text.octets bytes) (fresh arguments)
      | .error cause =>
        { fresh [own] with line := 0 }.fail 2
          ("cannot open " ++ pathOf path ++ ": " ++ State.openingReason false cause)
    | [] => runWhole fuel state.input { fresh [own] with input := [] }

def runArms : Nat → List Char → List (List Word × List Command) → State → State
  | 0, _, _, state => state.finish 2
  | _ + 1, _, [], state => state
  | fuel + 1, subject, (patterns, commands) :: rest, state =>
    let (found, state) := patterns.foldl
      (fun (found, state) pattern =>
        if found then (found, state)
        else
          let (glyphs, state) := expand fuel pattern state
          (Glyph.matchesText glyphs subject, state))
      (false, state)
    if state.flow != .going then state
    else if found then runList fuel commands state else runArms fuel subject rest state

def runLoop : Nat → List Command → Bool → List Command → State → State
  | 0, _, _, _, state => state.finish 2
  | fuel + 1, condition, success, body, state =>
    let tested := runTested fuel condition state
    if tested.flow != .going then tested.endLoop
    else if (tested.status == 0) != success then { tested with status := state.status }
    else
      let after := runList fuel body tested
      if after.goesOn then runLoop fuel condition success body { after with flow := .going }
      else after.endLoop

def runEach : Nat → String → List (List Char) → List Command → State → State
  | 0, _, _, _, state => state.finish 2
  | _ + 1, _, [], _, state => state
  | fuel + 1, name, value :: values, body, state =>
    let after := runList fuel body (state.set name value)
    if after.goesOn then runEach fuel name values body { after with flow := .going }
    else after.endLoop

def expandFields : Nat → List Word → State → List (List Char) × State
  | 0, _, state => ([], state)
  | _ + 1, [], state => ([], state)
  | fuel + 1, word :: rest, state =>
    let (glyphs, state) := expand fuel word state
    let fields := Glyph.fields state.separators (isKept word) glyphs
    let found := if state.has 'f' then fields.map Glyph.chars
      else (fields.map (Glyph.paths state.disk)).flatten
    if state.flow != .going then (found, state)
    else
      let (others, state) := expandFields fuel rest state
      (found ++ others, state)
where
  /-- Whether a word is a field even if it is empty: it has quotes that hold more than all
  parameters, of which there may be none. -/
  isKept (word : Word) : Bool :=
    if word.contains (.value "@" true) then
      word.any fun part => part.isQuoted && part != .value "@" true && part != .text [] true
    else word.any Part.isQuoted

def expandDeclared : Nat → List Word → State → List (List Char) × State
  | 0, _, state => ([], state)
  | _ + 1, [], state => ([], state)
  | fuel + 1, word :: rest, state =>
    let (found, state) :=
      if (Command.assignment? word).isSome then
        let (glyphs, state) := expand fuel word state
        ([Glyph.chars glyphs], state)
      else expandFields fuel [word] state
    if state.flow != .going then (found, state)
    else
      let (others, state) := expandDeclared fuel rest state
      (found ++ others, state)

def expand : Nat → Word → State → List Glyph × State
  | 0, _, state => ([], state)
  | _ + 1, [], state => ([], state)
  | fuel + 1, part :: rest, state =>
    let (glyphs, state) := expandPart fuel part state
    if state.flow != .going then (glyphs, state)
    else
      let (others, state) := expand fuel rest state
      (glyphs ++ others, state)

def expandPart : Nat → Part → State → List Glyph × State
  | 0, _, state => ([], state)
  | fuel + 1, part, state =>
    let shown (quoted : Bool) (text : List Char) : List Glyph := text.map (.char · quoted !quoted)
    let missed (name : String) : Bool := state.has 'u' && (state.lookup? name).isNone &&
      name != "@" && name != "*"
    match part with
    | .text characters quoted => (characters.map (.char · quoted false), state)
    | .senseless => ([], state.abort "Bad substitution")
    | .value name quoted =>
      if missed name then ([], state.abort (name ++ ": parameter not set"))
      else (state.glyphs name quoted, state)
    | .length name quoted =>
      if missed name then ([], state.abort (name ++ ": parameter not set"))
      else (shown quoted (Text.decimal (state.value name).length), state)
    | .altered name alteration emptyIsMissing operand quoted =>
      let value := state.lookup? name
      let missing := value.isNone || (emptyIsMissing && value == some [])
      let expanded (_ : Unit) : List Glyph × State := expand fuel (operandWord quoted operand) state
      let stands (found : List Glyph) : List Glyph := found.map fun
        | .char c quoted _ => Glyph.char c quoted !quoted
        | boundary => boundary
      let kept := state.glyphs name quoted
      match alteration with
      | .orElse =>
        if missing then let (found, after) := expanded (); (stands found, after) else (kept, state)
      | .assign =>
        if missing then
          let (found, after) := expanded ()
          (stands found, after.set name (Glyph.chars found))
        else (kept, state)
      | .instead =>
        if missing then ([], state) else let (found, after) := expanded (); (stands found, after)
      | .demand =>
        if missing then
          let (found, after) := expanded ()
          let text := if !operand.isEmpty then Text.ofOctets (Glyph.chars found)
            else if emptyIsMissing then "parameter not set or null" else "parameter not set"
          ([], after.abort (name ++ ": " ++ text))
        else (kept, state)
      | .cutStart longest =>
        let (found, after) := expand fuel (operandWord false operand) state
        (shown quoted (Glyph.cutStart found longest (value.getD [])), after)
      | .cutEnd longest =>
        let (found, after) := expand fuel (operandWord false operand) state
        (shown quoted (Glyph.cutEnd found longest (value.getD [])), after)
    | .output script quoted =>
      let (text, after) := state.collecting (runScript fuel state.line script)
      let trimmed := (text.reverse.dropWhile (· == '\n')).reverse.filter (· != '\x00')
      (shown quoted trimmed,
        { after with outputStatus := after.status, status := state.status, line := state.line })
    | .number expression quoted =>
      let (found, after) := expand fuel (documentWord expression) state
      if after.flow != .going then ([], after)
      else
        match Arithmetic.compute after.value (Glyph.chars found) with
        | .ok (value, changes) =>
          let changed := changes.reverse.foldl
            (fun state (name, value) => state.set name (Tools.integerText value)) after
          (shown quoted (Tools.integerText value), changed)
        | .error text => ([], after.abort text)

end

end DialectLoader.Shell
