import DialectLoader.Machine.Shell.Arithmetic
import DialectLoader.Machine.Shell.Command
import DialectLoader.Machine.Shell.Pattern
import DialectLoader.Machine.Tools.Catalog

/-!
# The state of a running shell script

A script has variables, parameters, named commands, an input, and channels to which it writes. A
channel leads nowhere, to a file, or to a collector, of which there is one for the output of the
whole script, one for its messages, and one for every text that is being put together from the
output of commands.

Processes are not modelled: the script has one number, commands in the background another, and
neither job control nor limits nor the mask for new files have any effect.
-/

namespace DialectLoader.Shell

/-- Where a channel leads. A file is known by its place, so moving it does not matter. -/
inductive Channel where
  | nowhere
  | collector (index : Nat)
  | file (place : Place)
deriving DecidableEq

/-- How a script goes on. Whatever is not plainly going on is passed outwards until a loop, a call
or the script handles it. -/
inductive Flow where
  | going
  | ended
  | killed
  | returning
  | leaving (loops : Nat)
  | continuing (loops : Nat)
deriving DecidableEq

/-- The state of a running script. A copy of it is all that a subshell needs. -/
structure State where
  bindings : List (String × List Char) := []
  exported : List String := []
  frozen : List String := []
  parameters : List (List Char)
  functions : List (String × Command) := []
  /-- The variables that last as long as the command with a name that is being run, with their
  values before; `none` outside of such commands. -/
  locals : Option (List (String × Option (List Char))) := none
  disk : Disk
  input : List Char
  collected : List (List Char) := [[], []]
  channels : List (Nat × Channel) := [(1, .collector 0), (2, .collector 1)]
  status : Nat := 0
  outputStatus : Nat := 0
  flow : Flow := .going
  options : List Char := []
  farewell : Option (List Char) := none
  traps : List (Nat × List Char) := []
  sources : List (Nat × List Char) := []
  backgroundStatus : Option Nat := none
  line : Nat := 1
  speaker : Option String := none
  isScript : Bool := false
  letters : List Char := []

namespace State

def lookup? (state : State) (name : String) : Option (List Char) :=
  match name with
  | "?" => some (Text.decimal state.status)
  | "#" => some (Text.decimal (state.parameters.length - 1))
  | "@" | "*" =>
    if state.parameters.length ≤ 1 then none else some ([' '].intercalate (state.parameters.drop 1))
  | "$" => some ['1']
  | "-" => some state.options
  | "!" => state.backgroundStatus.map fun _ => ['2']
  | "OPTIND" => some ((state.bindings.lookup name).getD ['1'])
  | "LINENO" => some ((state.bindings.lookup name).getD (Text.decimal state.line))
  | _ =>
    match Text.readDecimal? Text.wordBound name.toList with
    | some number => state.parameters[number]?
    | none => state.bindings.lookup name

def value (state : State) (name : String) : List Char :=
  (state.lookup? name).getD []

def separators (state : State) : List Char :=
  (state.bindings.lookup "IFS").getD [' ', '\t', '\n']

def glyphs (state : State) (name : String) (quoted : Bool) : List Glyph :=
  let text (value : List Char) : List Glyph := value.map (.char · quoted !quoted)
  if name == "@" || (name == "*" && !quoted) then
    [Glyph.boundary quoted].intercalate ((state.parameters.drop 1).map text)
  else if name == "*" then
    text ((state.separators.take 1).intercalate (state.parameters.drop 1))
  else text (state.value name)

def has (state : State) (option : Char) : Bool :=
  state.options.contains option

def setOption (state : State) (option : Char) (holds : Bool) : State :=
  let others := state.options.filter (· != option)
  { state with options := if holds then option :: others else others }

def assign (state : State) (name : String) (value : List Char) : State :=
  { state with
    bindings := (name, value) :: state.bindings.filter (·.1 != name)
    exported := if state.has 'a' then name :: state.exported else state.exported }

def remove (state : State) (name : String) : State :=
  { state with
    bindings := state.bindings.filter (·.1 != name)
    exported := state.exported.filter (· != name) }

def restore (state : State) (name : String) (value : Option (List Char)) : State :=
  match value with
  | some value => { state with bindings := (name, value) :: state.bindings.filter (·.1 != name) }
  | none => { state with bindings := state.bindings.filter (·.1 != name) }

def environment (state : State) : List (String × List Char) :=
  state.bindings.filter fun (name, _) => state.exported.contains name

def writeTo (state : State) (channel : Channel) (text : List Char) : State :=
  match channel with
  | .nowhere => state
  | .collector index =>
    { state with collected := state.collected.modify index fun before => text.reverse ++ before }
  | .file place =>
    if text.isEmpty then state
    else { state with disk := state.disk.appendTo place (Text.octetBytes text) }

def write (state : State) (descriptor : Nat) (text : List Char) : State :=
  state.writeTo ((state.channels.lookup descriptor).getD .nowhere) text

def connect (state : State) (descriptor : Nat) (channel : Channel) : State :=
  { state with channels := (descriptor, channel) :: state.channels.filter (·.1 != descriptor) }

def feed (state : State) (descriptor : Nat) (text : List Char) : State :=
  if descriptor = 0 then { state with input := text }
  else { state with sources := (descriptor, text) :: state.sources.filter (·.1 != descriptor) }

def released (after : State) (routes : List Route) (before : State) : State :=
  let lent := routes.findSome? fun route => match route.descriptor, route.target with
    | 0, .channel [.text [c] _] => Text.digitValue? c
    | _, _ => none
  let opened := routes.map (·.descriptor)
  let kept := after.sources.filter fun (number, _) => !opened.contains number
  let sources := kept ++ before.sources.filter fun (number, _) => opened.contains number
  let sources := match lent with
    | some number => sources.map fun (known, text) =>
      (known, if known == number then after.input else text)
    | none => sources
  { after with
    channels := before.channels
    sources
    input := if opened.contains 0 then before.input else after.input }

def finish (state : State) (status : Nat) : State :=
  { state with status, flow := .ended }

def checked (state : State) : State :=
  if state.has 'e' && state.status != 0 && state.flow == .going then { state with flow := .ended }
  else state

def complain (state : State) (text : String) : State :=
  let speaker := (state.speaker.map (· ++ ": ")).getD ""
  state.write 2 (state.value "0" ++ ": ".toList ++ Text.decimal state.line ++ ": ".toList ++
    Text.octetsOf speaker ++ Text.octetsOf text ++ ['\n'])

def fail (state : State) (status : Nat) (text : String) : State :=
  { state.complain text with status }

def abort (state : State) (text : String) : State :=
  (state.complain text).finish 2

def set (state : State) (name : String) (value : List Char) : State :=
  if state.frozen.contains name then state.abort (name ++ ": is read only")
  else state.assign name value

def task (state : State) (name : String) (arguments : List (List Char)) : Task :=
  { name, arguments, environment := state.environment, input := state.input, disk := state.disk }

def settle (state : State) (done : Done) : State :=
  { (({ state with disk := done.disk }.write 2 done.errors).write 1 done.output) with
    status := done.status
    input := done.input }

def isolated (state : State) (act : State → State) : State :=
  let copy := act { state with farewell := none, traps := state.traps.filter (·.2.isEmpty) }
  { state with
    disk := { copy.disk with workingDirectory := state.disk.workingDirectory }
    input := copy.input
    collected := copy.collected
    status := copy.status
    flow := if copy.flow == .killed then .killed else state.flow }

def signalText? (number : Nat) : Option String :=
  match number with
  | 1 => some "Hangup"
  | 3 => some "Quit"
  | 6 => some "Aborted"
  | 9 => some "Killed"
  | 10 => some "User defined signal 1"
  | 11 => some "Segmentation fault"
  | 12 => some "User defined signal 2"
  | 14 => some "Alarm clock"
  | 15 => some "Terminated"
  | _ => none

def awaited (state : State) (act : State → State) : State :=
  let after := state.isolated act
  if after.flow == .killed then
    let told := match state.isScript, signalText? (after.status - 128) with
      | true, some text => after.write 2 (text.toList ++ ['\n'])
      | _, _ => after
    { told with flow := state.flow }
  else after

def collecting (state : State) (act : State → State) : List Char × State :=
  let index := state.collected.length
  let after := { state with collected := state.collected ++ [[]] }.isolated fun copy =>
    act (copy.connect 1 (.collector index))
  ((after.collected.getD index []).reverse, { after with collected := after.collected.take index })

def spawned (state : State) (parameters : List (List Char)) : State :=
  { state with
    bindings := state.environment
    frozen := []
    parameters
    functions := []
    locals := none
    status := 0
    flow := .going
    options := []
    farewell := none
    traps := []
    backgroundStatus := none
    letters := []
    line := 1
    speaker := none
    isScript := true }

def withNumber (state : State) (name : String) (arguments : List (List Char)) (otherwise : Nat)
    (act : Nat → State) : State :=
  match arguments with
  | [] => act otherwise
  | argument :: _ =>
    match Text.readDecimal? Text.signedBound argument with
    | some number => act number
    | none => state.abort (name ++ ": Illegal number: " ++ Text.ofOctets argument)

def longOption? (name : List Char) : Option Char :=
  match String.ofList name with
  | "errexit" => some 'e'
  | "nounset" => some 'u'
  | "noglob" => some 'f'
  | "allexport" => some 'a'
  | "xtrace" => some 'x'
  | "verbose" => some 'v'
  | "noexec" => some 'n'
  | "noclobber" => some 'C'
  | "monitor" => some 'm'
  | "notify" => some 'b'
  | _ => none

def signalNumber? (name : List Char) : Option Nat :=
  let short := if "SIG".toList.isPrefixOf name then name.drop 3 else name
  match String.ofList short with
  | "EXIT" => some 0
  | "HUP" => some 1
  | "INT" => some 2
  | "QUIT" => some 3
  | "ABRT" => some 6
  | "KILL" => some 9
  | "USR1" => some 10
  | "SEGV" => some 11
  | "USR2" => some 12
  | "PIPE" => some 13
  | "ALRM" => some 14
  | "TERM" => some 15
  | "CHLD" => some 17
  | "CONT" => some 18
  | _ => Text.readDecimal? 65 short

def setTraps (state : State) (action : List Char) (signals : List (List Char)) : State :=
  signals.foldl
    (fun state signal =>
      match signalNumber? signal with
      | none => state.fail 1 ("trap: " ++ Text.ofOctets signal ++ ": bad trap")
      | some 0 => { state with farewell := if action == ['-'] then none else some action }
      | some number =>
        let others := state.traps.filter (·.1 != number)
        { state with traps := if action == ['-'] then others else (number, action) :: others })
    { state with status := 0 }

def optionLetters : List Char := "aefuvxnCmbIVEis".toList

def configure (state : State) : List (List Char) → State
  | ['-', '-'] :: rest => { state with parameters := state.parameters.take 1 ++ rest }
  | [sign, 'o'] :: name :: rest =>
    if sign == '-' || sign == '+' then
      match longOption? name with
      | some letter => configure (state.setOption letter (sign == '-')) rest
      | none =>
        state.abort ("set: Illegal option " ++ String.ofList [sign] ++ "o " ++ Text.ofOctets name)
    else { state with parameters := state.parameters.take 1 ++ [sign, 'o'] :: name :: rest }
  | (sign :: letters) :: rest =>
    if sign == '-' || sign == '+' then
      match letters.find? (!optionLetters.contains ·) with
      | some letter => state.abort ("set: Illegal option " ++ String.ofList [sign, letter])
      | none => configure
        (letters.foldl (fun state letter => state.setOption letter (sign == '-')) state) rest
    else { state with parameters := state.parameters.take 1 ++ (sign :: letters) :: rest }
  | [] => state
  | [] :: rest => { state with parameters := state.parameters.take 1 ++ [] :: rest }

def declaration (argument : List Char) : String × Option (List Char) :=
  let name := argument.takeWhile (· != '=')
  (String.ofList name, if name.length < argument.length then some (argument.drop (name.length + 1))
    else none)

def declare (state : State) (word : String) (arguments : List (List Char))
    (act : State → String → Option (List Char) → State) : State :=
  arguments.foldl
    (fun state argument =>
      let (name, value) := declaration argument
      if state.flow != .going then state
      else if Command.isName name.toList then act state name value
      else state.abort (word ++ ": " ++ name ++ ": bad variable name"))
    { state with status := 0 }

def splitLine (raw : Bool) : List Char → List Char × Bool × List Char
  | [] => ([], false, [])
  | '\n' :: rest => ([], true, rest)
  | '\\' :: c :: rest =>
    if raw then
      if c == '\n' then (['\\'], true, rest)
      else
        let (line, ended, rest) := splitLine raw rest
        ('\\' :: c :: line, ended, rest)
    else
      let (line, ended, rest) := splitLine raw rest
      (if c == '\n' then line else c :: line, ended, rest)
  | c :: rest =>
    let (line, ended, rest) := splitLine raw rest
    (c :: line, ended, rest)

def assignFields (separators : List Char) : List String → List Char → State → State
  | [], _, state => state
  | [name], text, state =>
    let trimmed :=
      (text.reverse.dropWhile fun c => separators.contains c && Glyph.isBlank c).reverse
    state.set name trimmed
  | name :: names, text, state =>
    let field := text.takeWhile (!separators.contains ·)
    let isBlank (c : Char) : Bool := separators.contains c && Glyph.isBlank c
    let behind := (text.drop field.length).dropWhile isBlank
    let rest := match behind with
      | c :: more => if separators.contains c then more.dropWhile isBlank else behind
      | [] => []
    assignFields separators names rest (state.set name field)

def readLine (state : State) (arguments : List (List Char)) : State :=
  let raw := arguments.head? == some ['-', 'r']
  let names := (if raw then arguments.drop 1 else arguments).map String.ofList
  if names.isEmpty then state.fail 2 "read: arg count"
  else
    let (line, ended, rest) := splitLine raw state.input
    let start := line.dropWhile fun c => state.separators.contains c && Glyph.isBlank c
    assignFields state.separators names start { state with input := rest, status := if ended then 0
      else 1 }

def nextOption (state : State) (arguments : List (List Char)) : State :=
  match arguments with
  | known :: name :: given =>
    let name := String.ofList name
    let given := if given.isEmpty then state.parameters.drop 1 else given
    let index := (Text.readDecimal? Text.wordBound (state.value "OPTIND")).getD 1
    let isSilent := known.head? == some ':'
    let known := if isSilent then known.drop 1 else known
    let finished (index : Nat) : State :=
      { ((state.assign name ['?']).assign "OPTIND" (Text.decimal index)).remove "OPTARG" with
        status := 1, letters := [] }
    let start := match state.letters, given[index - 1]? with
      | letter :: letters, _ => some (letter, letters, index)
      | [], some ('-' :: letter :: letters) =>
        if letter == '-' && letters.isEmpty then none else some (letter, letters, index + 1)
      | [], _ => none
    match start with
    | none => finished (if given[index - 1]? == some ['-', '-'] then index + 1 else index)
    | some (letter, letters, next) =>
      let found (state : State) (value : List Char) (letters : List Char) (next : Nat) : State :=
        { (state.assign name value).assign "OPTIND" (Text.decimal next) with letters, status := 0 }
      let behind := known.dropWhile (· != letter)
      if letter == ':' || behind.isEmpty then
        if isSilent then found (state.assign "OPTARG" [letter]) ['?'] letters next
        else found ((state.write 2 ("Illegal option -".toList ++ [letter, '\n'])).remove "OPTARG")
          ['?'] letters next
      else if behind[1]? == some ':' then
        match letters, given[next - 1]? with
        | [], some value => found (state.assign "OPTARG" value) [letter] [] (next + 1)
        | [], none =>
          if isSilent then found (state.assign "OPTARG" [letter]) [':'] [] next
          else
            let told := state.write 2 ("No arg for -".toList ++ letter :: " option\n".toList)
            found (told.remove "OPTARG") ['?'] [] next
        | _, _ => found (state.assign "OPTARG" letters) [letter] [] next
      else found (state.remove "OPTARG") [letter] letters next
  | _ => state.fail 2 "getopts: Usage: getopts optstring var [arg...]"

def trace (state : State) (names : List String) (words : List (List Char))
    (channels : List (Nat × Channel)) : State :=
  if state.has 'x' then
    let assignments := names.map fun name => Text.octetsOf name ++ '=' :: state.value name
    state.writeTo ((channels.lookup 2).getD .nowhere)
      ("+ ".toList ++ [' '].intercalate (assignments ++ words) ++ ['\n'])
  else state

def goesOn (state : State) : Bool :=
  match state.flow with
  | .going => true
  | .continuing loops => loops ≤ 1
  | _ => false

def endLoop (state : State) : State :=
  match state.flow with
  | .leaving loops => { state with flow := if loops ≤ 1 then .going else .leaving (loops - 1) }
  | .continuing loops => { state with flow := .continuing (loops - 1) }
  | _ => state

def goTo (state : State) (arguments : List (List Char)) : State :=
  let operands := arguments.filter fun argument =>
    argument != "-L".toList && argument != "-P".toList && argument != "--".toList
  let path := match operands with
    | [] => state.value "HOME"
    | ['-'] :: _ => state.value "OLDPWD"
    | path :: _ => path
  if path.isEmpty then { state with status := 0 }
  else
    match state.disk.enter (pathOf path) with
    | .error _ => state.fail 2 ("cd: can't cd to " ++ pathOf path)
    | .ok disk =>
      let moved := { state with disk, status := 0 }
      let shown := if operands.head? == some ['-'] then moved.write 1 (Tools.here disk ++ ['\n'])
        else moved
      (shown.assign "OLDPWD" (Tools.here state.disk)).assign "PWD" (Tools.here disk)

def openingReason (makes : Bool) (cause : FileError) : String :=
  match cause with
  | .noEntry | .notDirectory => if makes then "Directory nonexistent" else "No such file"
  | other => other.reason

end State

def builtins : List String :=
  [".", ":", "[", "alias", "bg", "break", "cd", "command", "continue", "echo", "eval", "exec",
    "exit", "export",
   "false", "fg", "getopts", "hash", "jobs", "kill", "local", "printf", "pwd", "read", "readonly",
   "return", "set",
   "shift", "test", "times", "trap", "true", "type", "ulimit", "umask", "unalias", "unset", "wait"]

def specialBuiltins : List String :=
  [".", ":", "break", "continue", "eval", "exec", "exit", "export", "readonly", "return", "set",
    "shift", "times",
   "trap", "unset"]

def runners : List String :=
  ["sh", "dash", "bash", "env", "xargs", "find", "timeout", "nohup", "nice", "which"]

def isProgram (name : String) : Bool :=
  runners.contains name ||
    ["true", "false", "echo", "printf", "test", "[", "pwd", "kill"].contains name ||
    (Tools.find? name).isSome

end DialectLoader.Shell
