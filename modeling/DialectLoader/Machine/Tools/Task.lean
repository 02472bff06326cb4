import DialectLoader.Machine.Manage
import DialectLoader.Machine.Octet

/-!
# Tools

A tool is a program of the system. It is given arguments, an environment, an input and a disk, and
it leaves output, messages, a status, which is zero for success, and a changed disk. All texts are
made of bytes, each the character with its number.

Arguments that start with a dash are options. An option is a letter, possibly with a value, and
letters can be joined; some have long names. Options may stand behind other arguments, and two
dashes end them.

Tools are functions. They see neither a terminal nor other programs, their input is there as a whole
before they start, and no result of the loader rests on what they do.
-/

namespace DialectLoader

/-- What a tool is given. It gets all of the input, even if it will read only a part. -/
structure Task where
  name : String
  arguments : List (List Char)
  environment : List (String × List Char)
  input : List Char
  disk : Disk

/-- What running a tool comes to. What it wrote on its two channels is kept apart, so the order
between them is lost. -/
structure Done where
  output : List Char := []
  errors : List Char := []
  status : Nat := 0
  input : List Char
  disk : Disk

namespace Done

def say (done : Done) (text : List Char) : Done :=
  { done with output := done.output ++ text }

def complain (done : Done) (status : Nat) (text : String) : Done :=
  { done with
    errors := done.errors ++ Text.octetsOf text ++ ['\n'], status := max done.status status }

def take (done : Done) (result : Except FileError Unit × Disk) (about : String) : Done :=
  match result with
  | (.ok (), disk) => { done with disk }
  | (.error cause, disk) => { done with disk }.complain 1 (about ++ ": " ++ cause.reason)

end Done

namespace Task

def idle (task : Task) : Done :=
  { input := task.input, disk := task.disk }

def fail (task : Task) (status : Nat) (text : String) : Done :=
  task.idle.complain status (task.name ++ ": " ++ text)

def hint (task : Task) : String :=
  "Try '" ++ task.name ++ " --help' for more information."

end Task

def pathOf (argument : List Char) : String :=
  Text.ofOctets argument

def quotedName (argument : List Char) : String :=
  "'" ++ pathOf argument ++ "'"

/-- The options that a tool knows. Some of them change nothing but have to be accepted. -/
structure KnownOptions where
  plain : String
  valued : String := ""
  long : List (String × Char) := []

/-- The options and the other arguments of a tool, each in their order. -/
structure Asked where
  options : List (Char × List Char) := []
  operands : List (List Char) := []

namespace Asked

def has (asked : Asked) (letter : Char) : Bool :=
  asked.options.any (·.1 == letter)

def value? (asked : Asked) (letter : Char) : Option (List Char) :=
  asked.options.reverse.lookup letter

def values (asked : Asked) (letter : Char) : List (List Char) :=
  asked.options.filterMap fun (known, value) => if known == letter then some value else none

def adding (asked : Asked) (letter : Char) (value : List Char) : Asked :=
  { asked with options := (letter, value) :: asked.options }

def readLetters (known : KnownOptions) (next : List (List Char) → Except String Asked) :
    List Char → List (List Char) → Except String Asked
  | [], arguments => next arguments
  | letter :: letters, arguments =>
    if known.valued.toList.contains letter then
      match letters, arguments with
      | [], value :: rest => (next rest).map (·.adding letter value)
      | [], [] => .error ("option requires an argument -- '" ++ String.ofList [letter] ++ "'")
      | _, _ => (next arguments).map (·.adding letter letters)
    else if known.plain.toList.contains letter then
      (readLetters known next letters arguments).map (·.adding letter [])
    else .error ("invalid option -- '" ++ String.ofList [letter] ++ "'")

def readFrom (known : KnownOptions) : Nat → List (List Char) → Except String Asked
  | 0, _ => .ok {}
  | _ + 1, [] => .ok {}
  | _ + 1, ['-', '-'] :: rest => .ok { operands := rest }
  | fuel + 1, ('-' :: '-' :: long) :: rest =>
    let name := long.takeWhile (· != '=')
    match known.long.lookup (String.ofList name) with
    | none => .error ("unrecognized option '" ++ pathOf ('-' :: '-' :: long) ++ "'")
    | some letter =>
      if known.valued.toList.contains letter then
        match long.drop name.length, rest with
        | _ :: value, _ => (readFrom known fuel rest).map (·.adding letter value)
        | [], value :: rest => (readFrom known fuel rest).map (·.adding letter value)
        | [], [] => .error ("option '--" ++ String.ofList name ++ "' requires an argument")
      else (readFrom known fuel rest).map (·.adding letter [])
  | fuel + 1, ('-' :: letter :: letters) :: rest =>
    readLetters known (readFrom known fuel) (letter :: letters) rest
  | fuel + 1, operand :: rest =>
    (readFrom known fuel rest).map fun asked => { asked with operands := operand :: asked.operands }

end Asked

def Task.asking (task : Task) (status : Nat) (known : KnownOptions) (act : Asked → Done) : Done :=
  match Asked.readFrom known task.arguments.length task.arguments with
  | .ok asked => act asked
  | .error text => (task.fail status text).complain status task.hint

def endless? (path : List Char) : Option (List Char) :=
  if path == "/dev/zero".toList || path == "/dev/urandom".toList ||
    path == "/dev/random".toList then
    some (List.replicate 1100000 '\x00')
  else none

def Task.contents (task : Task) (operand : List Char) : Except String (List Char) :=
  if operand == ['-'] || operand == "/dev/stdin".toList then .ok task.input
  else if operand == "/dev/null".toList then .ok []
  else if let some text := endless? operand then .ok text
  else
    match task.disk.readAt (pathOf operand) with
    | .ok bytes => .ok (Text.octets bytes)
    | .error cause => .error cause.reason

def Task.gather (task : Task) (status : Nat) (wording : List Char → String → String)
    (operands : List (List Char)) : List (List Char × List Char) × Done :=
  let operands := if operands.isEmpty then [['-']] else operands
  operands.foldl
    (fun (found, done) operand =>
      match Task.contents { task with input := done.input } operand with
      | .ok text =>
        (found ++ [(operand, text)], if operand == ['-'] then { done with input := [] } else done)
      | .error reason =>
        (found, done.complain status (task.name ++ ": " ++ wording operand reason)))
    ([], task.idle)

def plainWording (operand : List Char) (reason : String) : String :=
  pathOf operand ++ ": " ++ reason

def Text.plainLines (text : List Char) : List (List Char) :=
  let found := Text.pieces (· == '\n') text
  if found.getLast? == some [] then found.dropLast else found

def Text.joinLines (lines : List (List Char)) : List Char :=
  (lines.map (· ++ ['\n'])).flatten

end DialectLoader
