import DialectLoader.Machine.Script.Json

/-!
# The system as scripts see it

Scripts read and write files, look at the disk and at paths, and end with a status. Functions of the
system have names with the module that they belong to.

The clock stands still, a script has no process of its own, and it cannot start programs. A function
that is not listed here is not there.
-/

namespace DialectLoader.Script

def baseName (path : List Char) : List Char :=
  (path.reverse.takeWhile (· != '/')).reverse

def directoryName (path : List Char) : List Char :=
  let front := path.take (path.length - (baseName path).length)
  let trimmed := (front.reverse.dropWhile (· == '/')).reverse
  if trimmed.isEmpty then front else trimmed

def splitExtension (path : List Char) : List Char × List Char :=
  let name := baseName path
  let tail := (name.reverse.takeWhile (· != '.')).reverse
  let stem := name.take (name.length - tail.length - 1)
  if !name.contains '.' || stem.all (· == '.') then (path, [])
  else
    let size := path.length - tail.length - 1
    (path.take size, path.drop size)

def joinedPaths (paths : List (List Char)) : List Char :=
  (paths.drop 1).foldl
    (fun path part =>
      if part.head? == some '/' then part
      else if path.isEmpty || path.getLast? == some '/' then path ++ part
      else path ++ '/' :: part)
    (paths.headD [])

def normalPath (path : List Char) : List Char :=
  let isRooted := path.head? == some '/'
  let kept := (Text.pieces (· == '/') path).foldl
    (fun (kept : List (List Char)) part =>
      if part.isEmpty || part == ['.'] then kept
      else if part == ['.', '.'] then
        match kept with
        | last :: before => if last == ['.', '.'] then part :: kept else before
        | [] => if isRooted then [] else [part]
      else part :: kept)
    []
  let joined := ['/'].intercalate kept.reverse
  if isRooted then '/' :: joined else if joined.isEmpty then ['.'] else joined

def workingPath (disk : Disk) : List Char :=
  ("/" ++ "/".intercalate disk.workingDirectory).toList

namespace Act

def pathArgument (value : Value) : Act (List Char) := do
  match value with
  | .text content => return content
  | .bytes content => return decoded content
  | _ => raise "TypeError" ("expected str, bytes or os.PathLike object, not " ++
    (← get).typeName value)

def takeDisk {α : Type} (path : List Char) (result : Except FileError α × Disk) : Act α := do
  modify fun state => { state with disk := result.2 }
  match result.1 with
  | .ok value => return value
  | .error cause => raiseFile cause path

def openFile (value : Value) (mode : List Char) (keepsNewlines : Bool) : Act Value := do
  let path ← pathArgument value
  let isBinary := mode.contains 'b'
  let disk := (← get).disk
  let target := String.ofList path
  if mode.contains 'w' || mode.contains 'a' || mode.contains 'x' then
    if mode.contains 'x' && (disk.named target).toOption.isSome then raiseFile .occupied path
    if path == "/dev/null".toList then
      allocate (.file { path, isBinary, unread := [], place := some [] })
    else
      let place ← takeDisk path (disk.openFile target (mode.contains 'a'))
      allocate (.file { path, isBinary, unread := [], place := some place })
  else
    let octets ← if path == "/dev/stdin".toList then takeInput
      else if path == "/dev/null".toList then pure []
      else
        match disk.readAt target with
        | .ok bytes => pure (Text.octets bytes)
        | .error cause => raiseFile cause path
    if !isBinary && (Text.ofUtf8? (Text.octetBytes octets)).isNone then
      raise "UnicodeDecodeError" "'utf-8' codec can't decode byte: invalid start byte"
    let content := if isBinary then octets
      else if keepsNewlines then decoded octets else unifiedNewlines (decoded octets)
    allocate (.file { path, isBinary, unread := content, place := none })

def makeDirectories (path : List Char) (isAllowed : Bool) : Act Value := do
  let disk := (← get).disk
  if disk.isDirectoryAt (String.ofList path) then
    if isAllowed then return .none else raiseFile .occupied path
  takeDisk path (Disk.makeDirectories (path.length + 1) disk (String.ofList path))
  return .none

def host? (name : String) (arguments : List Value) (named : List (String × Value)) :
    Option (Act Value) :=
  let first := arguments.headD .none
  let nothing (action : Act Unit) : Act Value := do
    action
    return .none
  let changing (operation : Disk → String → Except FileError Unit × Disk) : Act Value := do
    let path ← pathArgument first
    nothing (takeDisk path (operation (← get).disk (String.ofList path)))
  let asking (question : Disk → String → Bool) : Act Value := do
    let path ← pathArgument first
    return .bool (question (← get).disk (String.ofList path))
  let pathOf (change : List Char → List Char) : Act Value := do
    return .text (change (← pathArgument first))
  match name with
  | "open" => some do
    let mode := match (arguments[1]?).orElse fun _ => named.lookup "mode" with
      | some (.text mode) => mode
      | _ => ['r']
    let keepsNewlines := (named.lookup "newline").any fun value => value matches .text _
    openFile first mode keepsNewlines
  | "sys.exit" | "exit" | "quit" => some (raiseValue (.exception "SystemExit" (arguments.take 1)))
  | "os._exit" => some (raiseValue (.exception "SystemExit" (arguments.take 1)))
  | "os.getcwd" => some do return .text (workingPath (← get).disk)
  | "os.getpid" => some (return .int 1)
  | "time.time" => some (return .real (.ofInt 0))
  | "time.sleep" => some (return .none)
  | "os.listdir" => some do
    let path ← if arguments.isEmpty then pure ['.'] else pathArgument first
    match (← get).disk.children (String.ofList path) with
    | .ok names => list (names.map fun name => .text name.toList)
    | .error cause => raiseFile cause path
  | "os.remove" | "os.unlink" => some (changing Disk.removeFile)
  | "os.mkdir" => some (changing Disk.makeDirectory)
  | "os.rmdir" => some (changing Disk.removeDirectory)
  | "shutil.rmtree" => some (changing Disk.removeAll)
  | "os.makedirs" => some do
    makeDirectories (← pathArgument first) ((named.lookup "exist_ok").any (← get).holds)
  | "os.rename" | "os.replace" | "shutil.move" => some do
    let path ← pathArgument first
    let other ← pathArgument (arguments.getD 1 .none)
    nothing (takeDisk path ((← get).disk.rename (String.ofList path) (String.ofList other)))
  | "shutil.copy" | "shutil.copyfile" => some do
    let path ← pathArgument first
    let other ← pathArgument (arguments.getD 1 .none)
    match (← get).disk.readAt (String.ofList path) with
    | .ok bytes => nothing (takeDisk other ((← get).disk.writeAt (String.ofList other) bytes))
    | .error cause => raiseFile cause path
  | "os.chmod" => some do
    let path ← pathArgument first
    let mode ← wholeOf (arguments.getD 1 .none)
    nothing (takeDisk path
      ((← get).disk.setExecutable (String.ofList path) (mode.toNat / 64 % 2 == 1)))
  | "os.path.exists" => some (asking fun disk path => (disk.stat path).toOption.isSome)
  | "os.path.isfile" => some (asking Disk.isFileAt)
  | "os.path.isdir" => some (asking Disk.isDirectoryAt)
  | "os.path.getsize" => some do
    let path ← pathArgument first
    match (← get).disk.readAt (String.ofList path) with
    | .ok bytes => return .int bytes.length
    | .error .isDirectory => return .int 4096
    | .error cause => raiseFile cause path
  | "os.path.basename" => some (pathOf baseName)
  | "os.path.dirname" => some (pathOf directoryName)
  | "os.path.normpath" => some (pathOf normalPath)
  | "os.path.abspath" | "os.path.realpath" => some do
    let here := workingPath (← get).disk
    pathOf fun path => normalPath (joinedPaths [here, path])
  | "os.path.isabs" => some do return .bool ((← pathArgument first).head? == some '/')
  | "os.path.join" => some do return .text (joinedPaths (← arguments.mapM pathArgument))
  | "os.path.splitext" => some do
    let (stem, extension) := splitExtension (← pathArgument first)
    return .tuple [.text stem, .text extension]
  | "os.path.split" => some do
    let path ← pathArgument first
    return .tuple [.text (directoryName path), .text (baseName path)]
  | "json.dumps" => some do
    let state ← get
    return .text (← writeJson (.of state named) depthLimit 0 first)
  | "json.dump" => some do
    let content ← writeJson (.of (← get) named) depthLimit 0 first
    let _ ← method (fun _ _ => return .none) (arguments.getD 1 .none) "write" [.text content] []
    return .none
  | "json.loads" => some do
    match first with
    | .text content => parseJson content
    | .bytes content => parseJson (decoded content)
    | _ => raise "TypeError" ("the JSON object must be str, bytes or bytearray, not " ++
      (← get).typeName first)
  | "json.load" => some do
    match ← method (fun _ _ => return .none) first "read" [] [] with
    | .text content => parseJson content
    | .bytes content => parseJson (decoded content)
    | _ => return .none
  | _ => none

end Act

end DialectLoader.Script
