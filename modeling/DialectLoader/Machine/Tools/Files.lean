import DialectLoader.Machine.Tools.Lines

/-!
# Tools for files

Tools that show, make, move, copy and remove files and directories. They ask no questions, whatever
options say, and what they tell about owners and times is made up, since a disk does not hold it.
-/

namespace DialectLoader.Tools

def cat (task : Task) : Done :=
  task.asking 1 { plain := "nbsuAEvTte" } fun asked =>
    let (found, done) := task.gather 1 plainWording asked.operands
    let text := (found.map (·.2)).flatten
    let numbered (line : List Char) (number : Nat) : List Char :=
      padLeft 6 (Text.decimal number) ++ '\t' :: line
    if asked.has 'n' || asked.has 'b' then
      let (shown, _) := (wholeLines text).foldl
        (fun (shown, number) line =>
          if asked.has 'b' && line == ['\n'] then (shown ++ [line], number)
          else (shown ++ [numbered line number], number + 1))
        ([], 1)
      done.say shown.flatten
    else done.say text

def listing (disk : Disk) (asked : Asked) (path : String) (names : List String) :
    List (List Char) :=
  let shown := names.filter fun name => asked.has 'a' || asked.has 'A' ||
    name.toList.head? != some '.'
  let all := if asked.has 'a' then "." :: ".." :: shown else shown
  let ordered := if asked.has 'r' then all.reverse else all
  ordered.map fun name =>
    let mark := match disk.look .entry (path ++ "/" ++ name) with
      | .ok (_, .directory) => if asked.has 'p' || asked.has 'F' then "/" else ""
      | .ok (_, .link _) => if asked.has 'F' then "@" else ""
      | .ok (_, .file _ _ true) => if asked.has 'F' then "*" else ""
      | _ => ""
    Text.octetsOf (name ++ mark)

def entryFacts (disk : Disk) (path : String) : String × Nat × Nat × Nat :=
  match disk.look .entry path with
  | .ok (_, .file contents _ executable) =>
    (if executable then "-rwxr-xr-x" else "-rw-r--r--", 1, contents.length,
      (contents.length + 4095) / 4096 * 4)
  | .ok (_, .link target) => ("lrwxrwxrwx", 1, (Text.octetsOf target).length, 0)
  | _ =>
    let below := ((disk.children path).toOption.getD []).filter fun name =>
      disk.isDirectoryAt (path ++ "/" ++ name)
    ("drwxr-xr-x", 2 + below.length, 4096, 4)

def longListing (disk : Disk) (path : String) (names : List (List Char)) (isDirectory : Bool) :
    List (List Char) :=
  let found := names.map fun name =>
    (name, entryFacts disk (if isDirectory then path ++ "/" ++ Text.ofOctets name
      else Text.ofOctets name))
  let blocks := found.foldl (fun blocks (_, _, _, _, taken) => blocks + taken) 0
  let widest (value : String × Nat × Nat × Nat → Nat) : Nat :=
    found.foldl (fun width (_, facts) => max width (Text.decimal (value facts)).length) 0
  let filled (width value : Nat) : List Char :=
    let digits := Text.decimal value
    List.replicate (width - digits.length) ' ' ++ digits
  (if isDirectory then ["total ".toList ++ Text.decimal blocks] else []) ++
    found.map fun (name, permissions, links, size, _) =>
      permissions.toList ++ ' ' :: filled (widest fun (_, links, _, _) => links) links ++
        " root root ".toList ++
        filled (widest fun (_, _, size, _) => size) size ++ " Jan  1 00:00 ".toList ++ name

def directoriesBelow (disk : Disk) : Nat → String → List (String × List String)
  | 0, _ => []
  | fuel + 1, path =>
    match disk.children path with
    | .error _ => []
    | .ok names =>
      (path, names) :: (names.map fun name =>
        let below := path ++ "/" ++ name
        match disk.look .entry below with
        | .ok (_, .directory) => directoriesBelow disk fuel below
        | _ => []).flatten

def sortedPaths (paths : List (List Char)) : List (List Char) :=
  paths.mergeSort fun left right => !(right < left)

def ls (task : Task) : Done :=
  task.asking 2
    { plain := "1aAdFprRtUSlhCkn", long :=
    [("all", 'a'), ("almost-all", 'A'), ("directory", 'd'), ("recursive", 'R')] } fun asked =>
    let operands := if asked.operands.isEmpty then [['.']] else sortedPaths asked.operands
    let isDirectory (operand : List Char) : Bool := task.disk.isDirectoryAt (pathOf operand)
    let missing := operands.filter fun operand =>
      (task.disk.look .entry (pathOf operand)).toOption.isNone
    let known := operands.filter (!missing.contains ·)
    let done := missing.foldl
      (fun done operand =>
        done.complain 2 ("ls: cannot access " ++ quotedName operand ++ ": " ++
          (match task.disk.look .entry (pathOf operand) with
            | .error cause => cause.reason
            | .ok _ => "")))
      task.idle
    let files := known.filter fun operand => asked.has 'd' || !isDirectory operand
    let directories := known.filter (!files.contains ·)
    let opened := (directories.map fun operand =>
      if asked.has 'R' then directoriesBelow task.disk 64 (pathOf operand)
      else [(pathOf operand, (task.disk.children (pathOf operand)).toOption.getD [])]).flatten
    let titled := operands.length > 1 || asked.has 'R'
    let blocks := opened.map fun (path, names) =>
      (if titled then Text.octetsOf path ++ [':', '\n'] else []) ++
        Text.joinLines
          (if asked.has 'l' then
          longListing task.disk path (listing task.disk asked path names) true
          else listing task.disk asked path names)
    let front := if files.isEmpty then []
      else [Text.joinLines (if asked.has 'l' then longListing task.disk "." files false else files)]
    done.say (['\n'].intercalate (front ++ blocks))

def rm (task : Task) : Done :=
  let known : KnownOptions := {
    plain := "rRfivd"
    long := [("recursive", 'r'), ("force", 'f'), ("dir", 'd')] }
  task.asking 1 known fun asked =>
    if asked.operands.isEmpty && !asked.has 'f' then
      (task.fail 1 "missing operand").complain 1 task.hint
    else
      asked.operands.foldl
        (fun done operand =>
          let about := "rm: cannot remove " ++ quotedName operand
          let last :=
            (Text.pieces (· == '/') (operand.reverse.dropWhile (· == '/')).reverse).getLastD []
          match done.disk.named (pathOf operand) with
          | .error .noEntry =>
            if asked.has 'f' then done
            else done.complain 1 (about ++ ": " ++ FileError.noEntry.reason)
          | .error .notDirectory =>
            if asked.has 'f' then done
            else done.complain 1 (about ++ ": " ++ FileError.notDirectory.reason)
          | .error cause => done.complain 1 (about ++ ": " ++ cause.reason)
          | .ok (_, .node .directory below) =>
            if asked.has 'r' || asked.has 'R' then
              if last == ['.'] || last == ['.', '.'] then
                done.complain 1
                  ("rm: refusing to remove '.' or '..' directory: skipping " ++ quotedName operand)
              else done.take (done.disk.removeAll (pathOf operand)) about
            else if asked.has 'd' then
              if below.isEmpty then done.take (done.disk.removeDirectory (pathOf operand)) about
              else done.complain 1 (about ++ ": " ++ FileError.notEmpty.reason)
            else done.complain 1 (about ++ ": Is a directory")
          | .ok _ => done.take (done.disk.removeFile (pathOf operand)) about)
        task.idle

def lastName (path : List Char) : List Char :=
  let trimmed := (path.reverse.dropWhile (· == '/')).reverse
  if trimmed.isEmpty then (if path.isEmpty then [] else ['/'])
  else (Text.pieces (· == '/') trimmed).getLastD []

def inside (directory name : List Char) : List Char :=
  if directory.getLast? == some '/' then directory ++ name else directory ++ '/' :: name

def destinations (task : Task) (asked : Asked) : Except String (List (List Char × List Char)) :=
  let into (directory : List Char) (sources : List (List Char)) : List (List Char × List Char) :=
    sources.map fun source => (source, inside directory (lastName source))
  match asked.value? 't' with
  | some directory => .ok (into directory asked.operands)
  | none =>
    match asked.operands with
    | [] => .error "missing file operand"
    | [only] => .error ("missing destination file operand after " ++ quotedName only)
    | operands =>
      let target := operands.getLastD []
      let sources := operands.dropLast
      if task.disk.isDirectoryAt (pathOf target) && !asked.has 'T' then .ok (into target sources)
      else
        match sources with
        | [source] => .ok [(source, target)]
        | _ => .error ("target " ++ quotedName target ++ ": No such file or directory")

def mv (task : Task) : Done :=
  task.asking 1
    { plain := "fivnuT", valued := "tS", long :=
    [("force", 'f'), ("no-clobber", 'n'), ("target-directory", 't')] } fun asked =>
    match destinations task asked with
    | .error text => (task.fail 1 text).complain 1 task.hint
    | .ok moves =>
      moves.foldl
        (fun done (source, target) =>
          match done.disk.named (pathOf source) with
          | .error cause =>
            done.complain 1 ("mv: cannot stat " ++ quotedName source ++ ": " ++ cause.reason)
          | .ok (place, _) =>
            if done.disk.placeOf (pathOf target) |>.toOption |>.any (· == place) then
              done.complain 1
                ("mv: " ++ quotedName source ++ " and " ++ quotedName target ++
                " are the same file")
            else if asked.has 'n' && (done.disk.named (pathOf target)).toOption.isSome then done
            else
              match done.disk.rename (pathOf source) (pathOf target) with
              | (.ok (), disk) => { done with disk }
              | (.error .invalidArgument, _) =>
                done.complain 1
                  ("mv: cannot move " ++ quotedName source ++ " to a subdirectory of itself, " ++
                  quotedName target)
              | (.error .isDirectory, _) =>
                done.complain 1
                  ("mv: cannot overwrite directory " ++ quotedName target ++ " with non-directory")
              | (.error cause, _) =>
                done.complain 1
                  ("mv: cannot move " ++ quotedName source ++ " to " ++ quotedName target ++ ": " ++
                  cause.reason))
        task.idle

def cp (task : Task) : Done :=
  let known : KnownOptions := {
    plain := "rRafpivnuTPLd"
    valued := "tS"
    long := [("recursive", 'r'), ("archive", 'a'), ("force", 'f'), ("target-directory", 't'),
      ("preserve", 'p')] }
  task.asking 1 known fun asked =>
    match destinations task asked with
    | .error text => (task.fail 1 text).complain 1 task.hint
    | .ok copies =>
      let keeps := asked.has 'p' || asked.has 'a'
      copies.foldl
        (fun done (source, target) =>
          let path := pathOf target
          match done.disk.stat (pathOf source) with
          | .error cause =>
            done.complain 1 ("cp: cannot stat " ++ quotedName source ++ ": " ++ cause.reason)
          | .ok (place, .file contents time executable) =>
            if (done.disk.stat path).toOption.any fun (other, _) => other == place then
              done.complain 1
                ("cp: " ++ quotedName source ++ " and " ++ quotedName target ++
                " are the same file")
            else
              let isNew := (done.disk.stat path).toOption.isNone
              let copied := done.take (done.disk.writeAt path contents)
                ("cp: cannot create regular file " ++ quotedName target)
              if copied.status != done.status || !isNew && !keeps then copied
              else
                let flagged := if executable then (copied.disk.setExecutable path true).2
                  else copied.disk
                { copied with disk := if keeps then flagged.setTime path time else flagged }
          | .ok (place, _) =>
            if !(asked.has 'r' || asked.has 'R' || asked.has 'a') then
              done.complain 1 ("cp: -r not specified; omitting directory " ++ quotedName source)
            else
              match done.disk.tree.at? place with
              | some tree => done.take (done.disk.copyTree tree path)
                ("cp: cannot create directory " ++ quotedName target)
              | none => done)
        task.idle

def upward : Nat → String → List String
  | 0, path => [path]
  | fuel + 1, path =>
    match Disk.above? path with
    | some above => if above.isEmpty || above == "/" then [path] else path :: upward fuel above
    | none => [path]

def mkdir (task : Task) : Done :=
  task.asking 1 { plain := "pv", valued := "m", long := [("parents", 'p'), ("mode", 'm')] }
    fun asked =>
    if asked.operands.isEmpty then (task.fail 1 "missing operand").complain 1 task.hint
    else
      asked.operands.foldl
        (fun done operand =>
          let path := pathOf operand
          let about := "mkdir: cannot create directory " ++ quotedName operand
          if asked.has 'p' then
            -- Where a file is in the way, it is the one that the message names.
            let obstacle := (upward path.length path).reverse.find? fun above =>
              above != path && (done.disk.stat above).toOption.isSome &&
                !done.disk.isDirectoryAt above
            match obstacle with
            | some above => done.complain 1
              ("mkdir: cannot create directory '" ++ above ++ "': Not a directory")
            | none => done.take (Disk.makeDirectories (path.length + 1) done.disk path) about
          else done.take (done.disk.makeDirectory path) about)
        task.idle

def rmdir (task : Task) : Done :=
  task.asking 1 { plain := "pv", long := [("parents", 'p'), ("ignore-fail-on-non-empty", 'v')] }
    fun asked =>
    if asked.operands.isEmpty then (task.fail 1 "missing operand").complain 1 task.hint
    else
      let paths := (asked.operands.map fun operand =>
        if asked.has 'p' then upward operand.length (pathOf operand) else [pathOf operand]).flatten
      paths.foldl
        (fun done path =>
          done.take (done.disk.removeDirectory path) ("rmdir: failed to remove '" ++ path ++ "'"))
        task.idle

def daysTo (year month day : Nat) : Nat :=
  let shifted := if month ≤ 2 then year - 1 else year
  let months := (month + 9) % 12
  365 * shifted + shifted / 4 - shifted / 100 + shifted / 400 + (153 * months + 2) / 5 + day -
    1 - 719468

def readTime? (text : List Char) : Option Signal :=
  match text with
  | '@' :: digits => (Text.readDecimal? Signal.secondsBound (digits.takeWhile (· != '.'))).map
    fun seconds => ⟨seconds, 0⟩
  | _ => do
    let numbers ← ((Text.pieces (fun c => "-T: Z".toList.contains c) text).filter (!·.isEmpty)).mapM
      (Text.readDecimal? Text.wordBound)
    match numbers with
    | year :: month :: day :: clock =>
      let time := match clock with
        | [hour, minute] => 3600 * hour + 60 * minute
        | [hour, minute, second] => 3600 * hour + 60 * minute + second
        | _ => 0
      if month < 1 || 12 < month || day < 1 || 31 < day then none
      else some ⟨86400 * daysTo year month day + time, 0⟩
    | _ => none

def readStamp? (text : List Char) : Option Signal := do
  let front := text.takeWhile (· != '.')
  let digits := if front.length = 10 then "20".toList ++ front else front
  if digits.length != 12 then none
  else
    let number (start count : Nat) : Option Nat :=
      Text.readDecimal? Text.wordBound ((digits.drop start).take count)
    let second := (Text.readDecimal? Text.wordBound (text.drop (front.length + 1))).getD 0
    let hours ← number 8 2
    let minutes ← number 10 2
    return ⟨86400 * daysTo (← number 0 4) (← number 4 2) (← number 6 2) + 3600 * hours +
      60 * minutes + second, 0⟩

def touch (task : Task) : Done :=
  task.asking 1
    { plain := "camh", valued := "drt", long :=
    [("date", 'd'), ("reference", 'r'), ("no-create", 'c')] } fun asked =>
    if asked.operands.isEmpty then (task.fail 1 "missing file operand").complain 1 task.hint
    else
      let time := match asked.value? 'd', asked.value? 't', asked.value? 'r' with
        | some text, _, _ => readTime? text
        | _, some text, _ => readStamp? text
        | _, _, some path => (task.disk.modifiedAt (pathOf path)).toOption
        | _, _, _ => some task.disk.now
      match time with
      | none =>
        task.fail 1
          ("invalid date format " ++
          quotedName (((asked.value? 'd').or (asked.value? 't')).getD []))
      | some time =>
        asked.operands.foldl
          (fun done operand =>
            let path := pathOf operand
            match done.disk.stat path with
            | .ok _ => { done with disk := done.disk.setTime path time }
            | .error .noEntry =>
              if asked.has 'c' then done
              else
                match done.disk.openFile path true with
                | (.ok _, disk) => { done with disk := disk.setTime path time }
                | (.error cause, _) =>
                  done.complain 1
                    ("touch: cannot touch " ++ quotedName operand ++ ": " ++ cause.reason)
            | .error cause =>
              done.complain 1
                ("touch: cannot touch " ++ quotedName operand ++ ": " ++ cause.reason))
          task.idle

def ln (task : Task) : Done :=
  task.asking 1 { plain := "sfnvT", long := [("symbolic", 's'), ("force", 'f')] } fun asked =>
    let pairs : Except String (List (List Char × List Char)) := match asked.operands with
      | [only] => .ok [(only, lastName only)]
      | _ => destinations task asked
    match pairs with
    | .error text => (task.fail 1 text).complain 1 task.hint
    | .ok pairs =>
      pairs.foldl
        (fun done (source, target) =>
          let path := pathOf target
          let cleared := if asked.has 'f' then (done.disk.removeFile path).2 else done.disk
          let kind := if asked.has 's' then "symbolic link " else "hard link "
          let about := "ln: failed to create " ++ kind ++ quotedName target
          if asked.has 's' then
            { done with disk := cleared }.take (cleared.makeLink path (pathOf source)) about
          else
            match done.disk.named (pathOf source) with
            | .error cause => done.complain 1
              ("ln: failed to access " ++ quotedName source ++ ": " ++ cause.reason)
            | .ok (_, .node .directory _) =>
              done.complain 1 ("ln: " ++ pathOf source ++ ": hard link not allowed for directory")
            | .ok (_, tree) =>
              match cleared.named path, cleared.placeOf path with
              | .ok _, _ => done.complain 1 (about ++ ": File exists")
              | _, .ok place => { done with disk := cleared.put place tree.entry }
              | _, .error cause => done.complain 1 (about ++ ": " ++ cause.reason))
        task.idle

def modeRuns? (mode : List Char) : Option (Option Bool) :=
  if mode.all Format.isOctal && !mode.isEmpty then
    some (some (mode.any fun c => (c.toNat - '0'.toNat) % 2 == 1))
  else
    let who := mode.takeWhile ("ugoa".toList.contains ·)
    match mode.drop who.length with
    | '+' :: letters => some (if letters.contains 'x' then some true else none)
    | '-' :: letters => some (if letters.contains 'x' then some false else none)
    | '=' :: letters => some (some (letters.contains 'x'))
    | _ => none

def chmod (task : Task) : Done :=
  let (flags, operands) := match task.arguments with
    | ['-', 'R'] :: rest => ([['-', 'R']], rest)
    | arguments => ([], arguments)
  match operands with
  | [] => (task.fail 1 "missing operand").complain 1 task.hint
  | mode :: paths =>
    match modeRuns? mode with
    | none => (task.fail 1 ("invalid mode: " ++ quotedName mode)).complain 1 task.hint
    | some change =>
      if paths.isEmpty then (task.fail 1 ("missing operand after " ++ quotedName mode)).complain 1
        task.hint
      else
        paths.foldl
          (fun done path =>
            match done.disk.stat (pathOf path), change with
            | .error cause, _ =>
              done.complain 1 ("chmod: cannot access " ++ quotedName path ++ ": " ++ cause.reason)
            | .ok _, none => done
            | .ok _, some executable =>
              let below :=
                (directoriesBelow done.disk 64 (pathOf path)).map fun (directory, names) =>
                names.map fun name => directory ++ "/" ++ name
              let touched := pathOf path :: if flags.isEmpty then [] else below.flatten
              let disk :=
                touched.foldl (fun disk path => (disk.setExecutable path executable).2) done.disk
              { done with disk })
          task.idle

def basename (task : Task) : Done :=
  let shorten (path ending : List Char) : List Char :=
    let name := lastName path
    if !ending.isEmpty && ending.reverse.isPrefixOf name.reverse && ending.length < name.length then
      name.take (name.length - ending.length)
    else name
  match task.arguments with
  | [] => (task.fail 1 "missing operand").complain 1 task.hint
  | ['-', 's'] :: ending :: paths => task.idle.say (Text.joinLines (paths.map (shorten · ending)))
  | ['-', 'a'] :: paths => task.idle.say (Text.joinLines (paths.map (shorten · [])))
  | [path] => task.idle.say (shorten path [] ++ ['\n'])
  | [path, ending] => task.idle.say (shorten path ending ++ ['\n'])
  | _ :: _ :: extra :: _ =>
    (task.fail 1 ("extra operand " ++ quotedName extra)).complain 1 task.hint

def directoryName (path : List Char) : List Char :=
  let trimmed := (path.reverse.dropWhile (· == '/'))
  let above := (trimmed.dropWhile (· != '/')).dropWhile (· == '/')
  if above.isEmpty then (if path.head? == some '/' then ['/'] else ['.']) else above.reverse

def dirname (task : Task) : Done :=
  if task.arguments.isEmpty then (task.fail 1 "missing operand").complain 1 task.hint
  else task.idle.say (Text.joinLines (task.arguments.map directoryName))

def readlink (task : Task) : Done :=
  task.asking 1 { plain := "fenmqsv" } fun asked =>
    let newline : List Char := if asked.has 'n' then [] else ['\n']
    asked.operands.foldl
      (fun done operand =>
        if asked.has 'f' || asked.has 'e' || asked.has 'm' then
          match task.disk.canonical? (pathOf operand), task.disk.placeOf (pathOf operand) with
          | some path, _ => done.say (Text.octetsOf path ++ newline)
          | none, .ok place =>
            if asked.has 'e' then { done with status := 1 }
            else done.say (Text.octetsOf ("/" ++ "/".intercalate place) ++ newline)
          | none, .error _ => { done with status := 1 }
        else
          match task.disk.look .entry (pathOf operand) with
          | .ok (_, .link target) => done.say (Text.octetsOf target ++ newline)
          | _ => { done with status := 1 })
      task.idle

def realpath (task : Task) : Done :=
  task.asking 1 { plain := "emsqz" } fun asked =>
    asked.operands.foldl
      (fun done operand =>
        match task.disk.canonical? (pathOf operand), task.disk.placeOf (pathOf operand) with
        | some path, _ => done.say (Text.octetsOf path ++ ['\n'])
        | none, .ok place => done.say (Text.octetsOf ("/" ++ "/".intercalate place) ++ ['\n'])
        | none, .error cause => done.complain 1 ("realpath: " ++ plainWording operand cause.reason))
      task.idle

def here (disk : Disk) : List Char :=
  Text.octetsOf ("/" ++ "/".intercalate disk.workingDirectory)

def cmp (task : Task) : Done :=
  task.asking 2 { plain := "slb", long := [("quiet", 's'), ("silent", 's')] } fun asked =>
    match asked.operands with
    | [first, second] =>
      match task.contents first, task.contents second with
      | .error reason, _ =>
        if asked.has 's' then { task.idle with status := 2 }
        else task.fail 2 (plainWording first reason)
      | _, .error reason =>
        if asked.has 's' then { task.idle with status := 2 }
        else task.fail 2 (plainWording second reason)
      | .ok left, .ok right =>
        let same := ((List.zip left right).takeWhile fun (a, b) => a == b).length
        if left == right then task.idle
        else if asked.has 's' then { task.idle with status := 1 }
        else if same = left.length || same = right.length then
          let shorter := if left.length < right.length then first else second
          task.fail 1
            ("EOF on " ++ quotedName shorter ++ " after byte " ++
            String.ofList (Text.decimal same) ++ ", in line " ++
            String.ofList (Text.decimal ((left.take same).count '\n' + 1)))
        else
          { task.idle.say
              (first ++ [' '] ++ second ++ " differ: char ".toList ++ Text.decimal (same + 1) ++
              ", line ".toList ++ Text.decimal ((left.take same).count '\n' + 1) ++
              ['\n']) with status := 1 }
    | _ => (task.fail 2 "missing operand").complain 2 task.hint

end DialectLoader.Tools
