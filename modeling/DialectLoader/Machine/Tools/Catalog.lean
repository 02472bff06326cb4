import DialectLoader.Machine.Report.Run
import DialectLoader.Machine.Script.Launch
import DialectLoader.Machine.Tools.Compare
import DialectLoader.Machine.Tools.Condition
import DialectLoader.Machine.Tools.Dump
import DialectLoader.Machine.Tools.Edit
import DialectLoader.Machine.Tools.Expression

/-!
# The tools of the system

All tools by their names. Those that only ask the system something that a disk does not hold, such
as the date or the user, do nothing and succeed. No tool waits, and none writes more than it is ever
read from.

The tools stand in for those of a system when a session starts a program. The loader knows nothing
of them.
-/

namespace DialectLoader.Tools

def printenv (task : Task) : Done :=
  if task.arguments.isEmpty then
    task.idle.say
      (Text.joinLines
      (task.environment.map fun (name, value) => Text.octetsOf name ++ '=' :: value))
  else
    let values := task.arguments.map fun name => task.environment.lookup (Text.ofOctets name)
    { task.idle.say (Text.joinLines (values.filterMap id)) with
      status := if values.all Option.isSome then 0 else 1 }

def sleep (task : Task) : Done :=
  let isInterval (argument : List Char) : Bool :=
    match Text.Ratio.readSize? argument with
    | some (_, []) | some (_, ['s']) | some (_, ['m']) | some (_, ['h']) | some (_, ['d']) => true
    | _ => false
  match task.arguments, task.arguments.find? (!isInterval ·) with
  | [], _ => (task.fail 1 "missing operand").complain 1 task.hint
  | _, some argument =>
    (task.fail 1 ("invalid time interval " ++ quotedName argument)).complain 1 task.hint
  | _, none => task.idle

def mktemp (task : Task) : Done :=
  task.asking 1 { plain := "dqut", valued := "p" } fun asked =>
    let template := asked.operands.headD "/tmp/tmp.XXXXXXXXXX".toList
    let stem := (template.reverse.dropWhile (· == 'X')).reverse
    let width := template.length - stem.length
    let name (number : Nat) : List Char :=
      let digits := Text.decimal number
      stem ++ List.replicate (width - digits.length) '0' ++ digits
    let free := ((List.range 1000).map name).find? fun path =>
      (task.disk.named (pathOf path)).toOption.isNone
    let path := free.getD (name 1000)
    let kind := if asked.has 'd' then "directory" else "file"
    let about := "mktemp: failed to create " ++ kind ++ " via template " ++ quotedName template
    let made := if asked.has 'd' then task.disk.makeDirectory (pathOf path)
      else task.disk.writeAt (pathOf path) []
    let done := task.idle.take made about
    if done.status = 0 then done.say (path ++ ['\n']) else done

def truncate (task : Task) : Done :=
  task.asking 1 { plain := "c", valued := "s", long := [("size", 's')] } fun asked =>
    match (asked.value? 's').bind readCount? with
    | none => (task.fail 1 "you must specify either '--size' or '--reference'").complain 1 task.hint
    | some (sign, count) =>
      asked.operands.foldl
        (fun done path =>
          let before := (done.disk.readAt (pathOf path)).toOption.getD []
          let length := match sign with
            | some '+' => before.length + count
            | some _ => before.length - count
            | none => count
          let after := before.take length ++ List.replicate (length - before.length) 0
          done.take (done.disk.writeAt (pathOf path) after)
            ("truncate: cannot open " ++ quotedName path ++ " for writing"))
        task.idle

def yes (task : Task) : Done :=
  let line := if task.arguments.isEmpty then ['y'] else [' '].intercalate task.arguments
  task.idle.say (List.replicate 100000 (line ++ ['\n'])).flatten

def stat (task : Task) : Done :=
  task.asking 1 { plain := "Lt", valued := "c", long := [("format", 'c')] } fun asked =>
    asked.operands.foldl
      (fun done operand =>
        match task.disk.look (if asked.has 'L' then .target else .entry) (pathOf operand) with
        | .error cause =>
          done.complain 1 ("stat: cannot statx " ++ quotedName operand ++ ": " ++ cause.reason)
        | .ok (_, entry) =>
          done.say (shown entry operand ((asked.value? 'c').getD "%n".toList) ++ ['\n']))
      task.idle
where
  fact (entry : DiskEntry) (operand : List Char) (letter : Char) : List Char :=
    match letter, entry with
    | 'n', _ => operand
    | 's', .file contents _ _ => Text.decimal contents.length
    | 's', .directory => "4096".toList
    | 's', .link target => Text.decimal (Text.octetsOf target).length
    | 'F', .file contents _ _ =>
      (if contents.isEmpty then "regular empty file" else "regular file").toList
    | 'F', .directory => "directory".toList
    | 'F', .link _ => "symbolic link".toList
    | 'a', .file _ _ executable => (if executable then "755" else "644").toList
    | 'a', .directory => "755".toList
    | 'a', .link _ => "777".toList
    | 'A', .file _ _ executable => (if executable then "-rwxr-xr-x" else "-rw-r--r--").toList
    | 'A', .directory => "drwxr-xr-x".toList
    | 'A', .link _ => "lrwxrwxrwx".toList
    | '%', _ => ['%']
    | other, _ => [other]
  shown (entry : DiskEntry) (operand : List Char) : List Char → List Char
    | '%' :: letter :: rest => fact entry operand letter ++ shown entry operand rest
    | c :: rest => c :: shown entry operand rest
    | [] => []

def dd (task : Task) : Done :=
  let value? (name : String) : Option (List Char) :=
    task.arguments.findSome? fun argument =>
      if (name ++ "=").toList.isPrefixOf argument then some (argument.drop (name.length + 1))
      else none
  let number (name : String) (otherwise : Nat) : Nat :=
    match value? name with
    | none => otherwise
    | some digits =>
      let size := (Text.readDecimal? Text.wordBound (digits.takeWhile Char.isDigit)).getD otherwise
      match digits.dropWhile Char.isDigit with
      | 'k' :: _ | 'K' :: _ => size * 1024
      | 'M' :: _ => size * 1048576
      | _ => size
  let size := max (number "bs" (number "ibs" 512)) 1
  let source := (value? "if").getD ['-']
  match task.contents source with
  | .error reason => task.fail 1 ("failed to open " ++ quotedName source ++ ": " ++ reason)
  | .ok text =>
    let skipped := text.drop (size * number "skip" 0)
    let taken := match value? "count" with
      | some _ => skipped.take (size * number "count" 0)
      | none => skipped
    let rest := if source == ['-'] then skipped.drop taken.length else task.input
    let records := String.ofList (Text.decimal (taken.length / size)) ++ "+" ++
      (if taken.length % size = 0 then "0" else "1")
    let summary := records ++ " records in\n" ++ records ++ " records out\n" ++
      toString taken.length ++ " bytes copied\n"
    let isQuiet := value? "status" == some "none".toList
    let done : Done := {
      errors := if isQuiet then [] else summary.toList, input := rest, disk := task.disk }
    match value? "of" with
    | none => done.say taken
    | some target =>
      if target == "/dev/null".toList then done
      else
        let before := if value? "conv" == some "notrunc".toList || (value? "seek").isSome then
            Text.octets ((task.disk.readAt (pathOf target)).toOption.getD [])
          else []
        let start := size * number "seek" 0
        let front := before.take start ++ List.replicate (start - before.length) '\x00'
        let behind := if value? "conv" == some "notrunc".toList then
          before.drop (start + taken.length) else []
        done.take (task.disk.writeAt (pathOf target) (Text.octetBytes (front ++ taken ++ behind)))
          ("dd: failed to open " ++ quotedName target)

def find? (name : String) : Option (Task → Done) :=
  match name with
  | "cat" => some cat
  | "head" => some head
  | "tail" => some tail
  | "wc" => some wc
  | "sort" => some sort
  | "uniq" => some uniq
  | "cut" => some cut
  | "paste" => some paste
  | "tr" => some tr
  | "rev" => some rev
  | "tac" => some tac
  | "nl" => some nl
  | "seq" => some seq
  | "tee" => some tee
  | "fold" => some fold
  | "ls" => some ls
  | "rm" => some rm
  | "mv" => some mv
  | "cp" => some cp
  | "mkdir" => some mkdir
  | "rmdir" => some rmdir
  | "touch" => some touch
  | "ln" => some ln
  | "chmod" => some chmod
  | "basename" => some basename
  | "dirname" => some dirname
  | "readlink" => some readlink
  | "realpath" => some realpath
  | "cmp" => some cmp
  | "mktemp" => some mktemp
  | "truncate" => some truncate
  | "grep" | "egrep" | "fgrep" => some grep
  | "sed" => some sed
  | "expr" => some expr
  | "awk" | "mawk" => some awk
  | "python3" => some script
  | "od" => some od
  | "base64" => some base64
  | "md5sum" => some (digests Digest.Blocks.md5)
  | "sha1sum" => some (digests Digest.Blocks.sha1)
  | "sha256sum" => some (digests Digest.Blocks.sha256)
  | "cksum" => some cksum
  | "comm" => some comm
  | "diff" => some diff
  | "yes" => some yes
  | "stat" => some stat
  | "dd" => some dd
  | "printenv" => some printenv
  | "sleep" => some sleep
  | "sync" | "chown" | "chgrp" | "date" | "id" | "hostname" | "whoami" => some Task.idle
  | "uname" => some fun task => task.idle.say "Linux\n".toList
  | _ => none

end DialectLoader.Tools
