/-!
# File errors

An operation on files fails for a cause. Either the file store states the cause with a text of its
own, or the operating system reports one of its error numbers. Each cause has a kind, by which
callers tell failures apart, and a message.

Only the causes are listed that the operations of this program can meet on the file stores defined
here; a real system has more.
-/

namespace DialectLoader

/-- The kinds of file errors that callers tell apart; the rest are other errors. -/
inductive FileError.Kind where
  | notFound
  | permissionDenied
  | invalidData
  | isADirectory
  | notADirectory
  | alreadyExists
  | filesystemLoop
  | invalidFilename
  | invalidInput
  | directoryNotEmpty
  | resourceBusy
deriving DecidableEq, Repr

/-- Why an operation on files failed: a cause that a store states, or one that the operating system
numbers. -/
inductive FileError where
  | stated (kind : FileError.Kind) (text : String)
  /-- A directory or file on the way does not exist. -/
  | noEntry
  | occupied
  | notDirectory
  | isDirectory
  | denied
  | tooManyLinks
  | nameTooLong
  /-- The path holds a character that no path can hold. -/
  | unusablePath
  /-- The path names a directory in a way that does not serve. -/
  | invalidArgument
  | notEmpty
  | busy
deriving DecidableEq, Repr

namespace FileError

def kind : FileError → Kind
  | stated kind _ => kind
  | noEntry => .notFound
  | occupied => .alreadyExists
  | notDirectory => .notADirectory
  | isDirectory => .isADirectory
  | denied => .permissionDenied
  | tooManyLinks => .filesystemLoop
  | nameTooLong => .invalidFilename
  | unusablePath | invalidArgument => .invalidInput
  | notEmpty => .directoryNotEmpty
  | busy => .resourceBusy

def reason : FileError → String
  | stated _ text => text
  | noEntry => "No such file or directory"
  | occupied => "File exists"
  | notDirectory => "Not a directory"
  | isDirectory => "Is a directory"
  | denied => "Permission denied"
  | tooManyLinks => "Too many levels of symbolic links"
  | nameTooLong => "File name too long"
  | unusablePath => "file name contained an unexpected NUL byte"
  | invalidArgument => "Invalid argument"
  | notEmpty => "Directory not empty"
  | busy => "Device or resource busy"

/-- The number that the operating system has for a cause, if the cause is the system's. -/
def number? : FileError → Option String
  | stated .. | unusablePath => none
  | noEntry => some "2"
  | occupied => some "17"
  | notDirectory => some "20"
  | isDirectory => some "21"
  | denied => some "13"
  | tooManyLinks => some "40"
  | nameTooLong => some "36"
  | invalidArgument => some "22"
  | notEmpty => some "39"
  | busy => some "16"

/-- The message of an error: what the cause is, and the number in brackets behind it if there is
one. -/
def message (error : FileError) : String :=
  match error.number? with
  | some number => error.reason ++ " (os error " ++ number ++ ")"
  | none => error.reason

def missing (path : String) : FileError :=
  stated .notFound path

def refused (path : String) : FileError :=
  stated .permissionDenied path

def notText : FileError :=
  stated .invalidData "stream did not contain valid UTF-8"

end FileError

end DialectLoader
