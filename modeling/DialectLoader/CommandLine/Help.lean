import DialectLoader.CommandLine.Arguments

/-!
# Help texts of the command line

One line for each option: its names, what its value is called, and what it does, which starts in the
same column on all lines.
-/

namespace DialectLoader.CommandLine

/-- The names of an option with its value. An option without a short name is set in by the width of
one. -/
def Flag.usage (flag : Flag) : String :=
  let value := (flag.value?.map fun name => " <" ++ name ++ ">").getD ""
  let short := (flag.short?.map fun name => String.ofList ['-', name] ++ ", ").getD "    "
  short ++ "--" ++ flag.long ++ value

/-- The widest names of an option, which decides the column of all explanations. -/
def usageWidth : Nat :=
  (Flag.all.map (·.usage.length)).foldl max 0

/-- The line of an option, filled up with blanks between its names and its explanation. -/
def Flag.line (flag : Flag) : String :=
  let padding := String.ofList (List.replicate (usageWidth + 2 - flag.usage.length) ' ')
  "  " ++ flag.usage ++ padding ++ flag.meaning

/-- The help text. Its lines on the options come from the table by which they are read, so the two
cannot disagree. -/
def helpText : String :=
  let head := [
    "Moonloader - MoonScript and YueScript compile cache with error remapping",
    "",
    "Usage: moonloader [OPTIONS] [FILE]...",
    "",
    "Arguments:",
    "  [FILE]...  Logical source paths to compile",
    "",
    "Options:"]
  "\n".intercalate (head ++ Flag.all.map Flag.line ++ [""])

def versionText : String := "moonloader 0.1.0\n"

end DialectLoader.CommandLine
