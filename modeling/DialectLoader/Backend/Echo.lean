import DialectLoader.Backend
import DialectLoader.Text.Search

/-!
# Echoing backends

Two backends that stand in for real compilers by repeating the source. One reports byte offsets, the
other annotates lines, so that between them they cover both kinds of output. Each refuses a source
that holds the marker `!!`. A third one always panics.

The program itself never uses them. They are there to try out everything around a compiler where
none is installed.
-/

namespace DialectLoader.Backend

/-- The text that makes an echoing backend report a fault, at its first occurrence in the source. -/
def faultMarker : String := "!!"

/-- For every line the number it has in the generated code, one header line ahead, and the offset at
which it starts. -/
def echoReports : Nat → Nat → List (List Char) → List (Nat × Nat)
  | _, _, [] => []
  | number, offset, line :: rest =>
    (number, offset) :: echoReports (number + 1) (offset + Text.byteLength line + 1) rest

/-- Repeats every line below one header line and reports where it started. -/
def moonEcho : Backend where
  name := "moon-echo"
  transpile source _ :=
    match Text.indexOf? (Text.utf8 faultMarker) (Text.utf8 source) with
    | some offset =>
      .faulted {
        message := "Failed to parse"
        offset := some offset
        display := some ("Failed to parse at byte " ++ String.ofList (Text.decimal offset)) }
    | none =>
      let lines := Text.pieces (· == '\n') source.toList
      .produced (.offsetMapped
        (String.ofList ("local _moon\n".toList ++ lines.flatMap (· ++ ['\n'])))
        (echoReports 2 0 lines))

/-- Three generated lines for a visible line; the second carries its text and number. -/
def annotate (number : Nat) (line : List Char) : List Char :=
  "do\n  ".toList ++ Text.trim line ++ " -- ".toList ++ Text.decimal number ++ "\nend\n".toList

/-- Repeats every visible line in a block of its own and annotates it with its number. -/
def yueEcho : Backend where
  name := "yue-echo"
  transpile source _ :=
    let lines := Text.numbered (Text.lines source.toList)
    match lines.find? fun (_, line) => (Text.indexOf? faultMarker.toList line).isSome with
    | some (number, _) =>
      .faulted { message := "unexpected symbol", lineColumn := some (number, 1) }
    | none =>
      .produced (.annotated (String.ofList
        ((lines.filter fun (_, line) => !line.all Text.isBlank).flatMap fun (number, line) =>
          annotate number line)))

def panicking : Backend where
  name := "panicking"
  transpile _ _ := .panicked (some "backend blew up")

end DialectLoader.Backend
