import DialectLoader.Cache
import DialectLoader.Config
import DialectLoader.Excerpt
import DialectLoader.Files.Logical

/-!
# Remapping error locations

Errors at run time name generated code. A chunk name is managed when it lies below the cache root
and the cache knows its artifact; one `@` in front of it is carried along. A managed location is
remapped to the source of its artifact, and its line to the source line, if there is one that fits a
signed 32-bit word. Everything else stays as it is.

In a message a location is looked for in two ways. The leading location is what stands before the
first `:digits:` of the first line, whatever characters it has; if it is managed it tells where the
error happened. Embedded locations are runs of characters other than blanks, colons, quotes and
brackets, followed by `:digits:` or `:digits>`. A number that can be read is written anew, without
leading zeros, also when nothing else changes; one that cannot be read keeps its match as it is.

Both searches are written out as scans over the characters. There is no pattern language here, so
nothing depends on how a library would try its alternatives.
-/

namespace DialectLoader.Remap

/-- What remapping depends on. Files are not looked at, so a location is remapped in the same way
after its source has been removed. -/
structure View where
  cacheRoot : String
  cache : Cache

/-- The start that the normal spelling of every managed path has. It ends in one slash, so a sibling
whose name merely begins like the cache root is not managed. -/
def View.managedStart (view : View) : List Char :=
  Path.dropTrailingSlashes (Path.normalize view.cacheRoot).toList ++ ['/']

/-- A chunk name that names generated code, taken apart into what is needed to name the source in
its place. -/
structure Managed where
  /-- Whether an `@` stood in front of it, as it does in names of chunks that were loaded from
  files. -/
  marked : Bool
  artifact : Artifact

/-- The name to show for a managed chunk: the source as seen from the root, marked if the chunk
was. -/
def Managed.display (managed : Managed) : String :=
  if managed.marked then "@" ++ managed.artifact.fullSourcePath else managed.artifact.fullSourcePath

def splitMark (source : String) : Bool × String :=
  match source.toList with
  | '@' :: rest => (true, String.ofList rest)
  | _ => (false, source)

/-- The artifact behind a chunk name. Both tests are made: a path below the cache root may be
unknown to the cache, and an artifact taken over from a manifest may lie elsewhere. -/
def View.managed? (view : View) (source : String) : Option Managed :=
  let (marked, path) := splitMark source
  if view.managedStart.isPrefixOf (Path.normalize path).toList then
    (view.cache.lookupOutput path).map (⟨marked, ·⟩)
  else none

/-- The source line of a line of generated code. Lines that are not positive have none, and neither
have those whose source line is too large for a signed word. -/
def sourceLine? (artifact : Artifact) (line : Int) : Option Int :=
  if line ≤ 0 then none
  else ((artifact.sourceLine? line.toNat).filter (· < Text.signedBound)).map Int.ofNat

/-- Remaps the chunk name and the line of one stack frame. The name is remapped also when the line
is not, so a line of generated code may stand behind the name of a source. -/
def View.frame (view : View) (source : String) (line : Int) : String × Int :=
  match view.managed? source with
  | some managed => (managed.display, (sourceLine? managed.artifact line).getD line)
  | none => (source, line)

/-- The written form of a line number, which may be negative in a stack frame that stands for no
line. -/
def lineText (line : Int) : List Char :=
  if line < 0 then '-' :: Text.decimal line.natAbs else Text.decimal line.natAbs

/-- Whether a character can be part of an embedded location. Blanks, colons, quotes and brackets end
it, so a path that holds one of these is not recognised as a whole. -/
def isTokenChar (c : Char) : Bool :=
  !(Text.isBlank c || [':', '(', ')', '\'', '"', '[', ']', '<', '>'].contains c)

/-- The line number behind a location, up to one of the given terminators: its digits, the
terminator and what follows. Digits of any script are accepted here; whether they can be read is
decided later. -/
def lineNumber? (terminators : List Char) : List Char → Option (List Char × Char × List Char)
  | ':' :: rest =>
    match rest.dropWhile Text.isDigit with
    | terminator :: after =>
      if terminators.contains terminator && !(rest.takeWhile Text.isDigit).isEmpty then
        some (rest.takeWhile Text.isDigit, terminator, after)
      else none
    | [] => none
  | _ => none

/-- What follows a line number is shorter than the text it was read from. The scan over a message
stops for this reason. -/
theorem lineNumber?_length {terminators text digits after : List Char} {terminator : Char}
    (found : lineNumber? terminators text = some (digits, terminator, after)) :
    after.length < text.length := by
  unfold lineNumber? at found
  split at found
  · rename_i rest
    have shorter := (List.dropWhile_sublist (l := rest) Text.isDigit).length_le
    split at found
    · rename_i terminator after behind
      rw [behind] at shorter
      split at found
      · simp only [Option.some.injEq, Prod.mk.injEq] at found
        obtain ⟨_, _, rfl⟩ := found
        simp only [List.length_cons] at shorter ⊢
        omega
      · cases found
    · cases found
  · cases found

/-- Remaps one embedded location. A number that cannot be read leaves the location as it stands; a
number that can be read is written anew even if nothing is managed. -/
def View.location (view : View) (token digits : List Char) (terminator : Char) : List Char :=
  match Text.readDecimal? Text.signedBound digits with
  | none => token ++ ':' :: digits ++ [terminator]
  | some line =>
    let (source, line) := view.frame (String.ofList token) line
    source.toList ++ ':' :: lineText line ++ [terminator]

/-- Remaps all embedded locations of a text from left to right. Each one is looked for behind the
end of the one before, so no character belongs to two of them. -/
def View.embedded (view : View) (text : List Char) : List Char :=
  match text with
  | [] => []
  | c :: rest =>
    if isTokenChar c then
      match _found : lineNumber? [':', '>'] (rest.dropWhile isTokenChar) with
      | some (digits, terminator, after) =>
        view.location (c :: rest.takeWhile isTokenChar) digits terminator ++ embedded view after
      | none => c :: rest.takeWhile isTokenChar ++ embedded view (rest.dropWhile isTokenChar)
    else c :: embedded view rest
termination_by text.length
decreasing_by
  · have shorter := (List.dropWhile_sublist (l := rest) isTokenChar).length_le
    have further := lineNumber?_length _found
    simp only [List.length_cons]
    omega
  · have shorter := (List.dropWhile_sublist (l := rest) isTokenChar).length_le
    simp only [List.length_cons]
    omega
  · simp only [List.length_cons]
    omega

/-- The location at the start of a message, with the message behind it cut where the blanks end. -/
structure Leading where
  source : List Char
  digits : List Char
  /-- The blank characters behind it, which are kept as they are. -/
  separator : List Char
  rest : List Char
deriving DecidableEq

/-- Finds the leading location: the shortest start of the first line that a line number follows. A
message that has its first line number on a later line has none. -/
def leading? : List Char → Option Leading
  | [] => none
  | c :: text =>
    match lineNumber? [':'] (c :: text) with
    | some (digits, _, after) =>
      some ⟨[], digits, after.takeWhile Text.isBlank, after.dropWhile Text.isBlank⟩
    | none => if c = '\n' then none else (leading? text).map fun found =>
      { found with source := c :: found.source }

/-- Where a remapped error happened. It exists only when both the chunk and the line could be
remapped. -/
structure Location where
  /-- Path of the source from the root, as it is shown. -/
  source : String
  /-- Logical path of the source, by which it can be read again. -/
  sourcePath : String
  line : Nat
  /-- The message behind the location, with its embedded locations remapped. -/
  message : String
deriving DecidableEq, Repr

/-- The managed leading location of a message with its line number. Without one of the three the
message is treated as if it had no leading location. -/
def View.managedLeading? (view : View) (message : List Char) :
    Option (Leading × Managed × Nat) := do
  let found ← leading? message
  let line ← Text.readDecimal? Text.signedBound found.digits
  let managed ← view.managed? (String.ofList found.source)
  return (found, managed, line)

/-- Remaps a message, and tells where the error happened if its leading location says so. A leading
location that is not managed is still scanned for embedded ones. -/
def View.message (view : View) (message : String) : String × Option Location :=
  match view.managedLeading? message.toList with
  | none => (String.ofList (view.embedded message.toList), none)
  | some (found, managed, line) =>
    let rest := view.embedded found.rest
    let render (shown : Int) :=
      String.ofList
        (managed.display.toList ++ ':' :: lineText shown ++ ':' :: found.separator ++ rest)
    match sourceLine? managed.artifact line with
    | none => (render line, none)
    | some mapped =>
      (render mapped,
        some ⟨managed.artifact.fullSourcePath, managed.artifact.sourcePath, mapped.toNat,
          String.ofList rest⟩)

/-- An error at run time: its message and the frames of its stack. Neither is checked against the
other. -/
structure ScriptError where
  message : String
  stack : List (String × Int)
deriving DecidableEq, Repr

/-- Remaps an error. Every frame is remapped by itself, and only the message tells where the error
happened. -/
def View.error (view : View) (error : ScriptError) : ScriptError × Option Location :=
  let (message, location) := view.message error.message
  (⟨message, error.stack.map fun (source, line) => view.frame source line⟩, location)

/-- What a running script can find out about a function, as far as it names chunks or lines. The
other fields of such a record are never touched. -/
structure DebugInfo where
  source : String
  shortSource : String
  currentLine : Int
  lineDefined : Int
  lastLineDefined : Int
deriving DecidableEq, Repr

/-- Remaps a debug record. The lines belong to the chunk of the source, or of the short source if
only that one is managed. -/
def View.debugInfo (view : View) (info : DebugInfo) : DebugInfo :=
  match view.managed? info.source <|> view.managed? info.shortSource with
  | none => info
  | some managed =>
    let line (shown : Int) := (sourceLine? managed.artifact shown).getD shown
    { source := (view.frame info.source 0).1
      shortSource := (view.frame info.shortSource 0).1
      currentLine := line info.currentLine
      lineDefined := line info.lineDefined
      lastLineDefined := line info.lastLineDefined }

/-- The excerpt around a line of a script, if excerpts are wanted and the script can be read. Bytes
that are no text are shown as replacement characters, so they never cost an excerpt. -/
def excerpt? {σ : Type} [FileStore σ] (store : σ) (config : Config) (sourcePath : String)
    (line : Nat) : Option String :=
  if config.excerpt.enabled then
    match Logical.read store config.searchPaths sourcePath config.searchPath with
    | .ok bytes =>
      Excerpt.render? (Text.ofUtf8Lenient bytes) line config.excerpt.before config.excerpt.after
    | .error _ => none
  else none

end DialectLoader.Remap
