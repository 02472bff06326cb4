import DialectLoader.Manifest

/-!
# The byte form of a manifest

Numbers have a fixed width and are little-endian. A text is its length in bytes, eight bytes
wide, and its UTF-8 form; a list is its length and its elements; a dialect is its number. Fields
follow each other without marks, so the form delimits itself and bytes behind it are not looked
at. Reading fails when the input ends early, when a text is not UTF-8, when a dialect is unknown,
and when a time has too many seconds. A time with full seconds among its nanoseconds is accepted
and carried over.
-/

namespace DialectLoader.Manifest

/-- Writes the low bytes of a number, the lowest first. Higher ones are lost, so a number has to fit
its width. -/
def putNat : Nat → Nat → Bytes
  | 0, _ => []
  | width + 1, n => n.toUInt8 :: putNat width (n / 256)

def putText (text : String) : Bytes :=
  putNat 8 (Text.utf8 text).length ++ Text.utf8 text

def putList {α : Type} (put : α → Bytes) (items : List α) : Bytes :=
  putNat 8 items.length ++ items.flatMap put

def putSignal (signal : Signal) : Bytes :=
  putNat 8 signal.seconds ++ putNat 4 signal.nanoseconds

def dialectNumber : Dialect → Nat
  | .moonScript => 0
  | .yueScript => 1

def putEntry (entry : Nat × Nat) : Bytes :=
  putNat 4 entry.1 ++ putNat 4 entry.2

def putArtifact (artifact : Artifact) : Bytes :=
  putText artifact.sourcePath ++ putText artifact.fullSourcePath ++
    putText artifact.outputPath ++ putText artifact.fullOutputPath ++
    putSignal artifact.signal ++ putNat 4 (dialectNumber artifact.dialect) ++
    putList putEntry artifact.lineMap.toList

/-- The byte form of a manifest. Equal manifests have equal forms, since the entries of a line map
are written in order. -/
def encode (manifest : Manifest) : Bytes :=
  putNat 4 manifest.version ++ putText manifest.fingerprint ++
    putList putArtifact manifest.artifacts

/-- Reads a value from the front of the input and gives the rest, or fails. -/
abbrev Reader (α : Type) := Bytes → Option (α × Bytes)

def getNat : Nat → Reader Nat
  | 0, input => some (0, input)
  | _ + 1, [] => none
  | width + 1, b :: rest => do
    let (high, rest) ← getNat width rest
    return (b.toNat + 256 * high, rest)

/-- Reads a text behind its length; bytes that are no UTF-8 fail. -/
def getText : Reader String := fun input => do
  let (length, rest) ← getNat 8 input
  guard (length ≤ rest.length)
  let text ← Text.ofUtf8? (rest.take length)
  return (text, rest.drop length)

def getMany {α : Type} (get : Reader α) : Nat → Reader (List α)
  | 0, input => some ([], input)
  | count + 1, input => do
    let (item, rest) ← get input
    let (items, rest) ← getMany get count rest
    return (item :: items, rest)

def getList {α : Type} (get : Reader α) : Reader (List α) := fun input => do
  let (count, rest) ← getNat 8 input
  getMany get count rest

/-- Reads a time. The carried seconds may neither pass the range of the field nor that of a time. -/
def getSignal : Reader Signal := fun input => do
  let (seconds, rest) ← getNat 8 input
  let (nanoseconds, rest) ← getNat 4 rest
  let signal ← Signal.of? seconds nanoseconds
  return (signal, rest)

def getDialect : Reader Dialect := fun input => do
  let (number, rest) ← getNat 4 input
  let dialect ← Dialect.all.find? (dialectNumber · == number)
  return (dialect, rest)

def getEntry : Reader (Nat × Nat) := fun input => do
  let (generated, rest) ← getNat 4 input
  let (line, rest) ← getNat 4 rest
  return ((generated, line), rest)

/-- Reads an artifact. The last of several entries for one generated line counts. -/
def getArtifact : Reader Artifact := fun input => do
  let (sourcePath, rest) ← getText input
  let (fullSourcePath, rest) ← getText rest
  let (outputPath, rest) ← getText rest
  let (fullOutputPath, rest) ← getText rest
  let (signal, rest) ← getSignal rest
  let (dialect, rest) ← getDialect rest
  let (entries, rest) ← getList getEntry rest
  return (⟨sourcePath, fullSourcePath, outputPath, fullOutputPath, signal, dialect,
    .ofList entries⟩, rest)

/-- Reads a manifest from the front of the input. Whether its version is understood is not asked
here. -/
def get : Reader Manifest := fun input => do
  let (version, rest) ← getNat 4 input
  let (fingerprint, rest) ← getText rest
  let (artifacts, rest) ← getList getArtifact rest
  return (⟨version, fingerprint, artifacts⟩, rest)

/-- The manifest with which the bytes start. What follows it is not looked at. -/
def decode? (bytes : Bytes) : Option Manifest :=
  (get bytes).map (·.1)

end DialectLoader.Manifest
