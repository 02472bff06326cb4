import DialectLoader.Machine.Checksum
import DialectLoader.Machine.Tools.Lines

/-!
# Tools that show bytes

Bytes are shown as numbers or characters with their positions, as a text of letters and digits, or
by a digest of all of them. Numbers with places are not shown, and the order of bytes within a
number is lowest first.
-/

namespace DialectLoader.Tools

namespace Dump

def based (fill : Char) (width base value : Nat) : List Char :=
  let digits := Nat.toDigits base value
  List.replicate (width - digits.length) fill ++ digits

/-- How the bytes of a line are shown: as characters, or as numbers of a size. -/
structure Style where
  kind : Char
  size : Nat

def readStyles : Nat → List Char → List Style
  | 0, _ | _ + 1, [] => []
  | fuel + 1, kind :: rest =>
    let digits := rest.takeWhile fun c => (Text.digitValue? c).isSome
    let size := ((Text.readDecimal? 9 digits).getD (if kind == 'c' || kind == 'a' then 1 else 4))
    ⟨kind, size⟩ :: readStyles fuel (rest.drop digits.length)

def shownChar (c : Char) : List Char :=
  match c with
  | '\x00' => ['\\', '0']
  | '\x07' => ['\\', 'a']
  | '\x08' => ['\\', 'b']
  | '\t' => ['\\', 't']
  | '\n' => ['\\', 'n']
  | '\x0b' => ['\\', 'v']
  | '\x0c' => ['\\', 'f']
  | '\r' => ['\\', 'r']
  | _ => if ' ' ≤ c && c ≤ '~' then [c] else based '0' 3 8 c.toNat

def widths (size : Nat) : Nat × Nat × Nat × Nat :=
  match size with
  | 1 => (3, 2, 3, 4)
  | 2 => (6, 4, 5, 6)
  | 4 => (11, 8, 10, 11)
  | _ => (22, 16, 20, 20)

def groups {α : Type} (size : Nat) : Nat → List α → List (List α)
  | 0, _ | _ + 1, [] => []
  | fuel + 1, items => items.take size :: groups size fuel (items.drop size)

def Style.show (style : Style) (line : List Char) : List Char :=
  let filled (width : Nat) (text : List Char) : List Char :=
    List.replicate (width - text.length) ' ' ++ text
  if style.kind == 'c' || style.kind == 'a' then line.flatMap fun c => filled 4 (shownChar c)
  else
    let size := max style.size 1
    let (octal, hexadecimal, plain, signed) := widths size
    (groups size line.length line).flatMap fun bytes =>
      let value := bytes.foldr (fun c value => 256 * value + c.toNat) 0
      let bound := Text.Ratio.whole ((Text.Ratio.ofInt 256).power size)
      ' ' :: match style.kind with
        | 'x' => based '0' hexadecimal 16 value
        | 'u' => based ' ' plain 10 value
        | 'd' =>
          let number : Int := if bound ≤ 2 * (value : Int) then (value : Int) - bound else value
          filled signed (integerText number)
        | _ => based '0' octal 8 value

def lines (address : Nat → List Char) (styles : List Style) (shows : Bool) :
    Nat → Option (List Char) → Bool → List (List Char) → List (List Char)
  | offset, _, _, [] => if (address offset).isEmpty then [] else [address offset]
  | offset, before, starred, line :: rest =>
    if before == some line && line.length == 16 && !shows then
      (if starred then [] else [['*']]) ++ lines address styles shows (offset + line.length) before
        true rest
    else
      let blank := List.replicate (address offset).length ' '
      let shown := styles.zipIdx.map fun (style, index) =>
        (if index = 0 then address offset else blank) ++ style.show line
      shown ++ lines address styles shows (offset + line.length) (some line) false rest

def alphabet : List Char :=
  Text.rangeChars 'A' 'Z' ++ Text.rangeChars 'a' 'z' ++ Text.rangeChars '0' '9' ++ ['+', '/']

def letter (value : Nat) : Char :=
  alphabet.getD (value % 64) '='

def toLetters : List Char → List Char
  | a :: b :: c :: rest =>
    let value := (a.toNat * 256 + b.toNat) * 256 + c.toNat
    letter (value / 262144) :: letter (value / 4096) :: letter (value / 64) :: letter value ::
      toLetters rest
  | [a, b] =>
    let value := (a.toNat * 256 + b.toNat) * 256
    [letter (value / 262144), letter (value / 4096), letter (value / 64), '=']
  | [a] =>
    let value := a.toNat * 65536
    [letter (value / 262144), letter (value / 4096), '=', '=']
  | [] => []

def ofLetters : List Char → List Char × Bool
  | a :: b :: c :: d :: rest =>
    let value? (c : Char) : Option Nat := alphabet.idxOf? c
    match value? a, value? b, value? c, value? d with
    | some p, some q, some r, some s =>
      let value := ((p * 64 + q) * 64 + r) * 64 + s
      let (others, whole) := ofLetters rest
      (Char.ofNat (value / 65536) :: Char.ofNat (value / 256 % 256) :: Char.ofNat (value % 256) ::
        others, whole)
    | some p, some q, some r, none =>
      let value := ((p * 64 + q) * 64 + r) * 64
      ([Char.ofNat (value / 65536), Char.ofNat (value / 256 % 256)], d == '=' && rest.isEmpty)
    | some p, some q, none, none =>
      let value := (p * 64 + q) * 4096
      ([Char.ofNat (value / 65536)], c == '=' && d == '=' && rest.isEmpty)
    | _, _, _, _ => ([], false)
  | [] => ([], true)
  | _ => ([], false)

def sumBit (value : UInt32) : UInt32 :=
  if value &&& 0x80000000 == 0 then value <<< 1 else (value <<< 1) ^^^ 0x04C11DB7

def sumByte (sum : UInt32) (byte : UInt8) : UInt32 :=
  (List.range 8).foldl (fun value _ => sumBit value) (sum ^^^ (byte.toUInt32 <<< 24))

def lengthBytes : Nat → Nat → List UInt8
  | 0, _ => []
  | fuel + 1, value => if value = 0 then [] else value.toUInt8 :: lengthBytes fuel (value / 256)

def cyclicSum (bytes : Bytes) : Nat :=
  (~~~((bytes ++ lengthBytes 8 bytes.length).foldl sumByte 0)).toNat

end Dump

def od (task : Task) : Done :=
  let known : KnownOptions :=
    { plain := "bcdoxvsi", valued := "AtNjw", long := [("address-radix", 'A'), ("format", 't')] }
  task.asking 1 known fun asked =>
    let (found, done) := task.gather 1 plainWording asked.operands
    let all := (found.map (·.2)).flatten
    let count (letter : Char) : Option Nat :=
      (asked.value? letter).bind (Text.readDecimal? Text.wordBound)
    let skipped := (count 'j').getD 0
    let bytes := all.drop skipped
    let bytes := (count 'N').elim bytes fun size => bytes.take size
    let styles := asked.options.flatMap fun (option, value) =>
      match option with
      | 't' => Dump.readStyles value.length value
      | 'c' => [⟨'c', 1⟩]
      | 'b' => [⟨'o', 1⟩]
      | 'x' => [⟨'x', 2⟩]
      | 'd' => [⟨'u', 2⟩]
      | 'o' => [⟨'o', 2⟩]
      | 's' => [⟨'d', 2⟩]
      | 'i' => [⟨'d', 4⟩]
      | _ => []
    let address (offset : Nat) : List Char := match asked.value? 'A' with
      | some ['n'] => []
      | some ['d'] => Dump.based '0' 7 10 (offset + skipped)
      | some ['x'] => Dump.based '0' 6 16 (offset + skipped)
      | _ => Dump.based '0' 7 8 (offset + skipped)
    let width := (count 'w').getD 16
    let lines := Dump.lines address (if styles.isEmpty then [⟨'o', 2⟩] else styles)
      (asked.has 'v') 0 none false
      (Dump.groups width bytes.length bytes)
    done.say (Text.joinLines lines)

def base64 (task : Task) : Done :=
  let known : KnownOptions := {
    plain := "di", valued := "w", long :=
    [("decode", 'd'), ("wrap", 'w'), ("ignore-garbage", 'i')] }
  task.asking 1 known fun asked =>
    let (found, done) := task.gather 1 plainWording asked.operands
    let all := (found.map (·.2)).flatten
    if done.status != 0 then done
    else if asked.has 'd' then
      let letters := all.filter fun c =>
        c != '\n' && (!asked.has 'i' || Dump.alphabet.contains c || c == '=')
      let (bytes, whole) := Dump.ofLetters letters
      let said := done.say bytes
      if whole then said else said.complain 1 "base64: invalid input"
    else
      let letters := Dump.toLetters all
      match ((asked.value? 'w').bind (Text.readDecimal? Text.wordBound)).getD 76 with
      | 0 => done.say letters
      | size => done.say (Text.joinLines (Dump.groups size letters.length letters))

def digests (digest : Bytes → List Char) (task : Task) : Done :=
  task.asking 1 { plain := "btz", long := [("binary", 'b'), ("text", 't')] } fun asked =>
    let (found, done) := task.gather 1 plainWording asked.operands
    let lines := found.map fun (name, text) => digest (Text.octetBytes text) ++ [' ', ' '] ++ name
    { done with output := Text.joinLines lines }

def cksum (task : Task) : Done :=
  task.asking 1 { plain := "" } fun asked =>
    let (found, done) := task.gather 1 plainWording asked.operands
    let lines := found.map fun (name, text) =>
      Text.decimal (Dump.cyclicSum (Text.octetBytes text)) ++ ' ' :: Text.decimal text.length ++
        (if asked.operands.isEmpty then [] else ' ' :: name)
    { done with output := Text.joinLines lines }

end DialectLoader.Tools
