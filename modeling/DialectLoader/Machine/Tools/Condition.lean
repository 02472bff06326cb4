import DialectLoader.Machine.Tools.Format
import DialectLoader.Machine.Tools.Task

/-!
# Conditions

A condition is a row of words: operators before one word, operators between two, negations, and
conditions in parentheses or joined. A word that is no operator is a condition itself, which holds
unless the word is empty. An operator that has nothing to work on is a word.

Whether a file may be read or written is not part of a disk, so conditions on that hold of every
file that is there.
-/

namespace DialectLoader.Condition

inductive Kind where
  | before
  | between
  | joint
deriving DecidableEq

def kind? (word : List Char) : Option Kind :=
  match String.ofList word with
  | "-e" | "-f" | "-d" | "-r" | "-w" | "-x" | "-s" | "-h" | "-L" | "-p" | "-S" | "-b" | "-c" | "-u"
  | "-g" | "-k" | "-O" | "-G" | "-t" | "-z" | "-n" => some .before
  | "=" | "==" | "!=" | "<" | ">" | "-eq" | "-ne" | "-lt" | "-le" | "-gt" | "-ge" | "-nt" | "-ot"
  | "-ef" => some .between
  | "!" | "-a" | "-o" | "(" | ")" => some .joint
  | _ => none

def operator? (words : List (List Char)) : Option (String × Kind) := do
  let word ← words.head?
  let kind ← kind? word
  let isWord : Bool := match kind, words with
    | .before, [_] => true
    | .before, _ :: next :: _ :: _ => kind? next == some .between
    | .joint, [word] => word == ['(']
    | _, _ => false
  if isWord then none else some (String.ofList word, kind)

def isJoint (joint : String) (words : List (List Char)) : Bool :=
  (operator? words).any fun (operator, _) => operator == joint

def holdsOfFile (disk : Disk) (operator : String) (path : String) : Bool :=
  if path == "/dev/null" then operator == "-e" || operator == "-r" || operator == "-w" ||
    operator == "-c"
  else if operator == "-h" || operator == "-L" then
    match disk.look .entry path with
    | .ok (_, .link _) => true
    | _ => false
  else
    match disk.stat path with
    | .error _ => false
    | .ok (_, entry) =>
      match operator, entry with
      | "-e", _ | "-r", _ | "-w", _ | "-O", _ | "-G", _ => true
      | "-d", .directory | "-x", .directory | "-s", .directory | "-f", .file .. => true
      | "-s", .file contents _ _ => !contents.isEmpty
      | "-x", .file _ _ executable => executable
      | _, _ => false

def number (word : List Char) : Except String Int :=
  let isBlank (c : Char) : Bool := c == ' ' || ('\t' ≤ c && c ≤ '\r')
  let trimmed := ((word.dropWhile isBlank).reverse.dropWhile isBlank).reverse
  let digits := match trimmed with
    | '-' :: rest | '+' :: rest => rest
    | _ => trimmed
  match Text.readDecimal? Text.longWordBound digits with
  | some value => .ok (if trimmed.head? == some '-' then -(value : Int) else value)
  | none => .error ("Illegal number: " ++ Text.ofOctets word)

def holdsBetween (disk : Disk) (left : List Char) (operator : String) (right : List Char) :
    Except String Bool := do
  let time (word : List Char) : Option Signal := (disk.modifiedAt (pathOf word)).toOption
  let compare (test : Int → Int → Bool) : Except String Bool := do
    let first ← number left
    return test first (← number right)
  match operator with
  | "=" | "==" => return left == right
  | "!=" => return left != right
  | "<" => return decide (left < right)
  | ">" => return decide (right < left)
  | "-eq" => compare (· == ·)
  | "-ne" => compare (· != ·)
  | "-lt" => compare (decide <| · < ·)
  | "-le" => compare (decide <| · ≤ ·)
  | "-gt" => compare (decide <| · > ·)
  | "-ge" => compare (decide <| · ≥ ·)
  | "-nt" => return match time left, time right with
    | some first, some second => first.later second
    | _, _ => false
  | "-ot" => return match time left, time right with
    | some first, some second => second.later first
    | _, _ => false
  | _ =>
    match disk.stat (pathOf left), disk.stat (pathOf right) with
    | .ok (first, _), .ok (second, _) => return first == second
    | _, _ => return false

mutual

def readOr (disk : Disk) : Nat → List (List Char) → Except String (Bool × List (List Char))
  | 0, words => .ok (false, words)
  | fuel + 1, words => do
    let (first, words) ← readAnd disk fuel words
    if isJoint "-o" (words.drop 1) then
      let (second, words) ← readOr disk fuel (words.drop 2)
      return (first || second, words)
    else return (first, words)

def readAnd (disk : Disk) : Nat → List (List Char) → Except String (Bool × List (List Char))
  | 0, words => .ok (false, words)
  | fuel + 1, words => do
    let (first, words) ← readNot disk fuel words
    if isJoint "-a" (words.drop 1) then
      let (second, words) ← readAnd disk fuel (words.drop 2)
      return (first && second, words)
    else return (first, words)

def readNot (disk : Disk) : Nat → List (List Char) → Except String (Bool × List (List Char))
  | 0, words => .ok (false, words)
  | fuel + 1, words =>
    if isJoint "!" words then do
      let (inner, words) ← readNot disk fuel (words.drop 1)
      return (!inner, words)
    else readPrimary disk fuel words

def readPrimary (disk : Disk) : Nat → List (List Char) → Except String (Bool × List (List Char))
  | 0, words => .ok (false, words)
  | fuel + 1, words =>
    match operator? words, words with
    | _, [] => .ok (false, [])
    | some ("(", _), _ :: rest =>
      if isJoint ")" rest then .ok (false, rest)
      else do
        let (inner, words) ← readOr disk fuel rest
        if isJoint ")" (words.drop 1) then return (inner, words.drop 1)
        else .error "closing paren expected"
    | some (operator, .before), _ :: rest =>
      match rest with
      | [] => .error (operator ++ ": argument expected")
      | word :: _ =>
        let held := match operator with
          | "-z" => word.isEmpty
          | "-n" => !word.isEmpty
          | _ => holdsOfFile disk operator (pathOf word)
        .ok (held, rest)
    | _, word :: rest =>
      match operator? rest with
      | some (operator, .between) =>
        match rest with
        | _ :: right :: more => do
          let held ← holdsBetween disk word operator right
          return (held, right :: more)
        | _ => .error (operator ++ ": argument expected")
      | _ => .ok (!word.isEmpty, words)

end

def holds (disk : Disk) (words : List (List Char)) : Except String Bool := do
  let fuel := 6 * words.length + 8
  match words with
  | [left, operator, right] =>
    if kind? operator == some .between then
      return ← holdsBetween disk left (String.ofList operator) right
  | _ => pure ()
  let words := match words.length, words.head?, words.getLast? with
    | 3, some ['('], some [')'] | 4, some ['('], some [')'] => (words.drop 1).dropLast
    | _, _, _ => words
  let (held, left) ← readOr disk fuel words
  match left with
  | word :: _ :: _ => .error (Text.ofOctets word ++ ": unexpected operator")
  | _ => return held

def status (disk : Disk) (words : List (List Char)) : Nat × Option String :=
  match holds disk words with
  | .ok true => (0, none)
  | .ok false => (1, none)
  | .error text => (2, some text)

end DialectLoader.Condition
