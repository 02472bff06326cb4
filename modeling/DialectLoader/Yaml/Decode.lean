import DialectLoader.Text.Digit
import DialectLoader.Yaml.Node

/-!
# Values of YAML nodes

Text may be written as any scalar. Truth values and numbers have to be plain, or literal blocks with
the tag of their type. Where a collection is expected, nothing at all stands for an empty one; `~`
and `null` do not.

Aliases are followed where a value is needed and not before. A document may follow a hundred aliases
for every mark that describes it, so nested aliases cannot make a short document expensive.
-/

namespace DialectLoader.Yaml

/-- A way to find a value in a document. The number tells how many aliases may still be followed; it
goes down along the whole decoding and is never given back. -/
abbrev Decoder (α : Type) := Document → Nat → Option (α × Nat)

namespace Decoder

instance : Monad Decoder where
  pure value := fun _ left => some (value, left)
  bind decoder next := fun document left =>
    (decoder document left).bind fun (value, left) => next value document left

/-- A value that needs no document, if there is one. No alias is followed for it. -/
def ofOption {α : Type} (found : Option α) : Decoder α := fun _ left =>
  found.map (·, left)

/-- Decodes the node of a document, with a hundred aliases for every mark that describes it. -/
def run? {α : Type} (decode : Node → Decoder α) (document : Document) : Option α :=
  (decode document.root document (100 * document.root.weight)).map (·.1)

end Decoder

namespace Node

/-- The node that an alias refers to; any other node stands for itself. Following an alias costs one
of those that are left. -/
def target : Node → Decoder Node
  | .alias number => fun document left =>
    if left = 0 then none else (document.anchored.lookup number).map (·, left - 1)
  | node => pure node

/-- Whether a node is missing, which is an empty plain scalar. An empty text in quotes is there. -/
def isMissing : Node → Bool
  | .scalar "" .plain _ => true
  | _ => false

/-- The text of a scalar, whatever its style and its tag. A number or a truth value is a text
too. -/
def text (node : Node) : Decoder String := do
  match ← node.target with
  | .scalar text _ _ => pure text
  | _ => .ofOption none

/-- The entries of a mapping by the texts of their keys, in the order of the text and with
repetitions. -/
def fields (node : Node) : Decoder (List (String × Node)) := do
  match ← node.target with
  | .mapping entries => entries.mapM fun (key, value) => do return (← key.text, value)
  | other => .ofOption (if other.isMissing then some [] else none)

def items (node : Node) : Decoder (List Node) := do
  match ← node.target with
  | .sequence items => pure items
  | other => .ofOption (if other.isMissing then some [] else none)

/-- The text of a scalar that is written as a value of the type with the given tag may be. Quoted
text never is. -/
def typedText? (type : String) : Node → Option String
  | .scalar text .plain _ => some text
  | .scalar text .literal (some tag) =>
    if tag = "tag:yaml.org,2002:" ++ type then some text else none
  | _ => none

/-- The truth value that a text stands for, in three spellings each. -/
def bool? : String → Option Bool
  | "true" | "True" | "TRUE" => some true
  | "false" | "False" | "FALSE" => some false
  | _ => none

def bool (node : Node) : Decoder Bool := do
  .ofOption (((← node.target).typedText? "bool").bind bool?)

/-- The value of one or more digits of a base up to sixteen. One character that is no digit of the
base refuses them all. -/
def digits? (base : Nat) (digits : List Char) : Option Nat :=
  if digits.isEmpty then none
  else digits.foldlM
    (fun value c => ((Json.hexValue? c).filter (· < base)).map (base * value + ·)) 0

/-- Whether decimal digits start with a zero that counts for nothing. Such a number is refused, as
older versions of the format took it for an octal one. -/
def hasIdleZero (digits : List Char) : Bool :=
  1 < digits.length && digits.head? == some '0' && digits.all Json.isDigit

/-- The number that a text stands for: without a sign or with a plus, in one of four bases and below
a bound. -/
def nat? (bound : Nat) (text : String) : Option Nat := do
  let written := text.toList
  let digits := if written.head? = some '+' then written.tail else written
  let value ← match digits with
    | '0' :: 'x' :: rest => digits? 16 rest
    | '0' :: 'o' :: rest => digits? 8 rest
    | '0' :: 'b' :: rest => digits? 2 rest
    | _ => if hasIdleZero digits then none else digits? 10 digits
  if value < bound then some value else none

def nat (bound : Nat) (node : Node) : Decoder Nat := do
  .ofOption (((← node.target).typedText? "int").bind (nat? bound))

/-- One field of a mapping, decoded by the given rule. A default stands for a field that is not
there, and a field that is there twice is an error even if both say the same. -/
def field {α : Type} (fields : List (String × Node)) (name : String) (decode : Node → Decoder α)
    (otherwise : α) : Decoder α :=
  match fields.filter (·.1 == name) with
  | [] => pure otherwise
  | [(_, value)] => decode value
  | _ => .ofOption none

end Node

end DialectLoader.Yaml
