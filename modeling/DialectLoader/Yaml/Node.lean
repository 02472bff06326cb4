import DialectLoader.Yaml.Lexer

/-!
# YAML nodes

A YAML document is a scalar, a sequence or a mapping of nodes. Keys are nodes too, and mappings keep
repeated keys. A missing node is an empty plain scalar.

An alias refers to the node with its anchor by a number. An anchor gets its number when its node is
begun, so an alias may refer to a node that it is part of. The number counts the different names of
anchors that came before. An anchor whose name came before therefore shares its number with the next
anchor that brings a new name, and of the nodes with one number the last one counts.
-/

namespace DialectLoader.Yaml

/-- A node as it is written. Aliases are not followed here, so a node is a tree also when the
document it describes is not. -/
inductive Node where
  /-- A scalar with its text, its style and the full name of its tag. -/
  | scalar (text : String) (style : ScalarStyle) (tag : Option String)
  | sequence (items : List Node)
  | mapping (entries : List (Node × Node))
  /-- A reference to the node with a number. -/
  | alias (number : Nat)

/-- A document: its node, and the nodes with anchors by their numbers. -/
structure Document where
  root : Node
  anchored : List (Nat × Node) := []

namespace Node

mutual

/-- The number of marks that describe a node: one for a scalar or an alias, and two for a collection
besides those of its parts. -/
def weight : Node → Nat
  | .scalar .. | .alias _ => 1
  | .sequence items => 2 + itemsWeight items
  | .mapping entries => 2 + entriesWeight entries

def itemsWeight : List Node → Nat
  | [] => 0
  | item :: rest => item.weight + itemsWeight rest

/-- The number of marks that describe the entries of a mapping, keys and values. -/
def entriesWeight : List (Node × Node) → Nat
  | [] => 0
  | (key, value) :: rest => key.weight + value.weight + entriesWeight rest

end

/-- A node that is not there. An empty plain scalar looks the same, and the two are never told
apart. -/
def missing : Node :=
  .scalar "" .plain none

/-- What reading nodes needs to know. Only anchors change it; the handles are fixed before the first
node. -/
structure Context where
  /-- The tag handles. -/
  handles : List (String × String) := []
  /-- The anchors so far with their numbers, latest first. -/
  anchors : List (String × Nat) := []
  /-- How many different names the anchors have. -/
  names : Nat := 0
  /-- The nodes with anchors that have been read to their ends, each with the number of anchors
  before its own. -/
  nodes : List (Nat × Node) := []

/-- A reading of tokens: what was read, the context after it, and the rest of the tokens. -/
abbrev Reader (α : Type) := Context → List Token → Option (α × Context × List Token)

/-- The handles that need no directive. A directive may give them another meaning. -/
def standardHandles : List (String × String) :=
  [("!", "!"), ("!!", "tag:yaml.org,2002:"), ("", "")]

/-- The full name of a tag; an unknown handle is an error, even where the tag would not matter. -/
def tagName? (context : Context) (handle suffix : String) : Option String :=
  ((context.handles ++ standardHandles).lookup handle).map (· ++ suffix)

/-- The anchor and the tag of a node. Each may be missing, and none may come twice. -/
structure Properties where
  anchor : Option String := none
  tag : Option String := none

def Properties.any (properties : Properties) : Bool :=
  properties.anchor.isSome || properties.tag.isSome

/-- Reads the anchor and the tag before a node, in either order. Without any nothing is read. -/
def readProperties : Reader Properties := fun context tokens =>
  match tokens with
  | .anchor name :: .tag handle suffix :: rest =>
    (tagName? context handle suffix).map fun tag => (⟨some name, some tag⟩, context, rest)
  | .tag handle suffix :: .anchor name :: rest =>
    (tagName? context handle suffix).map fun tag => (⟨some name, some tag⟩, context, rest)
  | .anchor name :: rest => some (⟨some name, none⟩, context, rest)
  | .tag handle suffix :: rest =>
    (tagName? context handle suffix).map fun tag => (⟨none, some tag⟩, context, rest)
  | _ => some ({}, context, tokens)

/-- Begins a node that may have an anchor. The anchor is known from here on, so an alias inside the
node can refer to it. -/
def Context.begin (context : Context) : Option String → Context
  | none => context
  | some name =>
    { context with
      anchors := (name, context.names) :: context.anchors
      names := if (context.anchors.lookup name).isSome then context.names else context.names + 1 }

/-- Ends a node that was begun in the context `before`. Only now is there a node that an alias to it
can be followed to. -/
def Context.finish (context before : Context) (anchor : Option String) (node : Node) : Context :=
  if anchor.isSome then { context with nodes := (before.anchors.length, node) :: context.nodes }
  else context

/-- The nodes with anchors by their numbers, the latest anchor first. So a search by number finds
the one that counts. -/
def Context.anchored (context : Context) : List (Nat × Node) :=
  context.anchors.reverse.zipIdx.reverse.filterMap fun ((_, number), index) =>
    (context.nodes.lookup index).map (number, ·)

/-- Where a node stands, which decides what can follow it and what it can be. -/
structure Place where
  /-- Whether block collections may start. -/
  block : Bool
  /-- Whether a sequence may start without indentation of its own. -/
  indentless : Bool

/-- Makes a node of what was read, leaving the context and the rest of the tokens as they are. -/
def collect {α : Type} (make : α → Node) (found : Option (α × Context × List Token)) :
    Option (Node × Context × List Token) :=
  found.map fun (parts, context, rest) => (make parts, context, rest)

/-- A node with an anchor or a tag may have no content. Without either there has to be one. -/
def orMissing (properties : Properties) : Reader Node := fun context tokens =>
  if properties.any then some (.scalar "" .plain properties.tag, context, tokens) else none

/-- Skips the comma that has to stand between two items in brackets; behind the last item it may be
missing. -/
def separated? (first : Bool) (close : Token) : List Token → Option (List Token)
  | [] => none
  | token :: rest =>
    if first || token == close then some (token :: rest)
    else if token == .flowEntry then some rest
    else none

mutual

/-- Reads a node that has to be there. The fuel bounds how deep the calls are nested, along siblings
as well as into parts. -/
def read : Nat → Place → Reader Node
  | 0, _, _, _ => none
  | fuel + 1, place, context, tokens =>
    match tokens with
    | .alias name :: rest =>
      (context.anchors.lookup name).map fun number => (.alias number, context, rest)
    | _ => do
      let (properties, before, tokens) ← readProperties context tokens
      let (node, context, rest) ←
        readContent fuel place properties (before.begin properties.anchor) tokens
      return (node, context.finish before properties.anchor node, rest)

/-- Reads what follows the properties of a node. The next token decides what kind of node it is. -/
def readContent : Nat → Place → Properties → Reader Node
  | 0, _, _, _, _ => none
  | fuel + 1, place, properties, context, tokens =>
    match tokens with
    | .scalar text style :: rest => some (.scalar text style properties.tag, context, rest)
    | .flowSequenceStart :: rest => collect .sequence (readFlowItems fuel true context rest)
    | .flowMappingStart :: rest => collect .mapping (readFlowEntries fuel true context rest)
    | .blockEntry :: _ =>
      if place.indentless then collect .sequence (readIndentlessItems fuel context tokens)
      else orMissing properties context tokens
    | .blockSequenceStart :: rest =>
      if place.block then collect .sequence (readBlockItems fuel context rest)
      else orMissing properties context tokens
    | .blockMappingStart :: rest =>
      if place.block then collect .mapping (readBlockEntries fuel context rest)
      else orMissing properties context tokens
    | _ => orMissing properties context tokens

/-- Reads a node unless one of the given tokens, or the end, shows that there is none. -/
def readUnless : Nat → Place → (Token → Bool) → Reader Node
  | 0, _, _, _, _ => none
  | fuel + 1, place, ends, context, tokens =>
    if tokens.head?.all ends then some (missing, context, tokens)
    else read fuel place context tokens

/-- Reads the entries of a block sequence, up to and with the token that closes it. -/
def readBlockItems : Nat → Reader (List Node)
  | 0, _, _ => none
  | fuel + 1, context, tokens =>
    match tokens with
    | .blockEntry :: rest => do
      let (item, context, rest) ← readUnless fuel ⟨true, false⟩
        (fun token => token == .blockEntry || token == .blockEnd) context rest
      let (items, context, rest) ← readBlockItems fuel context rest
      return (item :: items, context, rest)
    | .blockEnd :: rest => some ([], context, rest)
    | _ => none

/-- Reads the entries of a sequence at the indentation of the mapping that it is a value in. No
token closes such a sequence; it ends where no entry follows. -/
def readIndentlessItems : Nat → Reader (List Node)
  | 0, _, _ => none
  | fuel + 1, context, tokens =>
    match tokens with
    | .blockEntry :: rest => do
      let (item, context, rest) ← readUnless fuel ⟨true, false⟩
        (fun token => token == .blockEntry || token == .key || token == .value ||
          token == .blockEnd) context rest
      let (items, context, rest) ← readIndentlessItems fuel context rest
      return (item :: items, context, rest)
    | _ => some ([], context, tokens)

/-- Reads the entries of a block mapping, up to and with the token that closes it. A key or a value
may be missing. -/
def readBlockEntries : Nat → Reader (List (Node × Node))
  | 0, _, _ => none
  | fuel + 1, context, tokens =>
    let ends (token : Token) := token == .key || token == .value || token == .blockEnd
    match tokens with
    | .key :: rest => do
      let (key, context, rest) ← readUnless fuel ⟨true, true⟩ ends context rest
      let (value, context, rest) ← match rest with
        | .value :: rest => readUnless fuel ⟨true, true⟩ ends context rest
        | _ => some (missing, context, rest)
      let (entries, context, rest) ← readBlockEntries fuel context rest
      return ((key, value) :: entries, context, rest)
    | .blockEnd :: rest => some ([], context, rest)
    | _ => none

/-- Reads the items between square brackets. A key among them makes a mapping of one entry. Where
the key itself is missing, the token that shows this is used up: it neither introduces a value nor
separates or closes. -/
def readFlowItems : Nat → Bool → Reader (List Node)
  | 0, _, _, _ => none
  | fuel + 1, first, context, tokens => do
    let tokens ← separated? first .flowSequenceEnd tokens
    match tokens with
    | .flowSequenceEnd :: rest => return ([], context, rest)
    | .key :: rest =>
      let ends (token : Token) := token == .flowEntry || token == .flowSequenceEnd
      let (key, context, rest) ← match rest with
        | .value :: rest | .flowEntry :: rest | .flowSequenceEnd :: rest =>
          some (missing, context, rest)
        | _ => read fuel ⟨false, false⟩ context rest
      let (value, context, rest) ← match rest with
        | .value :: rest => readUnless fuel ⟨false, false⟩ ends context rest
        | _ => some (missing, context, rest)
      let (items, context, rest) ← readFlowItems fuel false context rest
      return (.mapping [(key, value)] :: items, context, rest)
    | _ =>
      let (item, context, rest) ← read fuel ⟨false, false⟩ context tokens
      let (items, context, rest) ← readFlowItems fuel false context rest
      return (item :: items, context, rest)

/-- Reads the entries between braces. An item without a key mark is a key without a value. -/
def readFlowEntries : Nat → Bool → Reader (List (Node × Node))
  | 0, _, _, _ => none
  | fuel + 1, first, context, tokens => do
    let ends (token : Token) := token == .flowEntry || token == .flowMappingEnd
    let tokens ← separated? first .flowMappingEnd tokens
    match tokens with
    | .flowMappingEnd :: rest => return ([], context, rest)
    | .key :: rest =>
      let (key, context, rest) ← readUnless fuel ⟨false, false⟩
        (fun token => ends token || token == .value) context rest
      let (value, context, rest) ← match rest with
        | .value :: rest => readUnless fuel ⟨false, false⟩ ends context rest
        | _ => some (missing, context, rest)
      let (entries, context, rest) ← readFlowEntries fuel false context rest
      return ((key, value) :: entries, context, rest)
    | _ =>
      let (key, context, rest) ← read fuel ⟨false, false⟩ context tokens
      let (entries, context, rest) ← readFlowEntries fuel false context rest
      return ((key, missing) :: entries, context, rest)

end

/-- The tag handles that a run of directives declares. A version other than 1.1 and 1.2, a second
version and a handle declared twice are errors. -/
def readDirectives :
    Bool → List (String × String) → List Token → Option (List (String × String) × List Token)
  | versioned, handles, .versionDirective major minor :: rest =>
    if versioned || major != 1 || (minor != 1 && minor != 2) then none
    else readDirectives true handles rest
  | versioned, handles, .tagDirective handle expansion :: rest =>
    if (handles.lookup handle).isSome then none
    else readDirectives versioned ((handle, expansion) :: handles) rest
  | _, handles, tokens => some (handles, tokens)

/-- Reads the content of a document. The fuel suffices because at most four calls are nested for one
token. -/
def readDocument (handles : List (String × String)) (tokens : List Token) :
    Option (Document × List Token) :=
  (read (4 * tokens.length + 4) ⟨true, false⟩ { handles } tokens).map fun (root, context, rest) =>
    (⟨root, context.anchored⟩, rest)

/-- Reads the content behind the mark that starts a document, where it may be missing. -/
def readMarkedDocument (handles : List (String × String)) :
    List Token → Option (Document × List Token)
  | [] => some ({ root := missing }, [])
  | .documentEnd :: rest => some ({ root := missing }, .documentEnd :: rest)
  | tokens => readDocument handles tokens

end Node

namespace Document

/-- The only document in a run of tokens, which is missing where there are none. A second document
is an error. -/
def ofTokens? (tokens : List Token) : Option Document := do
  let (handles, behind) ← Node.readDirectives false [] tokens
  let (document, rest) ← match behind with
    | [] => if tokens.isEmpty then some ({ root := .missing }, []) else none
    | .documentStart :: rest => Node.readMarkedDocument handles rest
    | _ => if behind.length = tokens.length then Node.readDocument handles behind else none
  if rest.all (· == .documentEnd) then some document else none

def parse? (text : String) : Option Document :=
  (Token.scan? text).bind ofTokens?

end Document

end DialectLoader.Yaml
