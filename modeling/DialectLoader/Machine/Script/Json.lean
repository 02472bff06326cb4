import DialectLoader.Json.Quoted
import DialectLoader.Machine.Script.Methods

/-!
# Values as JSON texts

Values are written as JSON texts and read from them. What stands between items and entries can be
chosen, and so can an indentation, whether characters beyond ASCII are escaped, and whether keys are
sorted.

This is the JSON of scripts, with their exceptions and messages. The loader reads replies with a
reader of its own.
-/

namespace DialectLoader.Script

/-- How JSON texts are written. The defaults put a space behind commas and colons. -/
structure JsonStyle where
  item : List Char
  entry : List Char
  indent : Option (List Char)
  isAscii : Bool
  isSorted : Bool

namespace JsonStyle

def of (state : State) (named : List (String × Value)) : JsonStyle :=
  let indent := match named.lookup "indent" with
    | some (.int width) => some (List.replicate width.toNat ' ')
    | some (.text content) => some content
    | _ => none
  let separators := match named.lookup "separators" with
    | some (.tuple [.text item, .text entry]) => (item, entry)
    | some value =>
      match state.target? value with
      | some (.list [.text item, .text entry]) => (item, entry)
      | _ => (if indent.isSome then [','] else [',', ' '], [':', ' '])
    | none => (if indent.isSome then [','] else [',', ' '], [':', ' '])
  { item := separators.1, entry := separators.2, indent
    isAscii := ((named.lookup "ensure_ascii").map state.holds).getD true
    isSorted := (named.lookup "sort_keys").any state.holds }

def unit (code : Nat) : List Char :=
  '\\' :: 'u' :: padded 4 (Nat.toDigits 16 code)

def quote (style : JsonStyle) (content : List Char) : List Char :=
  let written (c : Char) : List Char :=
    let code := c.toNat
    if style.isAscii && 0x10000 ≤ code then
      unit (0xd800 + (code - 0x10000) / 0x400) ++ unit (0xdc00 + (code - 0x10000) % 0x400)
    else if style.isAscii && 0x7f ≤ code then unit code
    else Json.escape c
  '"' :: content.flatMap written ++ ['"']

def bracketed (style : JsonStyle) (depth : Nat) (opening closing : Char)
    (parts : List (List Char)) : List Char :=
  if parts.isEmpty then [opening, closing]
  else
    match style.indent with
    | none => opening :: style.item.intercalate parts ++ [closing]
    | some indent =>
      let line (depth : Nat) : List Char := '\n' :: (List.replicate depth indent).flatten
      opening :: line (depth + 1) ++ (style.item ++ line (depth + 1)).intercalate parts ++
        line depth ++ [closing]

end JsonStyle

namespace Act

def jsonKey (key : Value) : Act (List Char) := do
  match key with
  | .text content => return content
  | .int value => return intText value
  | .real value => return realText value
  | .bool value => return (if value then "true" else "false").toList
  | .none => return "null".toList
  | _ =>
    raise "TypeError" ("keys must be str, int, float, bool or None, not " ++ (← get).typeName key)

def writeJson (style : JsonStyle) : Nat → Nat → Value → Act (List Char)
  | 0, _, _ => raise "ValueError" "Circular reference detected"
  | fuel + 1, depth, value => do
    let several (values : List Value) : Act (List Char) := do
      return style.bracketed depth '[' ']'
        (← values.mapM fun value => writeJson style fuel (depth + 1) value)
    match value with
    | .none => return "null".toList
    | .bool value => return (if value then "true" else "false").toList
    | .int value => return intText value
    | .real value => return realText value
    | .text content => return style.quote content
    | .tuple values => several values
    | _ =>
      match (← get).target? value with
      | some (.list values) => several values
      | some (.dict entries) =>
        let entries ← if style.isSorted then
            do
              let sortedKeys ←
                sorted (entries.map fun (key, value) => (key, .tuple [key, value])) false
              pure (sortedKeys.filterMap fun pair => match pair with
                | .tuple [key, value] => some (key, value)
                | _ => none)
          else pure entries
        let written ← entries.mapM fun (key, value) => do
          let name ← jsonKey key
          return style.quote name ++ style.entry ++ (← writeJson style fuel (depth + 1) value)
        return style.bracketed depth '\x7b' '\x7d' written
      | _ =>
        raise "TypeError"
          ("Object of type " ++ (← get).typeName value ++ " is not JSON serializable")

def badJson {α : Type} (whole rest : List Char) (text : String) : Act α := do
  let offset := whole.length - rest.length
  let before := whole.take offset
  let line := before.count '\n' + 1
  let column := (before.reverse.takeWhile (· != '\n')).length + 1
  raise "json.JSONDecodeError" (text ++ ": line " ++ toString line ++ " column " ++
    toString column ++ " (char " ++
    toString offset ++ ")")

mutual

def readJson (whole : List Char) : Nat → List Char → Act (Value × List Char)
  | 0, cs => badJson whole cs "Expecting value"
  | fuel + 1, cs => do
    let start := Json.skipSpace cs
    match start with
    | '\x7b' :: rest =>
      match Json.skipSpace rest with
      | '\x7d' :: rest => return (← allocate (.dict []), rest)
      | rest =>
        let (entries, rest) ← readJsonEntries whole fuel rest
        let state ← get
        let distinct := entries.foldl (fun known (key, value) => state.inserted known key value) []
        return (← allocate (.dict distinct), rest)
    | '[' :: rest =>
      match Json.skipSpace rest with
      | ']' :: rest => return (← list [], rest)
      | rest =>
        let (values, rest) ← readJsonItems whole fuel rest
        return (← list values, rest)
    | '"' :: rest =>
      match Json.readString rest with
      | some (content, rest) => return (.text (content.getD "�").toList, rest)
      | none => badJson whole start "Unterminated string starting at"
    | _ =>
      match Json.readNumber? start, Json.readWord? start with
      | some (_, rest), _ =>
        let spelled := start.take (start.length - rest.length)
        match spelled.all fun c => c.isDigit || c == '-', Text.Ratio.read? spelled with
        | true, some (value, _) => return (.int value.whole, rest)
        | false, some (value, _) => return (.real value, rest)
        | _, none => badJson whole start "Expecting value"
      | none, some (.bool value, rest) => return (.bool value, rest)
      | none, some (_, rest) => return (.none, rest)
      | none, none => badJson whole start "Expecting value"

def readJsonItems (whole : List Char) : Nat → List Char → Act (List Value × List Char)
  | 0, cs => badJson whole cs "Expecting value"
  | fuel + 1, cs => do
    let (value, rest) ← readJson whole fuel cs
    match Json.skipSpace rest with
    | ',' :: rest =>
      let (values, rest) ← readJsonItems whole fuel rest
      return (value :: values, rest)
    | ']' :: rest => return ([value], rest)
    | rest => badJson whole rest "Expecting ',' delimiter"

def readJsonEntries (whole : List Char) : Nat → List Char → Act (List (Value × Value) × List Char)
  | 0, cs => badJson whole cs "Expecting value"
  | fuel + 1, cs => do
    match Json.skipSpace cs with
    | '"' :: rest =>
      match Json.readString rest with
      | none => badJson whole ('"' :: rest) "Unterminated string starting at"
      | some (name, rest) =>
        let key := Value.text (name.getD "�").toList
        match Json.skipSpace rest with
        | ':' :: rest =>
          let (value, rest) ← readJson whole fuel rest
          match Json.skipSpace rest with
          | ',' :: rest =>
            let (entries, rest) ← readJsonEntries whole fuel rest
            return ((key, value) :: entries, rest)
          | '\x7d' :: rest => return ([(key, value)], rest)
          | rest => badJson whole rest "Expecting ',' delimiter"
        | rest => badJson whole rest "Expecting ':' delimiter"
    | rest => badJson whole rest "Expecting property name enclosed in double quotes"

end

def parseJson (content : List Char) : Act Value := do
  let (value, rest) ← readJson content (2 * content.length + 2) content
  match Json.skipSpace rest with
  | [] => return value
  | rest => badJson content rest "Extra data"

end Act

end DialectLoader.Script
