import DialectLoader.Machine.Script.Operators

/-!
# Running scripts

Expressions are evaluated and statements are carried out, with a number that bounds the nesting of
calls and the rounds of loops. A function sees the variables of the functions around it and of the
script; what it assigns is its own unless it says otherwise.

This is where the stand-in for an interpreter runs. Nothing is proved about it: a session is given
what starting a program comes to, and its results hold whatever that is.
-/

namespace DialectLoader.Script

def callLimit : Nat := 990

namespace Act

def bindings (index : Nat) : Act (List (String × Value)) := do
  match ← cell index with
  | .scope bindings _ _ => return bindings
  | _ => return []

def bindIn (index : Nat) (name : String) (value : Value) : Act Unit := do
  match ← cell index with
  | .scope bindings globals outers =>
    setCell index (.scope ((name, value) :: bindings.filter (·.1 != name)) globals outers)
  | _ => pure ()

def home (name : String) : Act Nat := do
  let scope := (← get).scope
  let inner := scope.headD 0
  match ← cell inner with
  | .scope _ globals outers =>
    if globals.contains name then return 0
    if !outers.contains name then return inner
    for index in scope.drop 1 do
      if (← bindings index).any (·.1 == name) then return index
    return inner
  | _ => return inner

def setName (name : String) (value : Value) : Act Unit := do
  bindIn (← home name) name value

def find? (name : String) : Act (Option Value) := do
  for index in (← get).scope do
    if let some value := (← bindings index).lookup name then return some value
  return none

def lookup (name : String) : Act Value := do
  match (← find? name).orElse fun _ => builtinValue? name with
  | some value => return value
  | none => raise "NameError" ("name '" ++ name ++ "' is not defined")

def removeName (name : String) : Act Unit := do
  let index ← home name
  match ← cell index with
  | .scope bindings globals outers =>
    if !bindings.any (·.1 == name) then raise "NameError" ("name '" ++ name ++ "' is not defined")
    setCell index (.scope (bindings.filter (·.1 != name)) globals outers)
  | _ => pure ()

def inScope {α : Type} (scope : List Nat) (bindings : List (String × Value))
    (action : Act α) : Act α := do
  let before ← get
  let index := before.cells.size
  let _ ← allocate (.scope bindings [] [])
  modify fun state => { state with scope := index :: scope }
  let result ← attempt action
  modify fun state => { state with scope := before.scope, line := before.line }
  resume result

def property (value : Value) (name : String) : Act Value := do
  match value, name with
  | .module module, _ => return moduleValue module name
  | .known type, "__name__" => return .text type.toList
  | .stream number _, "buffer" => return .stream number true
  | .stream _ _, "encoding" => return .text "utf-8".toList
  | .exception _ arguments, "args" => return .tuple arguments
  | .exception _ arguments, "errno" | .exception _ arguments, "code" => return arguments.headD .none
  | .exception _ arguments, "strerror" => return arguments.getD 1 .none
  | .exception _ arguments, "filename" => return arguments.getD 2 .none
  | .exception _ arguments, "msg" => return arguments.headD .none
  | _, "__class__" => return .known ((← get).typeName value)
  | _, _ =>
    match (← get).target? value, name with
    | some (.function function), "__name__" => return .text function.name.toList
    | some (.file handle), "name" => return .text handle.path
    | some (.file handle), "closed" => return .bool handle.isClosed
    | _, _ => return .method value name

def arguments (function : Function) (positional : List Value) (named : List (String × Value)) :
    Act (List (String × Value)) := do
  let plain := function.parameters.filter fun (_, kind, _) => kind == .plain
  let rest := function.parameters.find? fun (_, kind, _) => kind == .rest
  let namedRest := function.parameters.find? fun (_, kind, _) => kind == .namedRest
  let byPosition := (plain.map (·.1)).zip positional
  let extra := positional.drop plain.length
  if !extra.isEmpty && rest.isNone then
    raise "TypeError" (function.name ++ "() takes " ++ toString plain.length ++
      " positional argument" ++ (if plain.length == 1 then "" else "s") ++ " but " ++
      toString positional.length ++
      (if positional.length == 1 then " was given" else " were given"))
  let isOwn (name : String) : Bool :=
    function.parameters.any fun (known, kind, _) =>
      known == name && (kind == .plain || kind == .named)
  if let some (name, _) := named.find? fun (name, _) => byPosition.any (·.1 == name) then
    raise "TypeError" (function.name ++ "() got multiple values for argument '" ++ name ++ "'")
  let others := named.filter fun (name, _) => !isOwn name
  if let some (name, _) := others.head? then
    if namedRest.isNone then
      raise "TypeError" (function.name ++ "() got an unexpected keyword argument '" ++ name ++ "'")
  let given := byPosition ++ named.filter fun (name, _) => isOwn name
  let presets := function.parameters.filterMap fun (name, _, preset) =>
    if given.any (·.1 == name) then none else preset.map fun value => (name, value)
  let found := given ++ presets
  let missing := function.parameters.filter fun (name, kind, _) =>
    (kind == .plain || kind == .named) && !found.any (·.1 == name)
  if let some (name, kind, _) := missing.head? then
    raise "TypeError" (function.name ++ "() missing " ++ toString missing.length ++ " required " ++
      (if kind == .plain then "positional" else "keyword-only") ++ " argument" ++
      (if missing.length == 1 then "" else "s") ++ ": '" ++ name ++ "'")
  let restBinding := (rest.map fun (name, _, _) => (name, Value.tuple extra)).toList
  let namedBinding ← match namedRest with
    | some (name, _, _) => do
      pure [(name, ← allocate (.dict (others.map fun (name, value) => (.text name.toList, value))))]
    | none => pure []
  return found ++ restBinding ++ namedBinding

end Act

def starredAt? (targets : List Expression) : Option (Nat × Nat) :=
  (targets.findIdx? fun target => target matches .starred _).map fun index =>
    (index, targets.length - index - 1)

def Act.declare (change : List (String × Value) → List String → List String → Cell) : Act Unit := do
  let index := (← get).scope.headD 0
  match ← Act.cell index with
  | .scope bindings globals outers => Act.setCell index (change bindings globals outers)
  | _ => pure ()

mutual

def eval : Nat → Expression → Act Value
  | 0, _ => Act.interrupt .exhausted
  | fuel + 1, expression => do
    match expression with
    | .none => return .none
    | .bool value => return .bool value
    | .integer value => return .int value
    | .real value => return .real value
    | .text content => return .text content
    | .bytes content => return .bytes content
    | .ellipsis => return .ellipsis
    | .template pieces => return .text (← evalPieces fuel pieces)
    | .name name => Act.lookup name
    | .tuple items => return .tuple (← evalItems fuel items)
    | .list items => Act.list (← evalItems fuel items)
    | .set items =>
      let values ← evalItems fuel items
      Act.allocate (.set ((← get).distinct values))
    | .dict entries =>
      let mut found := []
      for (key, value) in entries do
        match key with
        | some key =>
          let key ← eval fuel key
          let value ← eval fuel value
          found := (← get).inserted found key value
        | none =>
          let other ← eval fuel value
          match (← get).target? other with
          | some (.dict more) =>
            let state ← get
            found := more.foldl (fun entries (key, value) => state.inserted entries key value) found
          | _ => Act.wrongType other "" " object is not a mapping"
      Act.allocate (.dict found)
    | .comprehension display item value clauses =>
      let scope := (← get).scope
      let found ← Act.inScope scope [] (collect fuel item value clauses)
      let state ← get
      match display with
      | .list => Act.list (found.map (·.1))
      | .set => Act.allocate (.set (state.distinct (found.map (·.1))))
      | .generator => Act.allocate (.iterator (found.map (·.1)))
      | .dict =>
        Act.allocate (.dict
          (found.foldl (fun entries (key, value) => state.inserted entries key value) []))
    | .member object name => Act.property (← eval fuel object) name
    | .index object key =>
      let object ← eval fuel object
      match key with
      | .slice first last step =>
        let first ← evalOption fuel first
        let last ← evalOption fuel last
        let step ← evalOption fuel step
        Act.slice object first last step
      | _ => Act.subscript object (← eval fuel key)
    | .slice .. => return .none
    | .call function arguments =>
      let function ← eval fuel function
      let (positional, named) ← evalArguments fuel arguments
      apply fuel function positional named
    | .unary operator operand => Act.operateOne operator (← eval fuel operand)
    | .binary operator left right =>
      let left ← eval fuel left
      Act.operate operator left (← eval fuel right)
    | .comparison first rest =>
      let first ← eval fuel first
      return .bool (← evalComparison fuel first rest)
    | .both left right =>
      let left ← eval fuel left
      if (← get).holds left then eval fuel right else return left
    | .either left right =>
      let left ← eval fuel left
      if (← get).holds left then return left else eval fuel right
    | .conditional condition success failure =>
      let condition ← eval fuel condition
      if (← get).holds condition then eval fuel success else eval fuel failure
    | .lambda parameters body =>
      let parameters ← evalParameters fuel parameters
      let state ← get
      Act.allocate
        (.function ⟨"<lambda>", parameters, [(state.line, .return (some body))], state.scope⟩)
    | .assignment name value =>
      let value ← eval fuel value
      Act.setName name value
      return value
    | .starred inner => eval fuel inner

def evalOption : Nat → Option Expression → Act Value
  | 0, _ => Act.interrupt .exhausted
  | _ + 1, none => return .none
  | fuel + 1, some expression => eval fuel expression

def evalItems : Nat → List Expression → Act (List Value)
  | 0, _ => Act.interrupt .exhausted
  | fuel + 1, items => do
    let found ← items.mapM fun item => do
      match item with
      | .starred inner => Act.items (← eval fuel inner)
      | _ => return [← eval fuel item]
    return found.flatten

def evalArguments : Nat → List Argument → Act (List Value × List (String × Value))
  | 0, _ => Act.interrupt .exhausted
  | fuel + 1, arguments => do
    let mut positional := []
    let mut named := []
    for argument in arguments do
      match argument with
      | .plain value => positional := positional ++ [← eval fuel value]
      | .starred value => positional := positional ++ (← Act.items (← eval fuel value))
      | .named name value => named := named ++ [(name, ← eval fuel value)]
      | .doubled value =>
        let other ← eval fuel value
        match (← get).target? other with
        | some (.dict entries) =>
          let state ← get
          named := named ++
            entries.map fun (key, value) => (String.ofList (state.textOf key), value)
        | _ => Act.raise "TypeError" "argument after ** must be a mapping"
    return (positional, named)

def evalParameters : Nat → List Parameter → Act (List (String × ParameterKind × Option Value))
  | 0, _ => Act.interrupt .exhausted
  | fuel + 1, parameters =>
    parameters.mapM fun parameter => do
      match parameter with
      | .of name kind none => return (name, kind, none)
      | .of name kind (some preset) => return (name, kind, some (← eval fuel preset))

def evalComparison : Nat → Value → List (String × Expression) → Act Bool
  | 0, _, _ => Act.interrupt .exhausted
  | _ + 1, _, [] => return true
  | fuel + 1, first, (operator, second) :: rest => do
    let second ← eval fuel second
    if ← Act.compare operator first second then evalComparison fuel second rest else return false

def evalPieces : Nat → List Piece → Act (List Char)
  | 0, _ => Act.interrupt .exhausted
  | fuel + 1, pieces => do
    let found ← pieces.mapM fun piece => do
      match piece with
      | .text content => return content
      | .field value conversion format =>
        let value ← eval fuel value
        let spec ← evalPieces fuel format
        Act.format spec (← Act.converted conversion value)
    return found.flatten

def collect : Nat → Expression → Option Expression → List Clause → Act (List (Value × Value))
  | 0, _, _, _ => Act.interrupt .exhausted
  | fuel + 1, item, value, [] => do
    let item ← eval fuel item
    return [(item, ← evalOption fuel value)]
  | fuel + 1, item, value, .for target items :: rest => do
    let values ← Act.items (← eval fuel items)
    let found ← values.mapM fun found => do
      assign fuel target found
      collect fuel item value rest
    return found.flatten
  | fuel + 1, item, value, .if condition :: rest => do
    let condition ← eval fuel condition
    if (← get).holds condition then collect fuel item value rest else return []

def assign : Nat → Expression → Value → Act Unit
  | 0, _, _ => Act.interrupt .exhausted
  | fuel + 1, target, value => do
    match target with
    | .name name => Act.setName name value
    | .index object key =>
      let object ← eval fuel object
      match key with
      | .slice first last _ =>
        let first ← evalOption fuel first
        let last ← evalOption fuel last
        Act.setSlice object first last (← Act.items value)
      | _ => Act.setSubscript object (← eval fuel key) value
    | .tuple targets | .list targets =>
      let values ← Act.items value
      match starredAt? targets with
      | none =>
        if values.length < targets.length then
          Act.raise "ValueError" ("not enough values to unpack (expected " ++
            toString targets.length ++ ", got " ++ toString values.length ++ ")")
        if targets.length < values.length then
          Act.raise "ValueError"
            ("too many values to unpack (expected " ++ toString targets.length ++ ")")
        for (target, value) in targets.zip values do
          assign fuel target value
      | some (before, behind) =>
        if values.length < before + behind then
          Act.raise "ValueError" ("not enough values to unpack (expected at least " ++
            toString (before + behind) ++ ", got " ++ toString values.length ++ ")")
        let middle ← Act.list ((values.drop before).take (values.length - before - behind))
        let spread := values.take before ++ middle :: values.drop (values.length - behind)
        for (target, value) in targets.zip spread do
          assign fuel target value
    | .starred inner => assign fuel inner value
    | .member object name =>
      let object ← eval fuel object
      Act.raise "AttributeError"
        ("'" ++ (← get).typeName object ++ "' object attribute '" ++ name ++ "' is read-only")
    | _ => Act.raise "SyntaxError" "cannot assign to expression"

def apply : Nat → Value → List Value → List (String × Value) → Act Value
  | 0, _, _, _ => Act.interrupt .exhausted
  | fuel + 1, function, positional, named => do
    let call (function : Value) (arguments : List Value) : Act Value :=
      apply fuel function arguments []
    match function with
    | .known name => Act.builtin call name positional named
    | .method object name => Act.method call object name positional named
    | _ =>
      let state ← get
      match state.target? function with
      | some (.function function) =>
        if callLimit ≤ state.calls.length then
          Act.raise "RecursionError" "maximum recursion depth exceeded"
        let bindings ← Act.arguments function positional named
        let entered := { state with calls := (state.line, state.function) :: state.calls }
        modify fun current => { current with calls := entered.calls, function := function.name }
        let result ← Act.attempt (Act.inScope function.scope bindings (exec fuel function.body))
        modify fun current =>
          { current with calls := state.calls, function := state.function, line := state.line }
        match result with
        | .ok () => return .none
        | .error (.returned value) => return value
        | .error other => Act.interrupt other
      | _ => Act.wrongType function "" " object is not callable"

def exec : Nat → List (Nat × Statement) → Act Unit
  | 0, _ => Act.interrupt .exhausted
  | fuel + 1, statements => do
    for (line, statement) in statements do
      modify fun state => { state with line }
      execOne fuel statement

def execOne : Nat → Statement → Act Unit
  | 0, _ => Act.interrupt .exhausted
  | fuel + 1, statement => do
    match statement with
    | .expression expression =>
      let _ ← eval fuel expression
      pure ()
    | .assign targets value =>
      let value ← eval fuel value
      for target in targets do
        assign fuel target value
    | .augment target operator value =>
      let before ← eval fuel target
      let operand ← eval fuel value
      match operator, before, (← get).target? before with
      | "+", .ref index, some (.list items) =>
        Act.setCell index (.list (items ++ (← Act.items operand)))
        assign fuel target before
      | _, _, _ => assign fuel target (← Act.operate operator before operand)
    | .delete targets =>
      for target in targets do
        match target with
        | .name name => Act.removeName name
        | .index object (.slice first last _) =>
          let object ← eval fuel object
          let first ← evalOption fuel first
          Act.setSlice object first (← evalOption fuel last) []
        | .index object key =>
          let object ← eval fuel object
          Act.removeSubscript object (← eval fuel key)
        | _ => pure ()
    | .pass => pure ()
    | .break => Act.interrupt .broken
    | .continue => Act.interrupt .continued
    | .return value => Act.interrupt (.returned (← evalOption fuel value))
    | .raise none =>
      match (← get).handled with
      | exception :: _ => Act.raiseValue exception
      | [] => Act.raise "RuntimeError" "No active exception to reraise"
    | .raise (some value) =>
      match ← eval fuel value with
      | .known kind => Act.raiseValue (.exception kind [])
      | .exception kind arguments => Act.raiseValue (.exception kind arguments)
      | _ => Act.raise "TypeError" "exceptions must derive from BaseException"
    | .global names =>
      Act.declare fun bindings globals outers => .scope bindings (globals ++ names) outers
    | .nonlocal names =>
      Act.declare fun bindings globals outers => .scope bindings globals (outers ++ names)
    | .load modules =>
      for (module, other) in modules do
        unless moduleNames.contains module do
          Act.raise "ModuleNotFoundError" ("No module named '" ++ module ++ "'")
        match other with
        | some name => Act.setName name (.module module)
        | none =>
          let top := String.ofList (module.toList.takeWhile (· != '.'))
          Act.setName top (.module top)
    | .loadFrom module names =>
      unless moduleNames.contains module do
        Act.raise "ModuleNotFoundError" ("No module named '" ++ module ++ "'")
      for (name, other) in names do
        Act.setName other (moduleValue module name)
    | .assert condition message =>
      let condition ← eval fuel condition
      if !(← get).holds condition then
        match message with
        | some message =>
          let message ← eval fuel message
          Act.raiseValue (.exception "AssertionError" [message])
        | none => Act.raiseValue (.exception "AssertionError" [])
    | .branch condition success failure =>
      let condition ← eval fuel condition
      if (← get).holds condition then exec fuel success else exec fuel failure
    | .while condition body otherwise => loop fuel condition body otherwise
    | .for target items body otherwise =>
      let values ← Act.items (← eval fuel items)
      let mut isBroken := false
      for value in values do
        assign fuel target value
        match ← Act.attempt (exec fuel body) with
        | .ok () | .error .continued => pure ()
        | .error .broken =>
          isBroken := true
          break
        | .error other => Act.interrupt other
      if !isBroken then exec fuel otherwise
    | .try body handlers otherwise final =>
      let scope := (← get).scope
      let outcome ← Act.attempt (exec fuel body)
      modify fun state => { state with scope }
      let outcome ← match outcome with
        | .ok () => Act.attempt (exec fuel otherwise)
        | .error (.raised exception trace) => Act.attempt (handle fuel handlers exception trace)
        | other => pure other
      exec fuel final
      Act.resume outcome
    | .with items body => withOpen fuel items body
    | .define name parameters body =>
      let parameters ← evalParameters fuel parameters
      let function ← Act.allocate (.function ⟨name, parameters, body, (← get).scope⟩)
      Act.setName name function

def loop : Nat → Expression → List (Nat × Statement) → List (Nat × Statement) → Act Unit
  | 0, _, _, _ => Act.interrupt .exhausted
  | fuel + 1, condition, body, otherwise => do
    let line := (← get).line
    let verdict ← eval fuel condition
    if (← get).holds verdict then
      match ← Act.attempt (exec fuel body) with
      | .ok () | .error .continued =>
        modify fun state => { state with line }
        loop fuel condition body otherwise
      | .error .broken => pure ()
      | .error other => Act.interrupt other
    else exec fuel otherwise

def handle : Nat → List (Option Expression × Option String × List (Nat × Statement)) → Value →
    List (Nat × String) → Act Unit
  | 0, _, _, _ => Act.interrupt .exhausted
  | _ + 1, [], exception, trace => Act.interrupt (.raised exception trace)
  | fuel + 1, (kinds, name, body) :: rest, exception, trace => do
    let kind := match exception with
      | .exception kind _ => kind
      | _ => ""
    let isFor ← match kinds with
      | none => pure true
      | some kinds => do
        let types ← eval fuel kinds
        pure ((Act.typesOf types).any (isKind 6 kind))
    if isFor then
      if let some name := name then Act.setName name exception
      modify fun state => { state with handled := exception :: state.handled }
      let outcome ← Act.attempt (exec fuel body)
      modify fun state => { state with handled := state.handled.drop 1 }
      Act.resume outcome
    else handle fuel rest exception trace

def withOpen : Nat → List (Expression × Option Expression) → List (Nat × Statement) → Act Unit
  | 0, _, _ => Act.interrupt .exhausted
  | fuel + 1, [], body => exec fuel body
  | fuel + 1, (item, target) :: rest, body => do
    let value ← eval fuel item
    if let some target := target then assign fuel target value
    let outcome ← Act.attempt (withOpen fuel rest body)
    match value, (← get).target? value with
    | .ref index, some (.file handle) => Act.setCell index (.file { handle with isClosed := true })
    | _, _ => pure ()
    Act.resume outcome

end

end DialectLoader.Script
