import DialectLoader.Machine.Script.Value

/-!
# Items and parts of sequences

An index counts from the start, or from the end if it is negative. A slice takes the items from one
index up to another in steps; bounds outside of the sequence are moved to its ends.

Only lists and dictionaries can be changed through an index. Slices with steps are taken but never
assigned to.
-/

namespace DialectLoader.Script

def position? (size : Nat) (index : Int) : Option Nat :=
  let moved := if index < 0 then index + size else index
  if 0 ≤ moved && moved < size then some moved.toNat else none

def slicePositions (size : Nat) (first last step : Option Int) : List Nat :=
  let step := step.getD 1
  let clamp (low high value : Int) : Int := max low (min high value)
  let bound (value : Int) : Int :=
    let moved := if value < 0 then value + size else value
    if 0 < step then clamp 0 size moved else clamp (-1) (size - 1) moved
  let first := (first.map bound).getD (if 0 < step then 0 else (size : Int) - 1)
  let last := (last.map bound).getD (if 0 < step then (size : Int) else -1)
  (List.range (State.rangeSize first last step)).map fun (index : Nat) =>
    (first + step * (index : Int)).toNat

def slicedItems {α : Type} (items : List α) (first last step : Option Int) : List α :=
  match first, last, step with
  | some first, none, none =>
    if 0 ≤ first then items.drop first.toNat else items.drop (items.length - first.natAbs)
  | _, _, _ =>
    let array := items.toArray
    (slicePositions items.length first last step).filterMap fun position => array[position]?

namespace Act

def bound? (value : Value) : Act (Option Int) := do
  match value with
  | .none => return none
  | _ =>
    match value.int? with
    | some number => return some number
    | none => raise "TypeError" "slice indices must be integers or None or have an __index__ method"

def slice (value first last step : Value) : Act Value := do
  let first ← bound? first
  let last ← bound? last
  let step ← bound? step
  if step == some 0 then raise "ValueError" "slice step cannot be zero"
  match value with
  | .text content => return .text (slicedItems content first last step)
  | .bytes content => return .bytes (slicedItems content first last step)
  | .tuple items => return .tuple (slicedItems items first last step)
  | .range start stop stride =>
    list (slicedItems (State.rangeItems start stop stride) first last step)
  | _ =>
    match (← get).target? value with
    | some (.list items) => list (slicedItems items first last step)
    | _ => wrongType value "" " object is not subscriptable"

def itemAt {α : Type} (kind : String) (items : List α) (key : Value) : Act α := do
  match key.int? with
  | none =>
    let name := (← get).typeName key
    raise "TypeError"
      (if kind == "string" then "string indices must be integers, not '" ++ name ++ "'"
      else kind ++ " indices must be integers or slices, not " ++ name)
  | some index =>
    match (position? items.length index).bind fun position => items[position]? with
    | some item => return item
    | none => raise "IndexError" (kind ++ " index out of range")

def subscript (value key : Value) : Act Value := do
  match value with
  | .text content => return .text [← itemAt "string" content key]
  | .bytes content => return .int (← itemAt "index" content key).toNat
  | .tuple items => itemAt "tuple" items key
  | .range first last step => itemAt "range object" (State.rangeItems first last step) key
  | _ =>
    match (← get).target? value with
    | some (.list items) => itemAt "list" items key
    | some (.dict entries) =>
      match (← get).lookup? entries key with
      | some found => return found
      | none => raiseValue (.exception "KeyError" [key])
    | _ => wrongType value "" " object is not subscriptable"

def setSubscript (value key item : Value) : Act Unit := do
  match value with
  | .ref index =>
    match ← cell index with
    | .list items =>
      match key.int?.bind (position? items.length) with
      | some position => setCell index (.list (items.set position item))
      | none => raise "IndexError" "list assignment index out of range"
    | .dict entries => setCell index (.dict ((← get).inserted entries key item))
    | _ => wrongType value "" " object does not support item assignment"
  | _ => wrongType value "" " object does not support item assignment"

def setSlice (value first last : Value) (replacement : List Value) : Act Unit := do
  match value with
  | .ref index =>
    match ← cell index with
    | .list items =>
      let first ← bound? first
      let positions := slicePositions items.length first (← bound? last) none
      let start := match positions, first with
        | position :: _, _ => position
        | [], some _ => (slicePositions items.length none first none).length
        | [], none => 0
      setCell index
        (.list (items.take start ++ replacement ++ items.drop (start + positions.length)))
    | _ => wrongType value "" " object does not support item assignment"
  | _ => wrongType value "" " object does not support item assignment"

def removeSubscript (value key : Value) : Act Unit := do
  match value with
  | .ref index =>
    match ← cell index with
    | .list items =>
      match key.int?.bind (position? items.length) with
      | some position => setCell index (.list (items.eraseIdx position))
      | none => raise "IndexError" "list assignment index out of range"
    | .dict entries =>
      let state ← get
      if (state.lookup? entries key).isNone then raiseValue (.exception "KeyError" [key])
      setCell index (.dict (entries.filter fun (known, _) => !state.same known key))
    | _ => wrongType value "" " object doesn't support item deletion"
  | _ => wrongType value "" " object doesn't support item deletion"

def contains (value item : Value) : Act Bool := do
  let state ← get
  match value, item with
  | .text content, .text needle | .bytes content, .bytes needle =>
    return (Text.indexOf? needle content).isSome
  | .bytes content, .int code => return content.any fun c => (c.toNat : Int) == code
  | .text _,
    _ => raise "TypeError" ("'in <string>' requires string as left operand, not " ++
    state.typeName item)
  | _, _ =>
    match state.target? value with
    | some (.dict entries) => return (state.lookup? entries item).isSome
    | _ => return (← items value).any (state.same item)

def sorted (values : List (Value × Value)) (isReversed : Bool) : Act (List Value) := do
  let state ← get
  let comparable := (values.zip (values.drop 1)).find? fun ((left, _), (right, _)) =>
    (state.less? left right).isNone
  if let some ((left, _), (right, _)) := comparable then
    raise "TypeError"
      ("'<' not supported between instances of '" ++ state.typeName right ++ "' and '" ++
      state.typeName left ++ "'")
  let isLess (left right : Value × Value) : Bool := (state.less? left.1 right.1).getD false
  let found := if isReversed then values.mergeSort fun left right => !isLess left right
    else values.mergeSort fun left right => !isLess right left
  return found.map (·.2)

end Act

end DialectLoader.Script
