import DialectLoader.Machine.Tools.Lines

/-!
# Comparing files line by line

Two sorted files have lines of their own and lines in common. Of two files in any order, as many
lines as possible are kept, and what is left is told as removals and additions.

Where several ways keep the same number of lines one is taken, which need not be the one that
another implementation takes. The times in the heads of a comparison are left out.
-/

namespace DialectLoader.Tools

namespace Compare

def columns : Nat → List (List Char) → List (List Char) → List (Nat × List Char)
  | 0, _, _ => []
  | _ + 1, [], right => right.map (1, ·)
  | _ + 1, left, [] => left.map (0, ·)
  | fuel + 1, first :: left, second :: right =>
    if first == second then (2, first) :: columns fuel left right
    else if first < second then (0, first) :: columns fuel left (second :: right)
    else (1, second) :: columns fuel (first :: left) right

/-- What becomes of a line on the way from one file to the other. -/
inductive Change where
  | kept
  | removed
  | added
deriving DecidableEq

def keptCounts (left right : List (List Char)) : List (List Nat) :=
  left.foldr
    (fun line rows =>
      let below := rows.headD (List.replicate (right.length + 1) 0)
      let row := (right.zipIdx).foldr
        (fun (other, index) row =>
          let value := if line == other then below.getD (index + 1) 0 + 1
            else max (below.getD index 0) (row.headD 0)
          value :: row)
        [0]
      row :: rows)
    [List.replicate (right.length + 1) 0]

def changes :
    Nat → List (List Nat) → List (List Char) → List (List Char) → List (Change × List Char)
  | 0, _, _, _ => []
  | _ + 1, _, [], right => right.map (.added, ·)
  | _ + 1, _, left, [] => left.map (.removed, ·)
  | fuel + 1, rows, first :: left, second :: right =>
    if first == second then (.kept, first) :: changes fuel ((rows.drop 1).map (·.drop 1)) left right
    else
      let here := rows.headD []
      let below := (rows.drop 1).headD []
      if here.getD 1 0 ≤ below.getD 0 0 then (.removed, first) :: changes fuel (rows.drop 1) left
        (second :: right)
      else (.added, second) :: changes fuel (rows.map (·.drop 1)) (first :: left) right

structure Hunk where
  leftBefore : Nat
  rightBefore : Nat
  removed : List (List Char)
  added : List (List Char)

def hunks (found : List (Change × List Char)) : List Hunk :=
  let step := fun ((left, right, hunk, done) : Nat × Nat × Option Hunk × List Hunk)
    ((change, line) : Change × List Char) =>
    let current : Hunk := hunk.getD ⟨left, right, [], []⟩
    match change with
    | .kept => (left + 1, right + 1, none, hunk.toList ++ done)
    | .removed =>
      (left + 1, right, some { current with removed := current.removed ++ [line] }, done)
    | .added => (left, right + 1, some { current with added := current.added ++ [line] }, done)
  let (_, _, hunk, done) := found.foldl step (0, 0, none, [])
  (hunk.toList ++ done).reverse

def span (before count : Nat) : List Char :=
  if count = 1 then Text.decimal (before + 1)
  else Text.decimal (before + 1) ++ ',' :: Text.decimal (before + count)

def Hunk.normal (hunk : Hunk) : List (List Char) :=
  let marked (mark : Char) (lines : List (List Char)) : List (List Char) := lines.map fun line =>
    mark :: ' ' :: line
  let left := span hunk.leftBefore hunk.removed.length
  let right := span hunk.rightBefore hunk.added.length
  if hunk.added.isEmpty then (left ++ 'd' :: Text.decimal hunk.rightBefore) ::
    marked '<' hunk.removed
  else if hunk.removed.isEmpty then (Text.decimal hunk.leftBefore ++ 'a' :: right) ::
    marked '>' hunk.added
  else (left ++ 'c' :: right) :: marked '<' hunk.removed ++ ["---".toList] ++ marked '>' hunk.added

def rangeText (before count : Nat) : List Char :=
  let start := if count = 0 then before else before + 1
  if count = 1 then Text.decimal start else Text.decimal start ++ ',' :: Text.decimal count

structure Stretch where
  leftBefore : Nat
  rightBefore : Nat
  lines : List (Change × List Char)

def isNear (found : List (Change × List Char)) (index : Nat) : Bool :=
  let first := index - 3
  ((found.drop first).take (index + 4 - first)).any fun entry => entry.1 != .kept

def stretchesFrom (found : List (Change × List Char)) :
    List (Change × List Char) → Nat → Nat → Nat → Option Stretch → List Stretch
  | [], _, _, _, current => current.toList
  | (change, line) :: rest, index, left, right, current =>
    let leftNext := if change == .added then left else left + 1
    let rightNext := if change == .removed then right else right + 1
    if isNear found index then
      let grown : Stretch := current.getD ⟨left, right, []⟩
      stretchesFrom found rest (index + 1) leftNext rightNext
        (some { grown with lines := grown.lines ++ [(change, line)] })
    else current.toList ++ stretchesFrom found rest (index + 1) leftNext rightNext none

def stretches (found : List (Change × List Char)) : List Stretch :=
  stretchesFrom found found 0 0 0 none

def Stretch.unified (stretch : Stretch) : List (List Char) :=
  let leftCount := (stretch.lines.filter (·.1 != .added)).length
  let rightCount := (stretch.lines.filter (·.1 != .removed)).length
  let mark : Change → Char
    | .kept => ' '
    | .removed => '-'
    | .added => '+'
  ("@@ -".toList ++ rangeText stretch.leftBefore leftCount ++ " +".toList ++
      rangeText stretch.rightBefore rightCount ++ " @@".toList) ::
    stretch.lines.map fun (change, line) => mark change :: line

end Compare

def comm (task : Task) : Done :=
  task.asking 1 { plain := "123" } fun asked =>
    match asked.operands with
    | [first, second] =>
      match task.contents first, task.contents second with
      | .error reason, _ => task.fail 1 (plainWording first reason)
      | _, .error reason => task.fail 1 (plainWording second reason)
      | .ok left, .ok right =>
        let left := Text.plainLines left
        let right := Text.plainLines right
        let isShown (column : Nat) : Bool := !asked.has (['1', '2', '3'].getD column '1')
        let shown := (Compare.columns (left.length + right.length + 1) left right).filterMap
          fun (column, line) =>
          if isShown column then
            some (((List.range column).filter isShown).map (fun _ => '\t') ++ line)
          else none
        task.idle.say (Text.joinLines shown)
    | [only] => (task.fail 1 ("missing operand after " ++ quotedName only)).complain 1 task.hint
    | [] => (task.fail 1 "missing operand").complain 1 task.hint
    | _ :: _ :: extra :: _ =>
      (task.fail 1 ("extra operand " ++ quotedName extra)).complain 1 task.hint

def diff (task : Task) : Done :=
  let known : KnownOptions := {
    plain := "qusbwBiarN", long :=
    [("brief", 'q'), ("unified", 'u'), ("report-identical-files", 's')] }
  task.asking 2 known fun asked =>
    match asked.operands with
    | [first, second] =>
      match task.contents first, task.contents second with
      | .error reason, .ok _ => task.fail 2 (plainWording first reason)
      | .ok _, .error reason => task.fail 2 (plainWording second reason)
      | .error reason,
        .error other => (task.fail 2 (plainWording first reason)).complain 2
        ("diff: " ++ plainWording second other)
      | .ok left, .ok right =>
        if left == right then
          if asked.has 's' then
            task.idle.say
              ("Files ".toList ++ first ++ " and ".toList ++ second ++ " are identical\n".toList)
          else task.idle
        else if asked.has 'q' then
          { task.idle.say
            ("Files ".toList ++ first ++ " and ".toList ++ second ++ " differ\n".toList)
            with status := 1 }
        else
          let left := Text.plainLines left
          let right := Text.plainLines right
          let found := Compare.changes (left.length + right.length + 1)
            (Compare.keptCounts left right) left right
          let lines := if asked.has 'u' then
              [("--- ".toList ++ first), ("+++ ".toList ++ second)] ++
                ((Compare.stretches found).map Compare.Stretch.unified).flatten
            else ((Compare.hunks found).map Compare.Hunk.normal).flatten
          { task.idle.say (Text.joinLines lines) with status := 1 }
    | [only] => (task.fail 2 ("missing operand after " ++ quotedName only)).complain 2
      "diff: Try 'diff --help' for more information."
    | _ => (task.fail 2 "missing operand after 'diff'").complain 2
      "diff: Try 'diff --help' for more information."

end DialectLoader.Tools
