import DialectLoader.Machine.Shell.Pattern
import DialectLoader.Machine.Tools.Files

/-!
# Finding files

The paths below directories for which conditions hold, and what is to be done with them. The
conditions are alternatives, each of which is a row of tests that all have to hold.

Parentheses between conditions are skipped, so groups of alternatives inside a row are not
described. Actions come after all tests, wherever they stand.
-/

namespace DialectLoader.Tools.Find

inductive Test where
  | name (pattern : List Char) (foldsCase : Bool)
  | path (pattern : List Char)
  | kind (letter : Char)
  | isEmpty
  | newer (reference : Signal)
  | never
deriving DecidableEq

inductive Action where
  | print (ending : Char)
  | delete
  | run (command : List (List Char)) (once : Bool)
deriving DecidableEq

/-- What arguments ask for: where to start, how deep to go, what to test and what to do. -/
structure Plan where
  starts : List (List Char)
  least : Nat := 0
  most : Nat := 64
  tests : List (List (Test × Bool)) := [[]]
  actions : List Action := []

def Plan.adding (plan : Plan) (test : Test) (negated : Bool) : Plan :=
  match plan.tests with
  | current :: others => { plan with tests := (current ++ [(test, negated)]) :: others }
  | [] => { plan with tests := [[(test, negated)]] }

def readPlan (disk : Disk) : Nat → Bool → List (List Char) → Plan → Except String Plan
  | 0, _, _, plan => .ok plan
  | _ + 1, _, [], plan => .ok plan
  | fuel + 1, negated, word :: rest, plan =>
    let test (test : Test) (rest : List (List Char)) :=
      readPlan disk fuel false rest (plan.adding test negated)
    let act (action : Action) (rest : List (List Char)) :=
      readPlan disk fuel false rest { plan with actions := plan.actions ++ [action] }
    let missing : Except String Plan := .error ("missing argument to '" ++ pathOf word ++ "'")
    match String.ofList word, rest with
    | "!", _ | "-not", _ => readPlan disk fuel (!negated) rest plan
    | "-a", _ | "-and", _ | "-depth", _ | "-xdev", _ | "(", _ | ")", _ =>
      readPlan disk fuel negated rest plan
    | "-o", _ | "-or", _ => readPlan disk fuel false rest { plan with tests := [] :: plan.tests }
    | "-name", pattern :: rest => test (.name pattern false) rest
    | "-iname", pattern :: rest => test (.name pattern true) rest
    | "-path", pattern :: rest | "-wholename", pattern :: rest => test (.path pattern) rest
    | "-type", [letter] :: rest => test (.kind letter) rest
    | "-empty", _ => test .isEmpty rest
    | "-newer", path :: rest =>
      match disk.modifiedAt (pathOf path) with
      | .ok time => test (.newer time) rest
      | .error cause => .error (quotedName path ++ ": " ++ cause.reason)
    | "-false", _ => test .never rest
    | "-true", _ => readPlan disk fuel false rest plan
    | "-maxdepth", digits :: rest =>
      readPlan disk fuel negated rest
        { plan with most := (Text.readDecimal? Text.wordBound digits).getD 0 }
    | "-mindepth", digits :: rest =>
      readPlan disk fuel negated rest
        { plan with least := (Text.readDecimal? Text.wordBound digits).getD 0 }
    | "-print", _ => act (.print '\n') rest
    | "-print0", _ => act (.print '\x00') rest
    | "-delete", _ => act .delete rest
    | "-exec", _ | "-execdir", _ =>
      let command := rest.takeWhile fun word => word != [';'] && word != ['+']
      let once := rest[command.length]? == some ['+']
      act (.run command once) (rest.drop (command.length + 1))
    | "-name", [] | "-iname", [] | "-path", [] | "-type", [] | "-maxdepth", [] | "-mindepth",
      [] | "-newer", [] => missing
    | other, _ => .error ("unknown predicate '" ++ other ++ "'")

def planOf (disk : Disk) (arguments : List (List Char)) : Except String Plan := do
  let starts := arguments.takeWhile fun word => word.head? != some '-' && word != ['!'] &&
    word != ['(']
  let plan ← readPlan disk (arguments.length + 1) false (arguments.drop starts.length)
    { starts := if starts.isEmpty then [['.']] else starts }
  return if plan.actions.isEmpty then { plan with actions := [.print '\n'] } else plan

def pattern (text : List Char) : List Shell.Glyph :=
  text.map (.char · false false)

def Test.holds (disk : Disk) (path : List Char) : Test → Bool
  | .name spelled foldsCase =>
    let fold (text : List Char) : List Char := if foldsCase then text.map Char.toLower else text
    Shell.Glyph.matchesText (pattern (fold spelled)) (fold (lastName path))
  | .path spelled => Shell.Glyph.matchesText (pattern spelled) path
  | .kind letter =>
    match disk.look .entry (pathOf path) with
    | .ok (_, .directory) => letter == 'd'
    | .ok (_, .file ..) => letter == 'f'
    | .ok (_, .link _) => letter == 'l'
    | .error _ => false
  | .isEmpty =>
    match disk.named (pathOf path) with
    | .ok (_, .node .directory below) => below.isEmpty
    | .ok (_, .node (.file contents _ _) _) => contents.isEmpty
    | _ => false
  | .newer reference => (disk.modifiedAt (pathOf path)).toOption.any (·.later reference)
  | .never => false

def below (disk : Disk) : Nat → Nat → List Char → List (Nat × List Char)
  | 0, _, _ => []
  | fuel + 1, depth, path =>
    let inner := match disk.look .entry (pathOf path) with
      | .ok (_, .directory) =>
        (((disk.children (pathOf path)).toOption.getD []).map fun name =>
          below disk fuel (depth + 1) (inside path (Text.octetsOf name))).flatten
      | _ => []
    (depth, path) :: inner

def Plan.paths (plan : Plan) (disk : Disk) : List (List Char) :=
  ((plan.starts.map fun start => below disk 64 0 start).flatten.filter fun (depth, path) =>
    plan.least ≤ depth && depth ≤ plan.most &&
      (plan.tests.any fun tests => tests.all fun (test, negated) =>
        test.holds disk path != negated)).map (·.2)

def Plan.missing (plan : Plan) (disk : Disk) : List (List Char) :=
  plan.starts.filter fun start => (disk.look .entry (pathOf start)).toOption.isNone

end DialectLoader.Tools.Find
