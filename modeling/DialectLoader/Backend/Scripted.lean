import DialectLoader.Backend
import DialectLoader.Text.Search

/-!
# Scripted backends

A scripted backend answers by rules. The first rule whose condition, a text that has to occur in the
source, is met decides what happens; a rule without a condition is always met. Like the echoing ones
these backends are for trying out what surrounds a compiler, and can be made to fail in every way
that a backend can.
-/

namespace DialectLoader.Backend

/-- One rule of a scripted backend: the text to look for, if any, and what happens when it is
there. -/
structure Rule where
  condition : Option String
  attempt : Attempt

/-- How a scripted backend words a fault, so that each way of wording can be asked for. -/
inductive WordingStyle where
  /-- The display text of the fault, if it has one. -/
  | display
  /-- Nothing. -/
  | silent
  /-- A panic. -/
  | panics
  /-- The message with the source behind it. -/
  | quoting

def WordingStyle.apply : WordingStyle → Fault → String → Wording
  | display, fault, _ => fault.display.elim .silent .worded
  | silent, _, _ => .silent
  | panics, _, _ => .panicked
  | quoting, fault, source => .worded (fault.message ++ " in [" ++ source ++ "]")

/-- What the rules say about a source. If none is met that is a fault. -/
def applyRules (rules : List Rule) (source : String) : Attempt :=
  match rules.find? fun rule => rule.condition.all (Text.occursIn · source) with
  | some rule => rule.attempt
  | none => .faulted { message := "no rule" }

def scripted (name : String) (rules : List Rule) (style : WordingStyle) : Backend where
  name := name
  transpile source _ := applyRules rules source
  wording := style.apply

end DialectLoader.Backend
