/-!
# YAML tokens

The tokens into which a YAML text falls. Indentation is made explicit: a token opens each block
collection and another closes it, and a token stands before every key, also where the text only
shows a colon behind it.
-/

namespace DialectLoader.Yaml

/-- How a scalar is written. It decides which values a text may stand for, and nothing else. -/
inductive ScalarStyle where
  | plain
  | quoted
  | literal
  | folded
deriving DecidableEq, Repr

/-- A token. It keeps no place in the text, since nothing that is read from tokens names one. -/
inductive Token where
  | versionDirective (major minor : Nat)
  | tagDirective (handle expansion : String)
  | documentStart
  | documentEnd
  | blockSequenceStart
  | blockMappingStart
  | blockEnd
  | flowSequenceStart
  | flowSequenceEnd
  | flowMappingStart
  | flowMappingEnd
  | blockEntry
  | flowEntry
  | key
  | value
  | alias (name : String)
  | anchor (name : String)
  /-- A tag with the handle that stands for the start of its name. -/
  | tag (handle suffix : String)
  | scalar (text : String) (style : ScalarStyle)
deriving DecidableEq, Repr

end DialectLoader.Yaml
