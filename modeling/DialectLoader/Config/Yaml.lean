import DialectLoader.Config
import DialectLoader.Yaml.Decode

/-!
# Configurations in YAML

A configuration is written as a mapping from the names of settings to their values. A setting that
is not named has its default, one that is named twice is an error, and names that are no settings
are skipped with whatever stands behind them.
-/

namespace DialectLoader

open Yaml (Decoder Document Node)

def ExcerptSettings.ofNode (node : Node) : Decoder ExcerptSettings := do
  let fields ← node.fields
  let base : ExcerptSettings := {}
  let enabled ← Node.field fields "enabled" Node.bool base.enabled
  let before ← Node.field fields "before" (Node.nat Text.wordBound) base.before
  let after ← Node.field fields "after" (Node.nat Text.wordBound) base.after
  return { enabled, before, after }

def Options.ofNode (node : Node) : Decoder Options := do
  let fields ← node.fields
  let base : Options := {}
  let implicitReturn ← Node.field fields "implicitlyReturnRoot" Node.bool base.implicitReturn
  let reserveLines ← Node.field fields "reserveLineNumbers" Node.bool base.reserveLines
  let targetLua ← Node.field fields "targetLua" Node.text base.targetLua
  return { implicitReturn, reserveLines, targetLua }

/-- Reads search paths, a mapping from names to lists of directories. Of two with one name the later
counts. -/
def SearchPaths.ofNode (node : Node) : Decoder SearchPaths := do
  let fields ← node.fields
  let table ← fields.mapM fun (id, value) => do
    let items ← value.items
    return (id, ← items.mapM Node.text)
  return .ofList table

namespace Config

/-- Reads a configuration. A setting with a value of another kind makes the whole configuration
unreadable. -/
def ofNode (node : Node) : Decoder Config := do
  let fields ← node.fields
  let base : Config := {}
  let cacheRoot ← Node.field fields "cacheRoot" Node.text base.cacheRoot
  let searchPath ← Node.field fields "searchPath" Node.text base.searchPath
  let searchPaths ← Node.field fields "searchPaths" SearchPaths.ofNode base.searchPaths
  let compileOptions ← Node.field fields "compileOptions" Options.ofNode base.compileOptions
  let debounceMs ← Node.field fields "debounceMs" (Node.nat Text.longWordBound) base.debounceMs
  let excerpt ← Node.field fields "excerpt" ExcerptSettings.ofNode base.excerpt
  let remapDebugInfo ← Node.field fields "remapDebugInfo" Node.bool base.remapDebugInfo
  let purgeOnStart ← Node.field fields "purgeOnStart" Node.bool base.purgeOnStart
  let persistManifest ← Node.field fields "persistManifest" Node.bool base.persistManifest
  let luaInterpreter ← Node.field fields "luaInterpreter" Node.text base.luaInterpreter
  return {
    cacheRoot, searchPath, searchPaths, compileOptions, debounceMs, excerpt, remapDebugInfo,
    purgeOnStart, persistManifest, luaInterpreter }

/-- Reads a configuration from a YAML text. If any part of it cannot be read there is no
configuration at all, and no default takes its place. -/
def ofYaml? (text : String) : Option Config :=
  (Document.parse? text).bind (Decoder.run? ofNode)

/-- The text of a new configuration file. It names every setting with its default, so reading it
gives the default configuration. -/
def initialText : String :=
  "\n".intercalate [
    "cacheRoot: cache/moonloader/lua",
    "searchPath: lsv",
    "searchPaths:",
    "  lsv:",
    "  - lua",
    "compileOptions:",
    "  implicitlyReturnRoot: true",
    "  reserveLineNumbers: true",
    "  targetLua: '5.1'",
    "debounceMs: 200",
    "excerpt:",
    "  enabled: true",
    "  before: 5",
    "  after: 2",
    "remapDebugInfo: true",
    "purgeOnStart: false",
    "persistManifest: true",
    "luaInterpreter: lua",
    ""]

end Config

end DialectLoader
