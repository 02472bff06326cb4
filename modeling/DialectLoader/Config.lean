import DialectLoader.Options
import DialectLoader.Path
import DialectLoader.SearchPaths

/-!
# Configuration

How one realm of scripts is loaded. Every setting has a default, and some can be overridden on the
command line. How a configuration is written down is left to `Config.Yaml`; here it is a value.
-/

namespace DialectLoader

/-- Whether source is shown under an error, and how many lines of it before and after the one in
question. -/
structure ExcerptSettings where
  enabled : Bool := true
  before : Nat := 5
  after : Nat := 2
deriving DecidableEq, Repr

/-- The settings of a realm. They stay the same as long as the realm lives. -/
structure Config where
  cacheRoot : String := "cache/moonloader/lua"
  /-- The name of the search path in which scripts are looked up. -/
  searchPath : String := "lsv"
  searchPaths : SearchPaths := .ofList [("lsv", ["lua"])]
  compileOptions : Options := {}
  /-- How long, in milliseconds, a script rests after it was reloaded. -/
  debounceMs : Nat := 200
  excerpt : ExcerptSettings := {}
  remapDebugInfo : Bool := true
  purgeOnStart : Bool := false
  persistManifest : Bool := true
  luaInterpreter : String := "lua"
deriving DecidableEq

/-- Settings given on the command line; those that are none leave the configuration as it is. -/
structure Overrides where
  cacheRoot : Option String := none
  searchPath : Option String := none
  luaInterpreter : Option String := none
  purgeOnStart : Option Bool := none
deriving DecidableEq

namespace Config

def fileName : String := "moonloader.yaml"

/-- A configuration with some settings overridden. Slashes at the end of a new cache root are
dropped. -/
def override (config : Config) (overrides : Overrides) : Config :=
  { config with
    cacheRoot := (overrides.cacheRoot.map Path.trimEnd).getD config.cacheRoot
    searchPath := overrides.searchPath.getD config.searchPath
    luaInterpreter := overrides.luaInterpreter.getD config.luaInterpreter
    purgeOnStart := overrides.purgeOnStart.getD config.purgeOnStart }

/-- The cache root without slashes at its end. Everything that a realm writes is below it. -/
def outputRoot (config : Config) : String :=
  Path.trimEnd config.cacheRoot

end Config

end DialectLoader
