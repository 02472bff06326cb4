import DialectLoader.Path

/-!
# Dialects

A script is written in one of two languages that compile to Lua. The file extension alone
decides which one, in any letter case.
-/

namespace DialectLoader

/-- The language of a script; both compile to Lua. -/
inductive Dialect where
  | moonScript
  | yueScript
deriving DecidableEq, Repr

namespace Dialect

/-- Both dialects, in the order in which a request for a Lua file tries them. -/
def all : List Dialect := [.moonScript, .yueScript]

def extension : Dialect → String
  | moonScript => "moon"
  | yueScript => "yue"

def name : Dialect → String
  | moonScript => "MoonScript"
  | yueScript => "YueScript"

def ofExtension? (ext : String) : Option Dialect :=
  all.find? fun dialect => Path.sameLetters dialect.extension.toList ext.toList

/-- The dialect of the script at a path, if it is a script of either dialect. Whether there is a
file does not matter. -/
def ofPath? (path : String) : Option Dialect :=
  (Path.extension? path).bind ofExtension?

end Dialect

def Path.luaExtension : String := "lua"

/-- Where the code generated from a script goes, relative to the cache root. Scripts that differ in
their extension only share it. -/
def Path.output (source : String) : String :=
  setExtension source luaExtension

end DialectLoader
