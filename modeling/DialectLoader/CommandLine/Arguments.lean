import DialectLoader.Config

/-!
# Command-line arguments

Arguments are files and options. A long option starts with two dashes and takes its value behind an
equals sign or as the next argument; a short one starts with one dash and takes the rest of its
argument as its value, or the next one. Short switches can be joined. A value that is an argument of
its own must not look like an option; a single dash does not. Behind two dashes alone all arguments
are files.

No option may be given twice, and a path may not be empty. The arguments are read in order: a wish
for help or the version is granted at once, unless there was an error before.

A refused command line is only refused here. The message that explains the mistake, with its hints
at similar options, is left out.
-/

namespace DialectLoader.CommandLine

/-- What the command line says. Options that were not given leave their defaults, so nothing tells
an absent switch from one that is off. -/
structure Arguments where
  files : List String := []
  /-- The configuration file; without one it is looked for in the root. -/
  project : Option String := none
  /-- The directory to which all paths of the realm are relative. -/
  root : Option String := none
  cacheRoot : Option String := none
  searchPath : Option String := none
  lua : Option String := none
  purge : Bool := false
  force : Bool := false
  precache : Option String := none
  /-- The file whose code is printed and not written anywhere. -/
  toLua : Option String := none
  remap : Bool := false
  /-- Whether changed scripts are compiled again until the program is stopped. -/
  watch : Bool := false
  init : Bool := false
deriving DecidableEq, Repr

/-- An option. All that distinguishes the options is given by the functions below, so that reading
them and printing the help text treat them alike. -/
inductive Flag where
  | project
  | root
  | cacheRoot
  | searchPath
  | lua
  | purge
  | force
  | precache
  | toLua
  | remap
  | watch
  | init
  | help
  | version
deriving DecidableEq, Repr

namespace Flag

def all : List Flag :=
  [project, root, cacheRoot, searchPath, lua, purge, force, precache, toLua, remap, watch, init,
    help, version]

def long : Flag → String
  | project => "project"
  | root => "root"
  | cacheRoot => "cache-root"
  | searchPath => "search-path"
  | lua => "lua"
  | purge => "purge"
  | force => "force"
  | precache => "precache"
  | toLua => "to-lua"
  | remap => "remap"
  | watch => "watch"
  | init => "init"
  | help => "help"
  | version => "version"

def short? : Flag → Option Char
  | project => some 'p'
  | watch => some 'w'
  | help => some 'h'
  | version => some 'V'
  | _ => none

/-- What the help text calls the value, for options that take one. -/
def value? : Flag → Option String
  | project | toLua => some "FILE"
  | root | cacheRoot | precache => some "DIR"
  | searchPath => some "ID"
  | lua => some "PROGRAM"
  | _ => none

def takesValue (flag : Flag) : Bool :=
  flag.value?.isSome

/-- Whether the value is a path in the file system, which is never empty. Other values may be. -/
def takesPath : Flag → Bool
  | project | root | toLua => true
  | _ => false

def meaning : Flag → String
  | project => "Path to moonloader.yaml configuration file"
  | root => "Host root directory that search paths and the cache root live under [default: .]"
  | cacheRoot => "Cache root, relative to the host root"
  | searchPath => "Search-path id sources are resolved in"
  | lua => "Lua interpreter hosting the transpilers"
  | purge => "Purge the cache root before doing anything else"
  | force => "Recompile even when the cached artifact is fresh"
  | precache => "Compile every source under a logical directory"
  | toLua => "Print the Lua translation of a file without caching it"
  | remap => "Remap error text read from stdin using the persisted cache"
  | watch => "Recompile and rerun sources when they change"
  | init => "Write a default moonloader.yaml"
  | help => "Print help"
  | version => "Print version"

/-- The option with a long name. Names are not completed: a beginning of one is no option. -/
def ofLong? (name : String) : Option Flag :=
  all.find? (·.long == name)

def ofShort? (name : Char) : Option Flag :=
  all.find? (·.short? == some name)

end Flag

/-- What is asked for. Reading the arguments never touches a file, so a request says nothing about
whether it can be fulfilled. -/
inductive Request where
  | perform (arguments : Arguments)
  | showHelp
  | showVersion
  | refused
deriving DecidableEq, Repr

/-- A reading in progress. The options seen are kept apart from what they set, since an option given
twice is refused even when both settings agree. -/
structure Reading where
  arguments : Arguments := {}
  seen : List Flag := []

namespace Reading

/-- Records the value of an option. Switches take none and change nothing here. -/
def setValue (arguments : Arguments) (flag : Flag) (value : String) : Arguments :=
  match flag with
  | .project => { arguments with project := some value }
  | .root => { arguments with root := some value }
  | .cacheRoot => { arguments with cacheRoot := some value }
  | .searchPath => { arguments with searchPath := some value }
  | .lua => { arguments with lua := some value }
  | .precache => { arguments with precache := some value }
  | .toLua => { arguments with toLua := some value }
  | _ => arguments

def setSwitch (arguments : Arguments) (flag : Flag) : Arguments :=
  match flag with
  | .purge => { arguments with purge := true }
  | .force => { arguments with force := true }
  | .remap => { arguments with remap := true }
  | .watch => { arguments with watch := true }
  | .init => { arguments with init := true }
  | _ => arguments

/-- Takes an option with its value. There is no reading if the option was given before, or if it
names a path and the value is empty. -/
def takeValue? (reading : Reading) (flag : Flag) (value : List Char) : Option Reading :=
  if reading.seen.contains flag || (flag.takesPath && value.isEmpty) then none
  else some ⟨setValue reading.arguments flag (String.ofList value), flag :: reading.seen⟩

def takeSwitch? (reading : Reading) (flag : Flag) : Option Reading :=
  if reading.seen.contains flag then none
  else some ⟨setSwitch reading.arguments flag, flag :: reading.seen⟩

def takeFile (reading : Reading) (file : List Char) : Reading :=
  { reading with
    arguments :=
      { reading.arguments with files := reading.arguments.files ++ [String.ofList file] } }

/-- What an argument with options comes to. -/
inductive Step where
  | taken (reading : Reading)
  /-- The next argument is the value of this option. -/
  | pending (reading : Reading) (flag : Flag)
  | finished (request : Request)

def Step.ofOption : Option Reading → Step
  | some reading => .taken reading
  | none => .finished .refused

/-- Reads a long option behind its dashes. A value behind an equals sign is taken as it stands,
whatever it looks like; a switch takes none. -/
def long (reading : Reading) (text : List Char) : Step :=
  let name := text.takeWhile (· != '=')
  let value := (text.drop name.length).tail?
  match Flag.ofLong? (String.ofList name), value with
  | none, _ => .finished .refused
  | some flag, some value =>
    if flag.takesValue then .ofOption (reading.takeValue? flag value) else .finished .refused
  | some flag, none =>
    if flag.takesValue then .pending reading flag
    else if flag = .help then .finished .showHelp
    else if flag = .version then .finished .showVersion
    else .ofOption (reading.takeSwitch? flag)

/-- Reads short options behind their dash. The first one with a value takes all that follows. -/
def short (reading : Reading) : List Char → Step
  | [] => .taken reading
  | name :: rest =>
    match Flag.ofShort? name with
    | none => .finished .refused
    | some flag =>
      if flag.takesValue then
        match rest with
        | [] => .pending reading flag
        | '=' :: value => .ofOption (reading.takeValue? flag value)
        | value => .ofOption (reading.takeValue? flag value)
      else if flag = .help then .finished .showHelp
      else if flag = .version then .finished .showVersion
      else
        match reading.takeSwitch? flag with
        | some taken => short taken rest
        | none => .finished .refused

def option (reading : Reading) : List Char → Step
  | '-' :: '-' :: text => reading.long text
  | text => reading.short (text.drop 1)

/-- Reads arguments in order; `pending` is an option that still waits for its value. An error
decides at once, so what stands behind it does not matter. -/
def readAll (reading : Reading) (pending : Option Flag) : List String → Request
  | [] => if pending.isSome then .refused else .perform reading.arguments
  | argument :: rest =>
    let text := argument.toList
    let isOption := text.head? == some '-' && 1 < text.length
    match pending with
    | some flag =>
      match if isOption then none else reading.takeValue? flag text with
      | some taken => readAll taken none rest
      | none => .refused
    | none =>
      if argument = "--" then
        .perform (rest.foldl (fun taken file => taken.takeFile file.toList) reading).arguments
      else if isOption then
        match reading.option text with
        | .taken taken => readAll taken none rest
        | .pending taken flag => readAll taken (some flag) rest
        | .finished request => request
      else readAll (reading.takeFile text) none rest

end Reading

def Request.parse (arguments : List String) : Request :=
  Reading.readAll {} none arguments

/-- The settings that the command line overrides. What was not given stays as the configuration file
has it. -/
def Arguments.overrides (arguments : Arguments) : Overrides where
  cacheRoot := arguments.cacheRoot
  searchPath := arguments.searchPath
  luaInterpreter := arguments.lua
  purgeOnStart := if arguments.purge then some true else none

end DialectLoader.CommandLine
