import DialectLoader.Compiler

/-!
# Backends in a Lua interpreter

The compilers of both dialects are Lua libraries. A Lua interpreter runs them: it gets a short Lua
program as an argument, which loads the library, compiles its standard input and answers in the
protocol of the dialect.

The Lua programs are texts that are handed on. What an interpreter does with them, and what the
libraries make of a script, is outside.
-/

namespace DialectLoader.Backend

/-- The Lua program that compiles MoonScript and answers in JSON, which it writes with an encoder of
its own. -/
def moonScriptProgram : String :=
  "\n".intercalate [
    "-- Reads MoonScript from stdin and writes a JSON reply to stdout:",
    "--   \x7b\"code\": \"...\", \"posmap\": \x7b\"<generated line>\": <0-based offset>\x7d\x7d",
    "--   \x7b\"error\": \"...\", \"pos\": <0-based offset>, \"display\": \"...\"\x7d",
    "local parse = require(\"moonscript.parse\")",
    "local compile = require(\"moonscript.compile\")",
    "",
    "local escapes = \x7b ['\"'] = '\\\\\"', ['\\\\'] = '\\\\\\\\', ['\\n'] = '\\\\n'," ++
      " ['\\r'] = '\\\\r', ['\\t'] = '\\\\t' \x7d",
    "",
    "local function encode(s)",
    "  local escaped = tostring(s):gsub('[%c\"\\\\]', function(c)",
    "    return escapes[c] or string.format(\"\\\\u%04x\", c:byte())",
    "  end)",
    "  return '\"' .. escaped .. '\"'",
    "end",
    "",
    "local function offset(pos)",
    "  pos = tonumber(pos) or 1",
    "  return pos > 1 and pos - 1 or 0",
    "end",
    "",
    "local source = io.read(\"*a\")",
    "",
    "local tree, parse_err = parse.string(source)",
    "if not tree then",
    "  io.write('\x7b\"error\":', encode(parse_err or \"parse failed\"), '\x7d')",
    "  return",
    "end",
    "",
    "local options = \x7b",
    "  implicitly_return_root = os.getenv(\"MOONLOADER_IMPLICIT_RETURN\") ~= \"0\",",
    "\x7d",
    "",
    "local code, posmap_or_err, err_pos = compile.tree(tree, options)",
    "if not code then",
    "  io.write('\x7b\"error\":', encode(posmap_or_err or \"compile failed\"))",
    "  if err_pos then",
    "    io.write(',\"pos\":', tostring(offset(err_pos)))",
    "    local ok, display = pcall(compile.format_error, posmap_or_err, err_pos, source)",
    "    if ok and display then",
    "      io.write(',\"display\":', encode(display))",
    "    end",
    "  end",
    "  io.write('\x7d')",
    "  return",
    "end",
    "",
    "io.write('\x7b\"code\":', encode(code), ',\"posmap\":\x7b')",
    "local first = true",
    "for line, pos in pairs(posmap_or_err or \x7b\x7d) do",
    "  if not first then io.write(',') end",
    "  first = false",
    "  io.write(string.format('\"%d\":%d', line, offset(pos)))",
    "end",
    "io.write('\x7d\x7d')",
    ""]

/-- The Lua program that compiles YueScript and answers with annotated code, or with a message and a
failing status. -/
def yueScriptProgram : String :=
  "\n".intercalate [
    "-- Reads YueScript from stdin and writes Lua to stdout. Failures exit with",
    "-- status 1 and the compiler message on stderr.",
    "local yue = require(\"yue\")",
    "",
    "local source = io.read(\"*a\")",
    "local code, err = yue.to_lua(source, \x7b",
    "  reserve_line_number = os.getenv(\"MOONLOADER_RESERVE_LINES\") ~= \"0\",",
    "  implicit_return_root = os.getenv(\"MOONLOADER_IMPLICIT_RETURN\") ~= \"0\",",
    "  options = \x7b target = os.getenv(\"MOONLOADER_TARGET_LUA\") \x7d,",
    "\x7d)",
    "",
    "if not code then",
    "  io.stderr:write(tostring(err))",
    "  os.exit(1)",
    "end",
    "",
    "io.write(code)",
    ""]

def moonScript (interpreter : String) : Process :=
  ⟨"moonscript", interpreter, ["-e", moonScriptProgram], .json⟩

def yueScript (interpreter : String) : Process :=
  ⟨"yuescript", interpreter, ["-e", yueScriptProgram], .annotatedCode⟩

end DialectLoader.Backend

namespace DialectLoader

/-- The compiler that runs the libraries of both dialects in one interpreter; `start` says what
starting it comes to. -/
def Compiler.ofInterpreter {σ : Type} (interpreter : String) (start : Backend.Starter σ) :
    Compiler σ :=
  .ofProcesses
    (fun
      | .moonScript => Backend.moonScript interpreter
      | .yueScript => Backend.yueScript interpreter)
    start

end DialectLoader
