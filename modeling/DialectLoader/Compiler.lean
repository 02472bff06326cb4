import DialectLoader.Backend.Process

/-!
# Compilers on a file store

What compiles scripts may touch files: an external program is free to change the disk on which it
runs. A compiler therefore takes a file store and answers with the store afterwards. Backends as
such leave it alone.

Nothing says that a compiler comes back or that it leaves the files in order; what is proved with a
compiler of any kind cannot rest on either.
-/

namespace DialectLoader

/-- What compiles the scripts of both dialects on file stores of one type. The store afterwards is
part of the answer. -/
structure Compiler (σ : Type) where
  compile : Dialect → String → Options → σ → Outcome × σ

namespace Compiler

variable {σ : Type}

def ofBackends (backends : Backends) : Compiler σ where
  compile dialect source options store := (backends.compile dialect source options, store)

/-- The compiler that hands the scripts of each dialect to an external program; `start` says what
starting one comes to on a file store. -/
def ofProcesses (process : Dialect → Backend.Process) (start : Backend.Starter σ) :
    Compiler σ where
  compile dialect source options store :=
    let (run, store) := start ((process dialect).invocation source options) store
    ((Backend.ofProcess (process dialect) fun _ => run).compile source options, store)

end Compiler

end DialectLoader
