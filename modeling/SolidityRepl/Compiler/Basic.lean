import SolidityRepl.Store
import SolidityRepl.Json.Printer
import SolidityRepl.Compilation
import SolidityRepl.Import.Roots

/-!
# Compilers

A compiler is one build of a version. What it says about an input is kept in a store, if there is
one, so that the same input is compiled once only.
-/

namespace SolidityRepl

/-- One build of a version, and the folder of its store as it is set. -/
structure Compiler where
  version : Version
  store : Json
  deriving Inhabited, Repr

namespace Compiler

variable {O T : Type} [Duration T]

def shown (c : Compiler) : String := "SolcCompiler(" ++ c.version.shown ++ ")"

/-- What is asked for about every contract of every unit. -/
def selection : Json :=
  .obj [("*", .obj [("*", .arr [.str "abi", .str "evm.bytecode.object", .str "evm.bytecode.opcodes",
    .str "storageLayout"])])]

def inputOf (sources : Keyed Json) (machine : Json) : Json :=
  let settings := ("outputSelection", selection) ::
    match machine with
    | .null => []
    | machine => [("evmVersion", machine)]
  .obj [("language", .str "Solidity"), ("sources", .obj sources), ("settings", .obj settings)]

def salt : String := "0.1.0"

/-- The key of a stored output: the version and the whole input. -/
def keyOf (c : Compiler) (input : Json) : String := c.version.shown ++ input.sorted.render

def run (c : Compiler) (host : Host O) (input : Json) : Act (World O T) Json := do
  World.record (.compiled c.version input)
  World.ask (host.compile c.version input)

/-- The output for an input, from the store or from the compiler itself. -/
def answer (c : Compiler) (host : Host O) (input : Json) : Act (World O T) Json :=
  match c.store with
  | .null => c.run host input
  | .str folder => do
    let store ← Act.ofExcept (Store.ofFolder folder salt)
    store.lookUp (c.keyOf input) (c.run host input)
  | _ => throw .wrongType

/-- The result for some sources. A compiler that breaks down with remarks has refused them. -/
def compile (c : Compiler) (host : Host O)
    (lookUp : Option (String → Act (World O T) Import.Answer)) (sources : Keyed Json)
    (machine : Json) : Act (World O T) CompileResult := do
  let input := inputOf (← Import.gather lookUp sources) machine
  match ← Act.attempt (c.answer host input) with
  | .ok output => Act.ofExcept (CompileResult.ofOutput output (Keyed.keys sources))
  | .error (.compilerBroke (remark :: remarks)) =>
    return .failed (← Act.ofExcept (CompileResult.remarks (.arr (remark :: remarks))))
  | .error e => throw e

end Compiler

end SolidityRepl
