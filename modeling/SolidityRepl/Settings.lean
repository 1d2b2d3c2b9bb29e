import SolidityRepl.Json.Access

/-!
# Settings

Sixteen settings with a value each. Values are kept as they are given; whoever reads one says what
kind it must be.
-/

namespace SolidityRepl

inductive Setting where
  | contractName
  | entryName
  | installedVersion
  | evmVersion
  | provider
  | providerUrl
  | autostart
  | nodeArgs
  | deployGas
  | callGas
  | basePath
  | includePaths
  | allowHttp
  | ignoredWarnings
  | cacheDir
  | showContract
  deriving DecidableEq, Repr

namespace Setting

def all : List Setting :=
  [.contractName, .entryName, .installedVersion, .evmVersion, .provider, .providerUrl, .autostart,
   .nodeArgs, .deployGas, .callGas, .basePath, .includePaths, .allowHttp, .ignoredWarnings,
   .cacheDir, .showContract]

def name : Setting → String
  | .contractName => "template_contract_name"
  | .entryName => "template_func_main"
  | .installedVersion => "installed_solidity_version"
  | .evmVersion => "evm_version"
  | .provider => "blockchain_provider"
  | .providerUrl => "provider_url"
  | .autostart => "autostart"
  | .nodeArgs => "node_args"
  | .deployGas => "deploy_gas"
  | .callGas => "call_gas"
  | .basePath => "base_path"
  | .includePaths => "include_paths"
  | .allowHttp => "allow_http_imports"
  | .ignoredWarnings => "ignore_warnings"
  | .cacheDir => "cache_dir"
  | .showContract => "debug_show_contract"

def ofName? (name : String) : Option Setting := all.find? (fun s => s.name == name)

theorem mem_all (s : Setting) : s ∈ all := by cases s <;> decide

theorem ofName?_name (s : Setting) : ofName? s.name = some s := by cases s <;> decide

/-- Warnings that every synthesized program draws. -/
def expectedWarnings : List String :=
  ["Statement has no effect.", "Function state mutability can be restricted to ",
   "Unused local variable."]

def default : Setting → Json
  | .contractName => .str "MainContract"
  | .entryName => .str "main"
  | .installedVersion => .str "0.8.26"
  | .evmVersion => .null
  | .provider => .str "internal"
  | .providerUrl => .str "http://localhost:8545"
  | .autostart => .bool true
  | .nodeArgs => .arr []
  | .deployGas => .int 30000000
  | .callGas => .int 30000000
  | .basePath => .str ""
  | .includePaths => .arr []
  | .allowHttp => .bool false
  | .ignoredWarnings => .arr (expectedWarnings.map .str)
  | .cacheDir => .str "~/.cache/solshell"
  | .showContract => .bool false

end Setting

structure Settings where
  read : Setting → Json

namespace Settings

def default : Settings := ⟨Setting.default⟩

instance : Inhabited Settings := ⟨default⟩

def put (s : Settings) (key : Setting) (value : Json) : Settings :=
  ⟨fun k => if k = key then value else s.read k⟩

theorem read_put (s : Settings) (key k : Setting) (value : Json) :
    (s.put key value).read k = if k = key then value else s.read k := rfl

def unknown (names : List String) : List String :=
  ((names.filter fun n => (Setting.ofName? n).isNone).eraseDups).mergeSort
    (fun a b => decide (a ≤ b))

/-- The setting of a name, or the refusal of a name that has none. -/
def key (name : String) : Except Failure Setting :=
  match Setting.ofName? name with
  | some k => .ok k
  | none => .error (.unknownSettings [name])

def set (s : Settings) (name : String) (value : Json) : Except Failure Settings :=
  (key name).map fun k => s.put k value

def unset (s : Settings) (name : String) : Except Failure Settings :=
  (key name).map fun k => s.put k k.default

/-- The given settings, and defaults for the others. Every unknown name is reported. -/
def ofFields (fields : List (String × Json)) : Except Failure Settings :=
  match unknown (fields.map (·.1)) with
  | [] => .ok ⟨fun k => (Keyed.get? k.name fields).getD k.default⟩
  | names => .error (.unknownSettings names)

/-- Settings from a value. Nothing at all is no settings; a list of names, or the characters of a
text, set nothing. -/
def ofJson : Json → Except Failure Settings
  | .obj fields => ofFields fields
  | v =>
    if v.isVoid then .ok default
    else do
      match unknown (← (← v.parts).mapM Json.asText) with
      | [] => .error .wrongType
      | names => .error (.unknownSettings names)

def fields (s : Settings) : List (String × Json) := Setting.all.map fun k => (k.name, s.read k)

def same (a b : Settings) : Bool := Setting.all.all fun k => (a.read k).same (b.read k)

def text (s : Settings) (k : Setting) : Except Failure String :=
  match s.read k with
  | .str t => .ok t
  | _ => .error .unsupported

def texts (s : Settings) (k : Setting) : Except Failure (List String) :=
  match s.read k with
  | .arr items => items.mapM fun v => match v with
    | .str t => .ok t
    | _ => .error .wrongType
  | _ => .error .wrongType

def isOn (s : Settings) (k : Setting) : Bool := !(s.read k).isVoid

end Settings

end SolidityRepl
