import CommandShell.Config.EnvFile
import CommandShell.Config.Flatten
import CommandShell.Config.Ini
import CommandShell.Config.Json
import CommandShell.Config.Toml.Read
import CommandShell.Files

/-! Where settings come from: four files in one directory, the environment, and what a program
overrides. A later source wins over the ones before it. -/

namespace CommandShell.Config

structure Sources where
  assignments : Entries Value
  ini : Entries Value
  json : Entries Value
  toml : Entries Value
  environment : Entries Value
  overrides : Entries Value

def variableStart : String := "SHELLKIT_"

namespace Sources

def upperKeys (entries : List (String × Value)) : Entries Value :=
  Entries.ofList (entries.map fun (name, value) => (Text.upper name, value))

def texts (entries : Entries String) : List (String × Value) :=
  entries.map fun (name, s) => (name, .text s)

/-- The setting that an environment variable of a name stands for, if it stands for one. -/
def settingOf? (name : String) : Option String :=
  let start := variableStart.toList
  let cs := name.toList
  if start.isPrefixOf cs ∧ start.length < cs.length then
    some (String.ofList (cs.drop start.length))
  else none

def ofVariables (environment : Entries String) : Entries Value :=
  Entries.ofList (environment.filterMap fun (name, s) =>
    (settingOf? name).map fun setting => (setting, .text s))

def bytes? (fs : Files) (path : String) : Except Fault (Option (List UInt8)) :=
  match fs.read path with
  | .ok bytes => .ok (some bytes)
  | .error (.file (.missing _)) => .ok none
  | .error e => .error e

def decode (bytes : List UInt8) : Except Fault String :=
  (Text.Utf8.decode bytes).mapError .undecodable

/-- The entries of a value that was read, or none in place of a malformed one. -/
def orNothing (result : Except ReadError Value) : Except Fault (Entries Value) :=
  match result with
  | .ok v => (flatten v).map upperKeys
  | .error e =>
    match e.fault? with
    | none => .ok []
    | some f => .error f

def readAssignments (fs : Files) (path : String) : Except Fault (Entries Value) := do
  match ← bytes? fs path with
  | none => .ok []
  | some bytes => .ok (upperKeys (texts (EnvFile.read (← decode bytes))))

/-- A file of sections that cannot be opened is passed over. -/
def readIni (fs : Files) (path : String) : Except Fault (Entries Value) :=
  match fs.read path with
  | .error (.file _) => .ok []
  | .error e => .error e
  | .ok bytes =>
    match Ini.read bytes with
    | .ok entries => .ok (upperKeys (texts entries))
    | .error e => .error (e.fault path)

def readJson (fs : Files) (path : String) : Except Fault (Entries Value) := do
  match ← bytes? fs path with
  | none => .ok []
  | some bytes => orNothing (Json.read (← decode bytes))

def readToml (fs : Files) (path : String) : Except Fault (Entries Value) := do
  match ← bytes? fs path with
  | none => .ok []
  | some bytes => orNothing (Toml.read (← decode bytes))

def read (fs : Files) (directory : String) (environment : Entries String)
    (overrides : Entries Value) : Except Fault Sources := do
  let path (name : String) := Location.join directory name
  let assignments ← readAssignments fs (path ".env")
  let ini ← readIni fs (path "config.ini")
  let json ← readJson fs (path "config.json")
  let toml ← readToml fs (path "config.toml")
  .ok ⟨assignments, ini, json, toml, ofVariables environment, upperKeys overrides⟩

def inOrder (s : Sources) : List (Entries Value) :=
  [s.assignments, s.ini, s.json, s.toml, s.environment, s.overrides]

def merged (defaults : Entries Value) (s : Sources) : Entries Value :=
  s.inOrder.foldl Entries.merge defaults

end Sources
end CommandShell.Config
