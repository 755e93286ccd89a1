import CommandShell.KeyValue
import CommandShell.Location
import CommandShell.Session.Basic

/-! Packages of commands. A library maps source files to what running them yields. A package has
directories of it, and the modules of each are visited in the order of their file names. -/

namespace CommandShell

inductive Exported (δ : Type)
  | mapping (entries : List (String × Export (Command δ)))
  | other

/-- What running a source file yields: what it exports, and the directories of its modules if it
names them itself; or a fault. -/
inductive Source (δ : Type)
  | exporting (exports : Exported δ) (directories : Option (List String))
  | failing (raised : Raised)

structure Library (δ : Type) where
  roots : List String
  sources : Entries (Source δ)

structure Imported (δ : Type) where
  name : String
  exports : Exported δ
  directories : Option (List String)

namespace Library

variable {δ : Type}

def within (directory : String) : String := if directory == "" then "" else directory ++ "/"

def path (directory name : String) : String := within directory ++ name

def sourceOf (package name : String) : String :=
  "/".intercalate (Text.parts '.' package ++ [name ++ ".py"])

def after? (start s : String) : Option String :=
  if start.toList.isPrefixOf s.toList then some (String.ofList (s.toList.drop start.length))
  else none

def isDirectory (lib : Library δ) (directory : String) : Bool :=
  (Entries.keys lib.sources).any fun p => (after? (within directory) p).isSome

def anythingAt (lib : Library δ) (place : String) : Bool :=
  (Entries.find? lib.sources place).isSome || isDirectory lib place

def firstName (below : String) : String := String.ofList (below.toList.takeWhile (· ≠ '/'))

def insertName (name : String) : List String → List String
  | [] => [name]
  | n :: rest =>
    if name < n then name :: n :: rest
    else if name = n then n :: rest
    else n :: insertName name rest

def names (lib : Library δ) (directory : String) : List String :=
  let found := (Entries.keys lib.sources).filterMap fun p =>
    (after? (within directory) p).map firstName
  found.foldr insertName []

def moduleName? (file : String) : Option String :=
  let cs := file.toList
  if [ 'y', 'p', '.' ].isPrefixOf cs.reverse then some (String.ofList (cs.take (cs.length - 3)))
  else none

def hasDot (s : String) : Bool := s.toList.contains '.'

structure Found where
  name : String
  isPackage : Bool
  deriving DecidableEq, Repr

/-- What a directory entry is as a module. A directory is one if it has a source of its own. -/
def foundAs (lib : Library δ) (directory file : String) : Option Found :=
  match moduleName? file with
  | some name =>
    if name == "" || name == "__init__" || hasDot name then none else some ⟨name, false⟩
  | none =>
    let below := path directory file
    if file != "" && !hasDot file && isDirectory lib below &&
        (names lib below).any fun n => moduleName? n == some "__init__"
    then some ⟨file, true⟩ else none

def distinct (seen : List String) : List Found → List Found
  | [] => []
  | f :: rest => if f.name ∈ seen then distinct seen rest else f :: distinct (f.name :: seen) rest

def modules (lib : Library δ) (directory : String) : List Found :=
  distinct [] ((names lib directory).filterMap (foundAs lib directory))

def missing (name : String) : Raised :=
  .fault (.named "ModuleNotFoundError" ("No module named " ++ Text.quoted name))

/-- The source that a directory has for a part of a dotted name, with the directories of a package.
A package comes before a module of its name. -/
def sourceIn? (lib : Library δ) (part directory : String) :
    Option (Source δ × Option (List String)) :=
  let below := path directory part
  let source (file : String) : Option (Source δ) :=
    if part.toList.contains '/' then none else Entries.find? lib.sources file
  match source (path below "__init__.py"), source (below ++ ".py") with
  | some s, _ => some (s, some [below])
  | none, some s => some (s, none)
  | none, none => none

/-- The directories for a part that has no source: all of them together are a package. -/
def bareIn (lib : Library δ) (part : String) (directories : List String) : List String :=
  if part == "" || part.toList.contains '/' then []
  else (directories.map fun directory => path directory part).filter lib.isDirectory

/-- Imports one part of a dotted name from the first directory that has a source for it. -/
def importPart (lib : Library δ) (fullName : String) (directories : List String) (part : String) :
    Except Raised (Imported δ) :=
  match directories.findSome? (lib.sourceIn? part), lib.bareIn part directories with
  | some (.exporting exports named, own), _ => .ok ⟨fullName, exports, named.or own⟩
  | some (.failing e, _), _ => .error e
  | none, [] => .error (missing fullName)
  | none, bare => .ok ⟨fullName, .other, some bare⟩

/-- Imports the remaining parts of a dotted name below what is imported already. -/
def importBelow (lib : Library δ) (above : Imported δ) : List String → Except Raised (Imported δ)
  | [] => .ok above
  | part :: rest =>
    let fullName := if above.name == "" then part else above.name ++ "." ++ part
    match above.directories with
    | none => .error (.fault (.named "ModuleNotFoundError"
        ("No module named " ++ Text.quoted fullName ++ "; " ++ Text.quoted above.name ++
          " is not a package")))
    | some directories =>
      match importPart lib fullName directories part with
      | .error e => .error e
      | .ok found => importBelow lib found rest

/-- Imports a module by its dotted name, with every package above it. -/
def importModule (lib : Library δ) (name : String) : Except Raised (Imported δ) :=
  if name == "" then .error (.fault (.value "Empty module name"))
  else if name.toList.head? == some '.' then
    .error (.fault (.type ("the 'package' argument is required to perform a relative import for " ++
      Text.quoted name)))
  else importBelow lib ⟨"", .other, some lib.roots⟩ (Text.parts '.' name)

/-- The modules of one directory that a package is visited through: each module that is not
private, or the entry point of a subpackage that has one. -/
def targets (lib : Library δ) (package directory : String) : List String :=
  ((modules lib directory).filter fun f => f.name.toList.head? != some '_').map fun f =>
    let entry := path (path directory f.name) "entrypoint.py"
    package ++ "." ++ f.name ++
      if f.isPackage && anythingAt lib entry then ".entrypoint" else ""

end Library

namespace Session

variable {δ : Type}

def loaderChannel : String := "shellkit.interface.loader"

def skipping (module name : String) : Log.Record :=
  ⟨Log.warningLevel, loaderChannel, [.filled module, .fixed ": skipping ",
    .filled (Text.quoted name), .fixed " (not a CommandDescriptor)"]⟩

def loaded (package : String) (count : Nat) : Log.Record :=
  .debug loaderChannel [.fixed "Loaded ", .filled (toString count), .fixed " commands from '",
    .filled package, .fixed "'"]

/-- Registers what a mapping holds, but for what is no command; the number registered. -/
def registerExports (module : String) : List (String × Export (Command δ)) → SessionM δ Nat
  | [] => pure 0
  | (name, .foreign _) :: rest => do
    note (skipping module name)
    registerExports module rest
  | (name, .command c) :: rest => do
    register name (.command c)
    let more ← registerExports module rest
    pure (more + 1)

def registerModule (found : Imported δ) : SessionM δ Nat :=
  match found.exports with
  | .mapping entries => registerExports found.name entries
  | .other => pure 0

def registerModules (lib : Library δ) : List String → SessionM δ Nat
  | [] => pure 0
  | target :: rest => do
    let found ← ofExcept (lib.importModule target)
    let count ← registerModule found
    let more ← registerModules lib rest
    pure (count + more)

def loadCommands (lib : Library δ) (package : String) : SessionM δ Nat := do
  let found ← ofExcept (lib.importModule package)
  match found.directories.getD [] with
  | [] => raiseFault (.runtime ("'" ++ package ++ "' must be a package (folder) with modules."))
  | first :: others =>
    let own ← registerModule found
    let more ← registerModules lib ((first :: others).flatMap (lib.targets package))
    note (loaded package (own + more))
    pure (own + more)

end Session

/-- The packages of the shell itself, each with its plain modules. A user may name any of them, but
only the entry point of the key/value store exports commands. -/
def bundledPackages : List (String × List String) :=
  [("shellkit", ["__main__", "config", "errors", "session"]),
    ("shellkit.commands", ["command_types", "commands"]),
    ("shellkit.interface",
      ["cli", "completion", "handler", "history", "loader", "parser", "tokenizer"]),
    ("shellkit.plugins", []),
    ("shellkit.plugins.kv", []),
    ("shellkit.ui", ["ansi", "console", "logging", "table"])]

/-- The sources that come with the shell, given the commands of its key/value store. -/
def bundledSources (δ : Type) (store : List (String × Command δ)) : Entries (Source δ) :=
  (Library.sourceOf "shellkit.plugins.kv" "entrypoint",
      .exporting (.mapping (store.map fun (name, c) => (name, .command c))) none) ::
    bundledPackages.flatMap fun (package, plain) =>
      ("__init__" :: plain).map fun name => (Library.sourceOf package name, .exporting .other none)

def bundledLibrary (δ : Type) (store : List (String × Command δ)) : Library δ :=
  ⟨[""], bundledSources δ store⟩

end CommandShell
