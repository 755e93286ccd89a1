import CommandShell.Config.Sources
import CommandShell.Surroundings
import CommandShell.Text.Word
import CommandShell.Value.Text

/-! The settings of a shell, checked. A setting that is empty or says none is not given; names that
are no settings are kept as they are. -/

namespace CommandShell

structure Settings where
  projectName : String
  historyPath : String
  caseInsensitive : Bool
  prompt : Option String
  logLevel : Option String
  logFilePath : Option String
  enableCompletion : Bool
  showBanner : Bool
  pluginPackage : Option String
  extra : Entries Value

namespace Settings

def defaults : Entries Value :=
  [("PROJECT_NAME", .text "shellkit"), ("HISTORY_PATH", .null), ("CASE_INSENSITIVE", .bool false),
    ("PROMPT", .null), ("LOG_LEVEL", .null), ("LOG_FILE_PATH", .null),
    ("ENABLE_COMPLETION", .bool true), ("SHOW_BANNER", .bool true),
    ("PLUGIN_PACKAGE", .text "shellkit.plugins")]

def isSetting (name : String) : Bool := (Entries.keys defaults).contains name

def valueOf (entries : Entries Value) (name : String) : Value :=
  match Entries.find? entries name with
  | some v => v
  | none => (Entries.find? defaults name).getD .null

def truthOf? (word : String) : Option Bool :=
  if ["1", "true", "yes", "y", "on"].contains word then some true
  else if ["0", "false", "no", "n", "off"].contains word then some false
  else none

/-- The text of a value; one with too long an integer has none. -/
def plainOf (v : Value) : Except Fault String :=
  if v.isWritable then .ok v.plain else .error (.value (Decimal.limitMessage ""))

def asBool (name : String) : Value → Except Fault Bool
  | .bool b => .ok b
  | v => do
    match truthOf? (Text.lower (Text.strip (← plainOf v))) with
    | some b => .ok b
    | none => .error (.value (name ++ ": expected boolean, got " ++ v.shown))

def isGiven (s : String) : Bool :=
  let word := Text.lower (Text.strip s)
  word != "" && word != "none"

def asText (v : Value) : Except Fault (Option String) :=
  (plainOf v).map fun s => if isGiven s then some s else none

/-- The levels a log may be set to, in alphabetical order. -/
def levelNames : List String := ["CRITICAL", "DEBUG", "ERROR", "INFO", "WARNING"]

def asLevel (v : Value) : Except Fault (Option String) := do
  match ← asText v with
  | none => .ok none
  | some s =>
    if levelNames.contains (Text.upper s) then .ok (some (Text.upper s))
    else .error (.value ("LOG_LEVEL must be one of " ++
      Text.bracketed (levelNames.map Text.quoted) ++ ", got " ++ Text.quoted s))

def asPath (around : Surroundings) (v : Value) : Except Fault (Option String) := do
  match ← asText v with
  | none => .ok none
  | some s => (around.locate s).map some

def isModuleName (name : String) : Bool :=
  match name.toList with
  | c :: rest => Text.isNameStart c && rest.all Text.isWordChar
  | [] => false

def asModule (v : Value) : Except Fault (Option String) := do
  match ← asText v with
  | none => .ok none
  | some s =>
    if (Text.parts '.' s).all isModuleName then .ok (some s)
    else .error (.value ("PLUGIN_PACKAGE must be a dotted module path, got " ++ Text.quoted s))

def asProject (v : Value) : Except Fault String := do
  match ← asText v with
  | none => .error (.value "PROJECT_NAME must not be empty")
  | some s => .ok s

/-- Without a path of its own, the history is a temporary file named for the project. -/
def standardHistoryPath (around : Surroundings) (project : String) : String :=
  Location.join around.temporary (project ++ "-shell")

/-- Checks settings one by one; the first that is wrong is reported. -/
def ofEntries (around : Surroundings) (entries : Entries Value) : Except Fault Settings := do
  let value := valueOf entries
  let project ← asProject (value "PROJECT_NAME")
  let history ← asPath around (value "HISTORY_PATH")
  let folding ← asBool "CASE_INSENSITIVE" (value "CASE_INSENSITIVE")
  let prompt ← asText (value "PROMPT")
  let level ← asLevel (value "LOG_LEVEL")
  let logFile ← asPath around (value "LOG_FILE_PATH")
  let completion ← asBool "ENABLE_COMPLETION" (value "ENABLE_COMPLETION")
  let banner ← asBool "SHOW_BANNER" (value "SHOW_BANNER")
  let package ← asModule (value "PLUGIN_PACKAGE")
  .ok {
    projectName := project
    historyPath := history.getD (standardHistoryPath around project)
    caseInsensitive := folding
    prompt := prompt
    logLevel := level
    logFilePath := logFile
    enableCompletion := completion
    showBanner := banner
    pluginPackage := package
    extra := entries.filter fun (name, _) => !isSetting name }

def load (fs : Files) (directory : String) (around : Surroundings) (environment : Entries String)
    (overrides : Entries Value) : Except Fault Settings := do
  let sources ← Config.Sources.read fs directory environment overrides
  ofEntries around (sources.merged defaults)

end Settings
end CommandShell
