import CommandShell.Failure
import CommandShell.Files
import CommandShell.Text.Case
import CommandShell.Text.Escape

/-! Log records, and a logger that shows them on a console and keeps them in a file. The console may
be coloured; in the file only the fixed part of a message is freed of escape sequences. -/

namespace CommandShell

namespace Log

inductive Part
  | fixed (s : String)
  | filled (s : String)
  deriving DecidableEq, Repr

def Part.text : Part → String
  | fixed s | filled s => s

structure Record where
  level : Int
  channel : String
  message : List Part
  deriving DecidableEq, Repr

def Record.text (r : Record) : String := String.join (r.message.map Part.text)

/-- The message with escape sequences removed from its fixed parts. -/
def Record.plainText (r : Record) : String :=
  String.join (r.message.map fun
    | .fixed s => Text.stripEscapes s
    | .filled s => s)

def debugLevel : Int := 10

def warningLevel : Int := 30

def Record.debug (channel : String) (message : List Part) : Record := ⟨debugLevel, channel, message⟩

def levelName (level : Int) : String :=
  if level = 50 then "CRITICAL" else if level = 40 then "ERROR" else if level = 30 then "WARNING"
  else if level = 20 then "INFO" else if level = 10 then "DEBUG" else if level = 0 then "NOTSET"
  else "Level " ++ toString level

def levelOfName? : String → Option Int
  | "CRITICAL" | "FATAL" => some 50
  | "ERROR" => some 40
  | "WARNING" | "WARN" => some 30
  | "INFO" => some 20
  | "DEBUG" => some 10
  | "NOTSET" => some 0
  | _ => none

inductive LevelSpec
  | number (level : Int)
  | name (name : String)

def LevelSpec.level : LevelSpec → Except Fault Int
  | number n => .ok n
  | name s =>
    match levelOfName? (Text.upper s) with
    | some n => .ok n
    | none => .error (.value ("Unknown level: " ++ Text.quoted ("Level " ++ Text.upper s)))

def levelStyles (level : Int) : List Text.Style :=
  if level = 10 then [.brightBlack] else if level = 30 then [.yellow]
  else if level = 40 then [.red] else if level = 50 then [.magenta] else []

end Log

structure Logger where
  name : String
  level : Int
  coloured : Bool
  console : Option Int
  file : Option String
  deriving DecidableEq, Repr

inductive LogOutput
  | console
  | file
  deriving DecidableEq, Repr

namespace Logger

def fileLevel : Int := 10

/-- A logger without outputs. `coloured` says whether the console shows colours. -/
def named (name : String) (coloured : Bool) : Logger := ⟨name, 0, coloured, none, none⟩

def isRoot (l : Logger) : Bool := l.name == "" || l.name == "root"

def displayName (l : Logger) : String := if l.isRoot then "root" else l.name

/-- A logger without a level of its own takes that of the root, which is that of warnings. -/
def effectiveLevel (l : Logger) : Int :=
  if l.level != 0 || l.isRoot then l.level else Log.warningLevel

def admits (l : Logger) (level : Int) : Bool := 0 < level && l.effectiveLevel ≤ level

/-- Sets the level and adds the outputs that are not there yet. A new log file is opened at once;
what fails leaves the steps before it done. -/
def setUp (l : Logger) (level : Log.LevelSpec) (file : Option String) (fs : Files) :
    Logger × Files × Option Fault :=
  match level.level with
  | .error e => (l, fs, some e)
  | .ok n =>
    let l := { l with level := n, console := l.console.or (some n) }
    match file, l.file with
    | some path, none =>
      match fs.append path [] with
      | .ok fs => ({ l with file := some path }, fs, none)
      | .error e => (l, fs, some e)
    | _, _ => (l, fs, none)

def outputs (l : Logger) : List LogOutput :=
  (if l.console.isSome then [.console] else []) ++ (if l.file.isSome then [.file] else [])

def consoleLine (l : Logger) (r : Log.Record) : String :=
  let line := "[" ++ Log.levelName r.level ++ "] " ++ r.text
  (if l.coloured then Text.paint (Log.levelStyles r.level) line else Text.stripEscapes line) ++ "\n"

def fileLine (stamp : String) (r : Log.Record) : String :=
  stamp ++ "[" ++ Log.levelName r.level ++ "] " ++ r.channel ++ ": " ++ r.plainText ++ "\n"

def onConsole (l : Logger) (r : Log.Record) : String :=
  match l.console with
  | some least => if l.admits r.level && least ≤ r.level then l.consoleLine r else ""
  | none => ""

/-- What a record adds to the log file, `stamp` being the time put in front. -/
def inFile (l : Logger) (stamp : String) (r : Log.Record) : String :=
  if l.admits r.level && fileLevel ≤ r.level then fileLine stamp r else ""

end Logger
end CommandShell
