import CommandShell.KeyValue
import CommandShell.Plugin
import CommandShell.Session.Configured
import CommandShell.Session.Loop

/-! The shell as a program of its own: it loads its settings, starts its log, registers the commands
of a package over an empty store and runs the interactive loop. Steps of the start are reported one
by one. -/

namespace CommandShell.Standalone

open KeyValue (Store)

structure Host where
  around : Surroundings
  files : Files
  stamp : String
  isTerminal : Bool

structure Report where
  ending : Except Raised Nat
  output : String
  errors : String
  files : Files

structure Refusal where
  ending : Except Raised Nat
  errors : String
  files : Files

def loggerName : String := "shellkit"

/-- Colours are off if the variable for that is set to anything. -/
def isColoured (host : Host) : Bool :=
  host.isTerminal && (Entries.find? host.around.environment "NO_COLOR").getD "" == ""

def badSettings : Nat := 2

/-- A wrong setting is reported; any other fault in reading settings ends the program. -/
def refuse (host : Host) (f : Fault) : Refusal :=
  match f with
  | .value _ | .undecodable _ =>
    let line := Text.paint [.red] ("[FAILED] Load configuration (" ++ f.message ++ ")")
    ⟨.ok badSettings, ((Output.mk host.isTerminal "").printLine line).written, host.files⟩
  | f => ⟨.error (.fault f), "", host.files⟩

def library : Library Store := bundledLibrary Store KeyValue.commands

/-- Loads the settings, sets the logger up, and opens a session over an empty store. -/
def start (host : Host) : Except Refusal (Settings × Session Store) :=
  match Settings.load host.files host.around.directory host.around host.around.environment [] with
  | .error f => .error (refuse host f)
  | .ok settings =>
    let level := Log.LevelSpec.name (settings.logLevel.getD "WARNING")
    let logger := Logger.named loggerName (isColoured host)
    match logger.setUp level settings.logFilePath host.files with
    | (_, files, some f) => .error ⟨.error (.fault f), "", files⟩
    | (logger, files, none) =>
      .ok (settings, .ofSettings settings (some []) files ⟨host.isTerminal, ""⟩
        ⟨logger, host.stamp, [], ""⟩)

/-- Does a step of the start and says how it went; `quiet` leaves out good news. -/
def step {α : Type} (quiet : Bool) (what : String) (x : SessionM Store α) : SessionM Store α := do
  match ← Session.attempt x with
  | .ok a =>
    if !quiet then Session.printStyled .green ("[  OK  ] " ++ what)
    pure a
  | .error e =>
    if e.isOrdinary then
      let reason ← Session.ofExcept e.described
      Session.printStyled .red ("[FAILED] " ++ what ++ " (" ++ reason ++ ")")
    throw e

def loadPackage (quiet : Bool) : Option String → SessionM Store Unit
  | none => pure ()
  | some package => do
    let count ← step quiet ("Load commands from '" ++ package ++ "'")
      (Session.loadCommands library package)
    step quiet (toString count ++ " commands registered") (pure ())

def greeting : String := "Type 'help' for a list of commands, 'exit' to leave."

def welcome (settings : Settings) : SessionM Store Unit := do
  let quiet := !settings.showBanner
  loadPackage quiet settings.pluginPackage
  step quiet ("History file: " ++ (← get).history.path) (pure ())
  if settings.showBanner then Session.print greeting

def endOfInput : Raised := .fault (.endOfInput "EOF when reading a line")

def plainScript (lines : List String) (afterwards : Raised) : EditorScript :=
  ⟨none, lines.map .ok, afterwards, true⟩

def reportOf (s : Session Store) (ending : Except Raised Nat) : Report :=
  ⟨ending, s.output.written, s.journal.console, s.files⟩

/-- Runs the program on the lines of its input; `afterwards` comes after the last one. -/
def run (host : Host) (lines : List String) (afterwards : Raised) : Report :=
  match start host with
  | .error r => ⟨r.ending, "", r.errors, r.files⟩
  | .ok (settings, s) =>
    let program : SessionM Store Nat := do
      welcome settings
      let exit ← Session.run (plainScript lines afterwards)
      pure exit.code
    match program s with
    | .ok code s => reportOf s (.ok code)
    | .error e s => reportOf s (.error e)

end CommandShell.Standalone
