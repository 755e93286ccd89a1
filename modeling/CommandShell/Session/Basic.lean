import CommandShell.Command.Handler
import CommandShell.Command.Help
import CommandShell.Command.Lookup
import CommandShell.Completion
import CommandShell.History
import CommandShell.Log
import CommandShell.Output

/-! The state of a session and the operations on it that run no handler. A session carries the data
of its user, which it never looks at, and everything it acts on: its output, its files, its log. -/

namespace CommandShell

structure Splitters where
  line : Splitter
  argument : Splitter
  deriving DecidableEq, Repr

structure Invocation where
  command : String
  origin : Origin
  arguments : Arguments
  deriving DecidableEq, Repr

/-- Everything logged, and what the logger made of it. `stamp` is the time put before the records
of a log file. -/
structure Journal where
  logger : Logger
  stamp : String
  records : List Log.Record
  console : String
  deriving DecidableEq, Repr

structure EditorTrace where
  handed : Option (List String)
  completing : Bool
  prompts : List String
  reads : Nat
  released : Bool
  deriving DecidableEq, Repr

def EditorTrace.empty : EditorTrace := ⟨none, false, [], 0, false⟩

structure Session (δ : Type) where
  name : String
  data : δ
  commands : Registry (Command δ)
  quotes : List String
  lineSplitter : Option Splitter
  argumentSplitter : Option Splitter
  history : History
  files : Files
  output : Output
  journal : Journal
  completion : Bool
  prompter : View δ → Except Raised String
  invocations : List Invocation
  appended : List String
  editor : EditorTrace

/-- An operation on a session: it ends with a result or by raising, and in both cases leaves a
session. -/
abbrev SessionM (δ : Type) := EStateM Raised (Session δ)

namespace Session

variable {δ : Type}

def view (s : Session δ) : View δ :=
  ⟨s.name, s.data, s.commands.map Command.signature, s.history.entries⟩

def standardPrompt (view : View δ) : Except Raised String := .ok (view.name ++ "> ")

/-- A session with default settings that has run nothing and knows no command. -/
def fresh (name : String) (data : δ) (history : History) (files : Files) (output : Output)
    (journal : Journal) : Session δ :=
  { name, data, history, files, output, journal
    commands := .empty false
    quotes := Splitter.defaultQuotes
    lineSplitter := none
    argumentSplitter := none
    completion := true
    prompter := standardPrompt
    invocations := []
    appended := []
    editor := .empty }

def withHelp (s : Session δ) : Session δ :=
  { s with commands := s.commands.insert "help" Help.command }

def raiseShell {α : Type} (e : ShellError) : SessionM δ α := throw (.shell e)

def raiseFault {α : Type} (f : Fault) : SessionM δ α := throw (.fault f)

def ofExcept {α : Type} : Except Raised α → SessionM δ α
  | .ok a => pure a
  | .error e => throw e

def ofReading {α : Type} : Except OpenQuote α → SessionM δ α
  | .ok a => pure a
  | .error e => raiseShell (.tokenize e.text e.reason)

def print (line : String) : SessionM δ Unit :=
  modify fun s => { s with output := s.output.printLine line }

def printStyled (style : Text.Style) (line : String) : SessionM δ Unit :=
  print (Text.paint [style] line)

/-- Logs a record; a record for the log file is added to it at once. -/
def note (r : Log.Record) : SessionM δ Unit := modify fun s =>
  let logger := s.journal.logger
  let journal := { s.journal with
    records := s.journal.records ++ [r], console := s.journal.console ++ logger.onConsole r }
  let files := match logger.file with
    | none => s.files
    | some path =>
      match s.files.append path (Text.Utf8.encode (logger.inFile s.journal.stamp r)) with
      | .ok files => files
      | .error _ => s.files
  { s with journal := journal, files := files }

def sessionChannel : String := "shellkit.session"

def handlerChannel : String := "shellkit.interface.handler"

def parserChannel : String := "shellkit.interface.parser"

def historyChannel : String := "shellkit.interface.history"

/-- Both splitters for a session's quotes, or the first that cannot be built. -/
def buildSplitters (quotes : List String) : Except ShellError Splitters :=
  match Splitter.forLine quotes with
  | .error e => .error (.initialization ("error initializing tokenizer: " ++ e.message))
  | .ok line =>
    match Splitter.forArgument quotes with
    | .error e => .error (.initialization ("error initializing arg tokenizer: " ++ e.message))
    | .ok argument => .ok ⟨line, argument⟩

def splitters (s : Session δ) : Option Splitters :=
  match s.lineSplitter, s.argumentSplitter with
  | some line, some argument => some ⟨line, argument⟩
  | _, _ => none

def withSplitters (sp : Splitters) (s : Session δ) : Session δ :=
  { s with lineSplitter := some sp.line, argumentSplitter := some sp.argument }

def getSplitters : SessionM δ Splitters := do
  let s ← get
  match s.splitters with
  | some sp => pure sp
  | none =>
    match buildSplitters s.quotes with
    | .error e => raiseShell e
    | .ok sp =>
      set (s.withSplitters sp)
      pure sp

def prepare : SessionM δ Unit := discard getSplitters

-- each splitter is asked for by itself, and only its own absence leads to building both
def getLineSplitter : SessionM δ Splitter := do
  match (← get).lineSplitter with
  | some sp => pure sp
  | none => return (← getSplitters).line

def getArgumentSplitter : SessionM δ Splitter := do
  match (← get).argumentSplitter with
  | some sp => pure sp
  | none => return (← getSplitters).argument

def register (name : String) (offered : Export (Command δ)) : SessionM δ Unit := do
  let s ← get
  match s.commands.register name offered with
  | .error e => raiseFault e.fault
  | .ok commands => set { s with commands := commands }

def setFolding (folding : Bool) : SessionM δ Unit :=
  modify fun s => { s with commands := { s.commands with folding := folding } }

def addCommand (name description : String) (specs : List ParameterSpec) (handler : Handler δ) :
    SessionM δ Unit := do
  match Command.build description specs handler with
  | .error f => raiseFault f
  | .ok command => register name (.command command)

/-- The name a function is registered under if it is given none. -/
def nameOfFunction (function : String) : String :=
  function.map fun c => if c == '_' then '-' else c

/-- Registers a function as a command. Its own name and documentation stand in for a name or a
description that is not given; an empty name is none. -/
def addFunction (function : String) (documentation name description : Option String)
    (specs : List ParameterSpec) (run : Arguments → Action δ) : SessionM δ Unit :=
  let given := name.getD ""
  addCommand (if given == "" then nameOfFunction function else given)
    (Text.strip (description.getD (documentation.getD ""))) specs ⟨.named function, run⟩

def noteFailure (shown : String) : SessionM δ Unit :=
  note (.debug sessionChannel [.fixed "Statement failed: ", .filled shown])

def reportError (e : ShellError) : SessionM δ Unit := do
  noteFailure e.shown
  printStyled .red ("Error: " ++ e.message)

def complete (s : Session δ) (line : String) : List String :=
  Completion.suggest s.commands.names line

def readHistory : SessionM δ Nat := do
  let s ← get
  let (count, history) ← ofExcept (s.history.load s.files)
  set { s with history := history }
  match count with
  | none =>
    note (.debug historyChannel [.fixed "No history file at ", .filled s.history.path])
    pure 0
  | some n =>
    note (.debug historyChannel [.fixed "Loaded ", .filled (toString n),
      .fixed " history entries from ", .filled s.history.path])
    pure n

def writeHistory : SessionM δ Unit := do
  let s ← get
  let (files, failure) := s.history.save s.files
  set { s with files := files }
  match failure with
  | some e => throw e
  | none =>
    note (.debug historyChannel [.fixed "Saved ", .filled (toString s.history.entries.length),
      .fixed " history entries to ", .filled s.history.path])

def warnOfHistory (doing : String) (x : SessionM δ Unit) : SessionM δ Unit :=
  tryCatch x fun
    | .shell (.historyFile path cause) => do
      note (.debug sessionChannel [.filled (ShellError.historyFile path cause).message])
      printStyled .yellow ("Error " ++ doing ++ " history file: " ++ cause.message)
    | e => throw e

def loadHistory : SessionM δ Unit := warnOfHistory "reading" (discard readHistory)

def saveHistory : SessionM δ Unit := warnOfHistory "writing" writeHistory

end Session
end CommandShell
