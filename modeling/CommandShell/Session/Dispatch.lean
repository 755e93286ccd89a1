import CommandShell.Session.Basic
import CommandShell.Statement

/-! Running statements. Every function that may run a handler takes the meaning of a nested line as
an argument, so that its own definition needs no recursion on nesting; a line then runs at a depth
which bounds how far handlers may nest lines. -/

namespace CommandShell

abbrev Nested (δ : Type) := String → SessionM δ Bool

namespace Session

variable {δ : Type}

def attempt {α : Type} (x : SessionM δ α) : SessionM δ (Except Raised α) := fun s =>
  match x s with
  | .ok a s => .ok (.ok a) s
  | .error e s => .ok (.error e) s

def appendLine (line : String) : SessionM δ Unit := modify fun s =>
  { s with history := s.history.append line, appended := s.appended ++ [line] }

def runAction (nested : Nested δ) : Action δ → SessionM δ Outcome
  | .finish outcome => pure outcome
  | .fail raised => throw raised
  | .print line next => do
    print line
    runAction nested next
  | .look next => do
    let s ← get
    runAction nested (next s.view)
  | .store data next => do
    modify fun s => { s with data := data }
    runAction nested next
  | .fold folding next => do
    setFolding folding
    runAction nested next
  | .append line next => do
    appendLine line
    runAction nested next
  | .register name origin offered run next => do
    let s ← get
    let command := match offered with
      | .command signature => .command ⟨signature, ⟨origin, run⟩⟩
      | .foreign kind => .foreign kind
    match s.commands.register name command with
    | .error e => runAction nested (next (some e))
    | .ok commands =>
      set { s with commands := commands }
      runAction nested (next none)
  | .execute line next => do
    let result ← attempt (nested line)
    runAction nested (next result)

/-- What becomes of what a handler raises. A fault is the failure of its command, with its message;
one whose message cannot be made gives way to what that raises. All else passes. -/
def blamed (command : String) : Raised → Raised
  | .fault f => .shell (.handler command (command ++ ": " ++ f.described))
  | .untold .endOfInput failure | .untold .other failure => failure
  | e => e

def blame {α : Type} (command : String) (x : SessionM δ α) : SessionM δ α :=
  tryCatch x fun e => throw (blamed command e)

/-- Prints what an outcome says, and turns a failed result into the command's failure. -/
def report (command : String) (outcome : Outcome) : SessionM δ Outcome := do
  match outcome with
  | .result r =>
    if !r.ok then raiseShell (.handler command r.text)
    if r.message != "" then print r.message
  | .text s => if s != "" then print s
  | _ => pure ()
  pure outcome

def noteSurplus (value : String) : SessionM δ Unit :=
  note (.debug parserChannel [.fixed "Discarding extra argument ", .filled (Text.quoted value)])

def warnSurplus (command value : String) : SessionM δ Unit := do
  let warning := Binding.surplusMessage value
  note (.debug handlerChannel [.filled command, .fixed ": ", .filled warning])
  printStyled .yellow ("WARNING: " ++ warning)

def bindTokens (sp : Splitter) (signature : Signature) (tokens : List String) :
    SessionM δ Binding := do
  let (binding, failure) := Binding.ofTokens sp signature.parameters tokens
  binding.surplus.forM noteSurplus
  match failure with
  | some e => raiseShell e
  | none => pure binding

def invoke (nested : Nested δ) (name : String) (command : Command δ) (arguments : Arguments) :
    SessionM δ Outcome := do
  note (.debug handlerChannel [.fixed "Dispatching ", .filled name, .fixed " with ",
    .filled (Text.quotedPairs arguments)])
  modify fun s => { s with
    invocations := s.invocations ++ [⟨name, command.handler.origin, arguments⟩] }
  let outcome ← blame name (runAction nested (command.handler.run arguments))
  report name outcome

/-- Runs one statement given by its tokens, quotes still on them. -/
def dispatch (nested : Nested δ) : List String → SessionM δ Outcome
  | [] => pure .nothing
  | first :: rest => do
    let sp ← getLineSplitter
    let word ← ofReading (sp.unquote first)
    let s ← get
    let (name, command) ← ofExcept ((s.commands.lookup word).mapError .shell)
    let fieldSplitter ← getArgumentSplitter
    let binding ← bindTokens fieldSplitter command.signature rest
    binding.surplus.forM (warnSurplus name)
    invoke nested name command binding.arguments

/-- Runs a statement; true if it says to end the session. -/
def runStatement (nested : Nested δ) (sp : Splitter) (statement : String) : SessionM δ Bool := do
  let tokens ← ofReading (sp.split statement)
  match tokens with
  | [] => pure false
  | first :: _ =>
    let word ← ofReading (sp.unquote first)
    if isReserved word then pure true
    else
      discard (dispatch nested tokens)
      pure false

/-- A failure of the shell is reported. One whose message cannot be made gets as far as the log. -/
def reported (x : SessionM δ Bool) : SessionM δ Bool :=
  tryCatch x fun
    | .shell e => do
      reportError e
      pure false
    | .untold (.shell shown) failure => do
      shown.forM noteFailure
      throw failure
    | e => throw e

def runStatements (nested : Nested δ) (sp : Splitter) : List String → SessionM δ Bool
  | [] => pure false
  | statement :: rest => do
    if ← reported (runStatement nested sp statement) then pure true
    else runStatements nested sp rest

def executeLineWith (nested : Nested δ) (line : String) : SessionM δ Bool := do
  let sp ← getLineSplitter
  runStatements nested sp (Statement.split line)

/-- How deep handlers may nest lines. -/
def nestingLimit : Nat := 197

def nestingFault : Fault := .tooDeep ""

/-- Executes a line whose handlers may nest lines to the given depth. -/
def executeAt : (depth : Nat) → Nested δ
  | 0 => executeLineWith fun _ => raiseFault nestingFault
  | depth + 1 => executeLineWith (executeAt depth)

def executeLine : String → SessionM δ Bool := executeAt nestingLimit

end Session
end CommandShell
