import CommandShell.Session.Dispatch

/-! The interactive loop. A line editor is given as a script: whether its set-up raises, what each
read yields, and what every later read raises. However the loop ends, the history is written and
the editor released. -/

namespace CommandShell

inductive SessionExit
  | cancelled
  | endOfInput
  | interrupted
  | notPrepared
  deriving DecidableEq, Repr

def SessionExit.text : SessionExit → String
  | cancelled => "cancelled"
  | endOfInput => "eof"
  | interrupted => "interrupted"
  | notPrepared => "init_failed"

def SessionExit.code : SessionExit → Nat
  | cancelled | endOfInput => 0
  | interrupted => 130
  | notPrepared => 1

/-- What a line editor does. A plain editor writes its prompts to the session's output. -/
structure EditorScript where
  setUp : Option Raised
  reads : List (Except Raised String)
  afterwards : Raised
  showsPrompts : Bool

namespace Session

variable {δ : Type}

def modifyEditor (f : EditorTrace → EditorTrace) : SessionM δ Unit :=
  modify fun s => { s with editor := f s.editor }

def setUpEditor (script : EditorScript) : SessionM δ Unit := do
  match script.setUp with
  | some e => throw e
  | none =>
    modify fun s => { s with
      editor := { s.editor with handed := some s.history.entries, completing := s.completion } }

def prompt (showsPrompts : Bool) : SessionM δ Unit := do
  let s ← get
  let text ← ofExcept (s.prompter s.view)
  modifyEditor fun t => { t with prompts := t.prompts ++ [text] }
  if showsPrompts then modify fun s => { s with output := s.output.write text }

def readLine (showsPrompts : Bool) (event : Except Raised String) (reads : Nat) :
    SessionM δ (Option String) :=
  tryCatch
    (do
      prompt showsPrompts
      modifyEditor fun t => { t with reads := t.reads + reads }
      some <$> ofExcept event)
    fun e => if e.isEndOfInput then pure none else throw e

/-- One turn of the loop: a line is read, remembered and executed. Says how the loop ends, if it
does. -/
def turn (showsPrompts : Bool) (event : Except Raised String) (reads : Nat) :
    SessionM δ (Option SessionExit) := do
  match ← readLine showsPrompts event reads with
  | none => pure (some .endOfInput)
  | some line =>
    modify fun s => { s with history := s.history.append line }
    if ← executeLine line then pure (some .cancelled) else pure none

def turns (script : EditorScript) : List (Except Raised String) → SessionM δ SessionExit
  | [] => do
    let exit ← turn script.showsPrompts (.error script.afterwards) 0
    pure (exit.getD .endOfInput)
  | event :: rest => do
    match ← turn script.showsPrompts event 1 with
    | some exit => pure exit
    | none => turns script rest

def interruptible (x : SessionM δ SessionExit) : SessionM δ SessionExit :=
  tryCatch x fun
    | .interrupt (.keyboard _) => do
      print ""
      note (.debug sessionChannel [.fixed "Interrupted"])
      pure .interrupted
    | e => throw e

/-- Does something at the end, whether or not an operation raises. -/
def ensuring {α : Type} (last : SessionM δ Unit) (x : SessionM δ α) : SessionM δ α := do
  let result ← attempt x
  last
  ofExcept result

def release : SessionM δ Unit := modifyEditor fun t => { t with released := true }

/-- Gets ready to read lines: builds the splitters and loads the history. Says whether there is a
loop to run; splitters that cannot be built are reported. -/
def begin : SessionM δ Bool := do
  match ← attempt prepare with
  | .error (.shell (.initialization m)) =>
    note (.debug sessionChannel [.filled m])
    printStyled .red ("Error initializing cli: " ++ m)
    pure false
  | .error e => throw e
  | .ok _ =>
    loadHistory
    pure true

/-- Ends a loop in which reading and executing lines came to a result. -/
def conclude (result : Except Raised SessionExit) : SessionM δ SessionExit := do
  let exit ← ensuring release (ensuring saveHistory (interruptible (ofExcept result)))
  note (.debug sessionChannel [.fixed "Session ended: ", .filled exit.text])
  pure exit

def interact (script : EditorScript) : SessionM δ SessionExit := do
  setUpEditor script
  turns script script.reads

def loop (script : EditorScript) : SessionM δ SessionExit := do
  if ← begin then
    conclude (← attempt (interact script))
  else pure .notPrepared

/-- What becomes of the process when the loop is over: an interruption and a failed start end it. -/
def leave (exit : SessionExit) : SessionM δ SessionExit :=
  match exit with
  | .interrupted | .notPrepared => throw (.interrupt (.exit (.status exit.code)))
  | _ => pure exit

/-- Runs the loop, and leaves the process if it was interrupted or could not start. -/
def run (script : EditorScript) : SessionM δ SessionExit := do
  leave (← loop script)

end Session
end CommandShell
