import CommandShell.Text.Quoted
import CommandShell.Text.Utf8

/-! What can go wrong. A statement fails with a shell error or with a fault of another kind, which
the dispatcher turns into a shell error; an interrupt is neither and ends the session. Each kind
has a label, shown where one failure is reported inside another, and a message. -/

namespace CommandShell

inductive FileFault
  | missing (path : String)
  | alreadyExists (path : String)
  | notDirectory (path : String)
  | isDirectory (path : String)
  | other (message : String)
  deriving DecidableEq, Repr

namespace FileFault

def numbered (number : Nat) (reason path : String) : String :=
  "[Errno " ++ toString number ++ "] " ++ reason ++ ": " ++ Text.quoted path

def message : FileFault → String
  | missing p => numbered 2 "No such file or directory" p
  | alreadyExists p => numbered 17 "File exists" p
  | notDirectory p => numbered 20 "Not a directory" p
  | isDirectory p => numbered 21 "Is a directory" p
  | other m => m

def label : FileFault → String
  | missing _ => "FileNotFoundError"
  | alreadyExists _ => "FileExistsError"
  | notDirectory _ => "NotADirectoryError"
  | isDirectory _ => "IsADirectoryError"
  | other _ => "OSError"

end FileFault

inductive ShellError
  | general (message : String)
  | initialization (message : String)
  | tokenize (text reason : String)
  | unknownCommand (name : String) (closest : List String)
  | invalidArgument (token : String)
  | handler (command message : String)
  | historyFile (path : String) (cause : FileFault)
  deriving DecidableEq, Repr

namespace ShellError

def hint (closest : List String) : String :=
  if closest.isEmpty then "" else " (did you mean: " ++ ", ".intercalate closest ++ "?)"

def message : ShellError → String
  | general m => m
  | initialization m => m
  | tokenize text reason => "error splitting " ++ Text.quoted text ++ ": " ++ reason
  | unknownCommand name closest => "unknown command: " ++ name ++ hint closest
  | invalidArgument token => "invalid argument: " ++ token
  | handler _ m => m
  | historyFile path cause => "history file " ++ path ++ ": " ++ cause.message

def label : ShellError → String
  | general _ => "ShellError"
  | initialization _ => "InitializationError"
  | tokenize .. => "TokenizeError"
  | unknownCommand .. => "UnknownCommand"
  | invalidArgument _ => "InvalidArgument"
  | handler .. => "HandlerError"
  | historyFile .. => "HistoryIOError"

def shown (e : ShellError) : String := e.label ++ "(" ++ Text.quoted e.message ++ ")"

end ShellError

inductive Fault
  | value (message : String)
  | type (message : String)
  | runtime (message : String)
  | endOfInput (message : String)
  | undecodable (fault : Text.Utf8.Fault)
  | file (fault : FileFault)
  | named (label message : String)
  deriving DecidableEq, Repr

namespace Fault

def message : Fault → String
  | value m | type m | runtime m | endOfInput m | named _ m => m
  | undecodable f => f.message
  | file f => f.message

def label : Fault → String
  | value _ => "ValueError"
  | type _ => "TypeError"
  | runtime _ => "RuntimeError"
  | endOfInput _ => "EOFError"
  | undecodable _ => "UnicodeDecodeError"
  | file f => f.label
  | named label _ => label

def described (f : Fault) : String := f.label ++ ": " ++ f.message

/-- Something is nested too deep; `doing` says what was being done. -/
def tooDeep (doing : String) : Fault :=
  .named "RecursionError" ("maximum recursion depth exceeded" ++ doing)

end Fault

inductive ExitCode
  | status (code : Nat)
  | text (message : String)
  deriving DecidableEq, Repr

inductive Interrupt
  | keyboard (message : String)
  | exit (code : ExitCode)
  deriving DecidableEq, Repr

/-- What a failure without a message is an instance of. A failure of the shell may still have a
form for the log. -/
inductive Untold
  | shell (shown : Option String)
  | endOfInput
  | other
  deriving DecidableEq, Repr

/-- Anything that cuts an operation short. A failure whose message cannot be made is `untold`: to ask
for the message raises another one. -/
inductive Raised
  | shell (error : ShellError)
  | fault (fault : Fault)
  | interrupt (interrupt : Interrupt)
  | untold (kind : Untold) (failure : Raised)
  deriving DecidableEq, Repr

namespace Raised

def isOrdinary : Raised → Bool
  | interrupt _ => false
  | _ => true

def isEndOfInput : Raised → Bool
  | fault (.endOfInput _) => true
  | untold .endOfInput _ => true
  | _ => false

/-- The label and the message, or what is raised instead. -/
def described : Raised → Except Raised String
  | shell e => .ok (e.label ++ ": " ++ e.message)
  | fault f => .ok f.described
  | interrupt _ => .ok ""
  | untold _ failure => .error failure

end Raised

end CommandShell
