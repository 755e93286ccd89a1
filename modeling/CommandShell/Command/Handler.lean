import CommandShell.Argument
import CommandShell.Command.Signature
import CommandShell.Registry

/-! What a command does. A handler is given its arguments and answers with an action, a tree of
operations on the session that ends with an outcome or by raising; nested lines, registrations and
lines put into the history are operations like any other. A handler that changes the prompter or the
editor of its session, or runs a loop inside the loop, is none of these. -/

namespace CommandShell

structure CommandResult where
  ok : Bool
  message : String
  deriving DecidableEq, Repr

def CommandResult.text (r : CommandResult) : String :=
  if r.message != "" then r.message else if r.ok then "ok" else "error"

inductive Outcome
  | nothing
  | text (s : String)
  | result (r : CommandResult)
  | value (v : Value)
  deriving Repr

structure View (δ : Type) where
  name : String
  data : δ
  commands : Registry Signature
  history : List String

inductive Origin
  | bundled
  | named (name : String)
  deriving DecidableEq, Repr

inductive Action (δ : Type)
  | finish (outcome : Outcome)
  | fail (raised : Raised)
  | print (line : String) (next : Action δ)
  | look (next : View δ → Action δ)
  | store (data : δ) (next : Action δ)
  | fold (folding : Bool) (next : Action δ)
  | append (line : String) (next : Action δ)
  | register (name : String) (origin : Origin) (offered : Export Signature)
      (run : Arguments → Action δ) (next : Option RegistrationError → Action δ)
  | execute (line : String) (next : Except Raised Bool → Action δ)

namespace Action

variable {δ : Type}

def succeed (message : String) : Action δ := finish (.result ⟨true, message⟩)

def refuse (message : String) : Action δ := finish (.result ⟨false, message⟩)

def printAll (lines : List String) (next : Action δ) : Action δ := lines.foldr print next

end Action

structure Handler (δ : Type) where
  origin : Origin
  run : Arguments → Action δ

structure Command (δ : Type) where
  signature : Signature
  handler : Handler δ

namespace Command

variable {δ : Type}

def bundled (signature : Signature) (run : Arguments → Action δ) : Command δ :=
  ⟨signature, ⟨.bundled, run⟩⟩

/-- Builds a command from declarations of its parameters. -/
def build (description : String) (specs : List ParameterSpec) (handler : Handler δ) :
    Except Fault (Command δ) :=
  match Signature.build description specs with
  | .ok s => .ok ⟨s, handler⟩
  | .error e => .error e.fault

end Command

def Arguments.getD (arguments : Arguments) (name default : String) : String :=
  (Entries.find? arguments name).getD default

end CommandShell
