import CommandShell.Entries
import CommandShell.Failure
import CommandShell.Text.Blank
import CommandShell.Text.Case

/-! The commands of a session by name, in the order of registration. Look-up is by exact name, and
in a folding registry also by any name with the same lower-case form. -/

namespace CommandShell

inductive Export (α : Type)
  | command (command : α)
  | foreign (kind : String)
  deriving DecidableEq, Repr

structure Registry (α : Type) where
  folding : Bool
  entries : Entries α

inductive RegistrationError
  | invalidName (name : String)
  | reserved (name : String)
  | notACommand (name kind : String)
  deriving DecidableEq, Repr

def RegistrationError.fault : RegistrationError → Fault
  | invalidName name => .value ("Invalid command name: " ++ Text.quoted name)
  | reserved name => .value ("'" ++ name ++ "' is reserved and cannot be registered.")
  | notACommand name kind => .type ("Expected CommandDescriptor for '" ++ name ++ "', got " ++ kind)

def reservedNames : List String := ["exit", "quit"]

def isReserved (name : String) : Bool := reservedNames.contains name

namespace Registry

variable {α β : Type}

def empty (folding : Bool) : Registry α := ⟨folding, []⟩

def names (r : Registry α) : List String := Entries.keys r.entries

/-- The registered spelling of a name: the name itself if it is registered, else, in a folding
registry, the first name that differs in case alone. -/
def resolve (r : Registry α) (name : String) : Option String :=
  if name ∈ r.names then some name
  else if r.folding then r.names.find? fun n => Text.sameFolded n name
  else none

def get? (r : Registry α) (name : String) : Option α :=
  (r.resolve name).bind (Entries.find? r.entries)

def contains (r : Registry α) (name : String) : Bool := (r.resolve name).isSome

def checkName (name : String) : Option RegistrationError :=
  if name = "" ∨ Text.strip name ≠ name then some (.invalidName name)
  else if isReserved name then some (.reserved name)
  else none

/-- A folding registry keeps one spelling of each name, the last. -/
def insert (r : Registry α) (name : String) (value : α) : Registry α :=
  let kept := if r.folding
    then r.entries.filter fun p => !Text.sameFolded p.1 name
    else r.entries
  { r with entries := Entries.put kept name value }

def register (r : Registry α) (name : String) (offered : Export α) :
    Except RegistrationError (Registry α) :=
  match checkName name with
  | some e => .error e
  | none =>
    match offered with
    | .foreign kind => .error (.notACommand name kind)
    | .command value => .ok (r.insert name value)

def map (f : α → β) (r : Registry α) : Registry β :=
  ⟨r.folding, r.entries.map fun (name, value) => (name, f value)⟩

end Registry
end CommandShell
