import CommandShell.Registry
import CommandShell.Text.Similarity

/-! Finding the command a word names. A word that names none is reported with the names most like
it, the reserved words among them. -/

namespace CommandShell.Registry

variable {α : Type}

def unknown (r : Registry α) (name : String) : ShellError :=
  .unknownCommand name (Text.closeMatches name (r.names ++ reservedNames))

/-- The registered spelling of a name and what is registered under it. -/
def lookup (r : Registry α) (name : String) : Except ShellError (String × α) :=
  match r.resolve name with
  | none => .error (r.unknown name)
  | some registered =>
    match Entries.find? r.entries registered with
    | none => .error (r.unknown name)
    | some value => .ok (registered, value)

end CommandShell.Registry
