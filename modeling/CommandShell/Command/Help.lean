import CommandShell.Command.Handler
import CommandShell.Command.Lookup
import CommandShell.Table

/-! The help command: it lists all commands, or describes one. -/

namespace CommandShell.Help

def orElse (s fallback : String) : String := if s == "" then fallback else s

def describe (name : String) (s : Signature) : List String :=
  ["Command:     " ++ name,
    "Description: " ++ orElse s.description "(none)",
    "Usage:       " ++ s.usage name] ++
  if s.parameters.isEmpty then ["Arguments:   (none)"]
  else
    ["Arguments:",
      Table.standard ["Name", "Description", "Default"]
        (s.parameters.map fun p => [p.name, p.help, orElse p.default "-"])]

def footer : String := "Use 'help <command>' to get help for a specific command"

def listing (commands : Registry Signature) : List String :=
  if commands.entries.isEmpty then ["No commands registered."]
  else
    ["Commands:",
      Table.standard ["Command", "Description"]
        (commands.entries.map fun (name, s) => [name, s.description]),
      footer]

variable {δ : Type}

def describeCommand (name : String) : Action δ :=
  .look fun view =>
    match view.commands.lookup name with
    | .error e => .fail (.shell e)
    | .ok (registered, s) => .printAll (describe registered s) (.finish .nothing)

def listCommands : Action δ :=
  .look fun view => .printAll (listing view.commands) (.finish .nothing)

def run (arguments : Arguments) : Action δ :=
  let target := arguments.getD "command" ""
  if target == "" then listCommands else describeCommand target

def signature : Signature :=
  ⟨"Get help for a command", [⟨"command", "Command to get help for", ""⟩], by decide⟩

def command : Command δ := .bundled signature run

end CommandShell.Help
