import CommandShell.Session.Basic
import CommandShell.Settings

/-! A session as its settings ask for. -/

namespace CommandShell.Session

variable {δ : Type}

/-- The prompter that settings ask for: their prompt, or the standard one. -/
def prompterOf (settings : Settings) : View δ → Except Raised String :=
  match settings.prompt with
  | some text => fun _ => .ok text
  | none => standardPrompt

/-- A session under the given settings; only the data and what surrounds it are left open. -/
def ofSettings (settings : Settings) (data : δ) (files : Files) (output : Output)
    (journal : Journal) : Session δ :=
  let s := fresh settings.projectName data (.standard settings.historyPath) files output journal
  { s.withHelp with
    commands := { s.withHelp.commands with folding := settings.caseInsensitive }
    completion := settings.enableCompletion
    prompter := prompterOf settings }

end CommandShell.Session
