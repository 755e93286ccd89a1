import CommandShell.Text.Escape

/-! Where a session prints. A terminal gets lines as they are, anything else gets them without
escape sequences. -/

namespace CommandShell

structure Output where
  isTerminal : Bool
  written : String
  deriving DecidableEq, Repr

namespace Output

def visible (isTerminal : Bool) (s : String) : String :=
  if isTerminal then s else Text.stripEscapes s

def printLine (o : Output) (s : String) : Output :=
  { o with written := o.written ++ visible o.isTerminal s ++ "\n" }

def write (o : Output) (s : String) : Output := { o with written := o.written ++ s }

end Output
end CommandShell
