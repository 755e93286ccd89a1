import CommandShell.Text.Blank
import CommandShell.Text.Case

/-! Completing a line that is being typed. The whole line but for blanks at its start is taken as
the beginning of a command name, in any case. -/

namespace CommandShell.Completion

def fits (typed name : String) : Bool :=
  (Text.lower typed).toList.isPrefixOf (Text.lower name).toList

/-- The names that begin as the line does, in the order of code points. -/
def suggest (names : List String) (line : String) : List String :=
  (names.filter (fits (Text.stripLeft line))).mergeSort fun a b => a ≤ b

structure Offer where
  name : String
  replaced : Nat
  deriving DecidableEq, Repr

def offers (names : List String) (beforeCursor : String) : List Offer :=
  (suggest names beforeCursor).map fun name => ⟨name, (Text.stripLeft beforeCursor).length⟩

def Offer.accept (o : Offer) (beforeCursor : String) : String :=
  String.ofList (beforeCursor.toList.take (beforeCursor.length - o.replaced) ++ o.name.toList)

end CommandShell.Completion
