import CommandShell.Text.Blank
import CommandShell.Text.Cut

/-! An input line holds statements that are cut at every semicolon, quoted or not. -/

namespace CommandShell.Statement

def separator : Char := ';'

/-- The statements of a line, trimmed; blank ones are left out. -/
def split (line : String) : List String :=
  (((Text.cutAt separator line.toList).map Text.trim).filter (!·.isEmpty)).map String.ofList

end CommandShell.Statement
