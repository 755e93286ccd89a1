import CommandShell.Text.Case
import CommandShell.Text.WordTable

/-! The characters that make up a word: letters, numbers and the low line. -/

namespace CommandShell.Text

def isWordChar (c : Char) : Bool :=
  if c.toNat < 128 then c.isAlphanum || c == '_' else inRanges wordRanges c.toNat

def isNameStart (c : Char) : Bool := c.isAlpha || c == '_'

/-- A name of letters, digits and low lines of the basic alphabet that starts with no digit. -/
def isPlainName : List Char → Bool
  | [] => false
  | c :: rest => isNameStart c && rest.all fun d => d.isAlphanum || d == '_'

end CommandShell.Text
