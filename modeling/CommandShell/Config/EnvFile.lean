import CommandShell.Entries
import CommandShell.Text.Blank
import CommandShell.Text.Lines
import CommandShell.Text.Word

/-! Files of assignments, one a line: a name, an equals sign and a text that may stand in quotes.
Comments begin with a number sign; a line that assigns nothing is passed over. -/

namespace CommandShell.Config.EnvFile

def isQuote (c : Char) : Bool := c == '\'' || c == '"'

/-- A text that begins and ends with the same quote loses both; a quote alone is both. -/
def unwrap (cs : List Char) : List Char :=
  match cs.head?, cs.getLast? with
  | some first, some last => if first = last ∧ isQuote first then cs.tail.dropLast else cs
  | _, _ => cs

def isNameChar (c : Char) : Bool := c.isAlphanum || c == '_'

def assignment? (line : List Char) : Option (String × String) :=
  let name := line.takeWhile isNameChar
  if Text.isPlainName name then
    match Text.trimLeft (line.dropWhile isNameChar) with
    | '=' :: value => some (String.ofList name, String.ofList (unwrap (Text.trim value)))
    | _ => none
  else none

/-- The assignments of a text in order; a comment assigns nothing, as no name begins so. -/
def assignments (text : String) : List (String × String) :=
  (Text.linesOf text.toList).filterMap fun line => assignment? (Text.trim line)

def read (text : String) : Entries String := Entries.ofList (assignments text)

end CommandShell.Config.EnvFile
