/-! Terminal escape sequences: an escape character, a bracket, parameters made of digits and
semicolons, and a letter. Text is wrapped in them for colour and freed of them for files. -/

namespace CommandShell.Text

def escape : Char := '\x1b'

def isParameterChar (c : Char) : Bool := c.isDigit || c == ';'

/-- What follows the bracket of a sequence: the length up to and including the letter. -/
def parametersLength (cs : List Char) : Option Nat :=
  match cs.dropWhile isParameterChar with
  | c :: _ => if c.isAlpha then some ((cs.takeWhile isParameterChar).length + 1) else none
  | [] => none

/-- The number of characters after `c` that complete an escape sequence begun by `c`. -/
def sequenceAfter (c : Char) (rest : List Char) : Option Nat :=
  match rest with
  | '[' :: more => if c = escape then (parametersLength more).map (· + 1) else none
  | _ => none

/-- Removes the sequences met from left to right. `skip` counts characters that belong to the
sequence just met. -/
def stripFrom (skip : Nat) : List Char → List Char
  | [] => []
  | c :: rest =>
    match skip with
    | skip + 1 => stripFrom skip rest
    | 0 =>
      match sequenceAfter c rest with
      | some n => stripFrom n rest
      | none => c :: stripFrom 0 rest

def stripEscapes (s : String) : String := String.ofList (stripFrom 0 s.toList)

def visibleLength (s : String) : Nat := (stripFrom 0 s.toList).length

inductive Style
  | reset | bold | dim | underline
  | red | green | yellow | blue | magenta | cyan | white
  | brightBlack | brightCyan
  deriving DecidableEq, Repr

def Style.code : Style → Nat
  | .reset => 0 | .bold => 1 | .dim => 2 | .underline => 4
  | .red => 31 | .green => 32 | .yellow => 33 | .blue => 34 | .magenta => 35 | .cyan => 36
  | .white => 37 | .brightBlack => 90 | .brightCyan => 96

def Style.sequence (style : Style) : String :=
  String.ofList (escape :: '[' :: (Nat.toDigits 10 style.code ++ ['m']))

def Style.ofName? : String → Option Style
  | "reset" => some .reset | "bold" => some .bold | "dim" => some .dim
  | "underline" => some .underline | "red" => some .red | "green" => some .green
  | "yellow" => some .yellow | "blue" => some .blue | "magenta" => some .magenta
  | "cyan" => some .cyan | "white" => some .white | "bright_black" => some .brightBlack
  | "bright_cyan" => some .brightCyan
  | _ => none

/-- Wraps a text in the sequences of its styles, with a reset after it; no style, no change. -/
def paint (styles : List Style) (s : String) : String :=
  if styles.isEmpty then s
  else String.join (styles.map Style.sequence) ++ s ++ Style.reset.sequence

/-- Paints by the names of styles; unknown names count for nothing. -/
def colorize (s : String) (names : List String) : String :=
  paint (names.filterMap Style.ofName?) s

end CommandShell.Text
