import CommandShell.Text.Blank
import CommandShell.Text.Quoted

/-! Cutting a text at a delimiter outside quotes. A text is first read as a list of atoms, which
say for every character whether it is quoted; a splitter then cuts, renders and trims atoms. The
quoting of a text therefore does not depend on the splitter's delimiter. -/

namespace CommandShell

inductive Atom
  | opening (quote : Char)
  | closing (quote : Char)
  | escaped (quote : Char)
  | quoted (c : Char)
  | bare (c : Char)
  deriving DecidableEq, Repr

namespace Atom

def backslash : Char := '\\'

/-- What a character that escapes nothing stands for, and the quote open after it. -/
def ofChar (quotes : List Char) (within : Option Char) (c : Char) : Atom × Option Char :=
  match within with
  | some q => if c = q then (closing c, none) else (quoted c, within)
  | none => if c ∈ quotes then (opening c, some c) else (bare c, none)

/-- Reads atoms, `within` being the quote open at the start; the second component is the quote
left open at the end. A backslash counts only before a quote character. -/
def read (quotes : List Char) (within : Option Char) : List Char → List Atom × Option Char
  | [] => ([], within)
  | [c] => ([(ofChar quotes within c).1], (ofChar quotes within c).2)
  | c :: q :: rest =>
    if c = backslash ∧ q ∈ quotes then
      let (atoms, opened) := read quotes within rest
      (escaped q :: atoms, opened)
    else
      let (atom, within) := ofChar quotes within c
      let (atoms, opened) := read quotes within (q :: rest)
      (atom :: atoms, opened)

/-- A character of a token, and whether it is literal: a literal blank is not trimmed. -/
abbrev Mark := Char × Bool

/-- What an atom leaves in a token; quotes and backslashes stay only on demand. -/
def marks (keepQuotes : Bool) : Atom → List Mark
  | opening q => if keepQuotes then [(q, true)] else []
  | closing q => if keepQuotes then [(q, true)] else []
  | escaped q => if keepQuotes then [(backslash, true), (q, true)] else [(q, true)]
  | quoted c => [(c, true)]
  | bare c => [(c, false)]

def isOpening : Atom → Bool
  | opening _ => true
  | _ => false

/-- Cuts at the bare characters that are boundaries; there is always at least one piece. -/
def cut (boundary : Char → Bool) : List Atom → List (List Atom)
  | [] => [[]]
  | a :: rest =>
    let more := cut boundary rest
    match a with
    | bare c => if boundary c then [] :: more else (bare c :: more.headD []) :: more.tail
    | a => (a :: more.headD []) :: more.tail

end Atom

def isTrimmable (m : Atom.Mark) : Bool := !m.2 && Text.isBlank m.1

def trimMarks (ms : List Atom.Mark) : List Atom.Mark :=
  ((ms.dropWhile isTrimmable).reverse.dropWhile isTrimmable).reverse

structure OpenQuote where
  text : String
  quote : Char
  deriving DecidableEq, Repr

def OpenQuote.reason (e : OpenQuote) : String :=
  "unterminated " ++ String.ofList [e.quote] ++ " quote"

/-- A delimiter is no quote and no backslash, so that cutting and quoting do not interfere. -/
structure Splitter where
  delimiter : Char
  quotes : List Char
  keepQuotes : Bool
  ignoreEmpties : Bool
  delimiter_not_quote : delimiter ∉ quotes
  delimiter_ne_backslash : delimiter ≠ Atom.backslash
  deriving DecidableEq, Repr

inductive SplitterError
  | delimiterLength (delimiter : String)
  | collision (delimiter : String)
  | quoteLength (quotes : List String)
  deriving DecidableEq, Repr

def SplitterError.message : SplitterError → String
  | .delimiterLength d => "delimiter must be a single character, got " ++ Text.quoted d
  | .collision d => "delimiter " ++ Text.quoted d ++ " collides with a quote or escape character"
  | .quoteLength qs => "quote characters must be single characters, got " ++
      Text.parenthesised (qs.map Text.quoted)

def single? (s : String) : Option Char :=
  match s.toList with
  | [c] => some c
  | _ => none

namespace Splitter

/-- A blank delimiter makes every blank a boundary. -/
def isBoundary (sp : Splitter) (c : Char) : Bool :=
  if Text.isBlank sp.delimiter then Text.isBlank c else c == sp.delimiter

/-- Builds a splitter. Unless told, it drops empty pieces just when the delimiter is blank. -/
def build (delimiter : String) (quotes : List String) (keepQuotes : Bool)
    (ignoreEmpties : Option Bool) : Except SplitterError Splitter :=
  match single? delimiter with
  | none => .error (.delimiterLength delimiter)
  | some d =>
    if delimiter ∈ quotes ∨ d = Atom.backslash then .error (.collision delimiter)
    else
      match quotes.mapM single? with
      | none => .error (.quoteLength quotes)
      | some qs =>
        if h : d ∉ qs ∧ d ≠ Atom.backslash then
          .ok ⟨d, qs, keepQuotes, ignoreEmpties.getD (Text.isBlank d), h.1, h.2⟩
        else .error (.collision delimiter)

def defaultQuotes : List String := ["\"", "'"]

/-- Cuts a statement into its command and arguments, quotes kept. -/
def forLine (quotes : List String) : Except SplitterError Splitter := build " " quotes true none

/-- Cuts an argument into its key and value, or reads it as a value alone. -/
def forArgument (quotes : List String) : Except SplitterError Splitter :=
  build "=" quotes false (some false)

def atoms (sp : Splitter) (text : String) : Except OpenQuote (List Atom) :=
  match Atom.read sp.quotes none text.toList with
  | (as, none) => .ok as
  | (_, some q) => .error ⟨text, q⟩

structure Piece where
  text : List Char
  quoted : Bool
  deriving DecidableEq, Repr

/-- Quotes around nothing make a piece that is not empty. -/
def Piece.isEmpty (p : Piece) : Bool := p.text.isEmpty && !p.quoted

def piece (sp : Splitter) (as : List Atom) : Piece :=
  ⟨(trimMarks (as.flatMap (Atom.marks sp.keepQuotes))).map (·.1), as.any Atom.isOpening⟩

def dropOuterEmpties (ps : List Piece) : List Piece :=
  let ps := if ps.head?.any Piece.isEmpty then ps.tail else ps
  if ps.getLast?.any Piece.isEmpty then ps.dropLast else ps

def select (sp : Splitter) (ps : List Piece) : List Piece :=
  if sp.ignoreEmpties then ps.filter (!·.isEmpty) else dropOuterEmpties ps

def split (sp : Splitter) (text : String) : Except OpenQuote (List String) :=
  (sp.atoms text).map fun as =>
    (sp.select ((Atom.cut sp.isBoundary as).map sp.piece)).map fun p => String.ofList p.text

def unquote (sp : Splitter) (text : String) : Except OpenQuote String :=
  (sp.atoms text).map fun as =>
    String.ofList ((trimMarks (as.flatMap (Atom.marks false))).map (·.1))

def words : Splitter := ⟨' ', ['"', '\''], false, true, by decide, by decide⟩

def fields : Splitter := ⟨'=', ['"', '\''], false, false, by decide, by decide⟩

theorem forArgument_defaultQuotes : forArgument defaultQuotes = .ok fields := rfl

def tokenize (text : String) : Except OpenQuote (List String) := words.split text

end Splitter
end CommandShell
