import CommandShell.Files
import CommandShell.Text.Blank
import CommandShell.Text.Lines

/-! The lines typed so far, oldest first, kept in a file with one line per record. Only the newest
ones, up to a limit, are retained, and blank lines are no entries. Lines are rows of characters, and
half of a surrogate pair is none, so that every line can be written. -/

namespace CommandShell

def newest {α : Type} (n : Nat) (xs : List α) : List α := xs.drop (xs.length - n)

structure History where
  path : String
  limit : Nat
  entries : List String
  limit_pos : 0 < limit
  deriving DecidableEq, Repr

namespace History

def standardLimit : Nat := 1000

def limitMessage (limit : Int) : String :=
  "history limit must be positive, got " ++ toString limit

def atPath (path : String) (limit : Int) : Except Fault History :=
  if h : 0 < limit then .ok ⟨path, limit.toNat, [], by omega⟩
  else .error (.value (limitMessage limit))

def standard (path : String) : History := ⟨path, standardLimit, [], by decide⟩

def append (h : History) (line : String) : History :=
  if Text.isBlankText line then h
  else { h with entries := newest h.limit (h.entries ++ [line]) }

def recordsOf (content : String) : List String :=
  (Text.splitLines (String.ofList (Text.unifyLineEnds content.toList))).filter
    (!Text.isBlankText ·)

def prepend (h : History) (records : List String) : History :=
  { h with entries := newest h.limit (records ++ h.entries) }

/-- The records in the file; none if there is no file. A file that is no text is a fault of its
own, while every other refusal is reported as a failure of the history file. -/
def readRecords (h : History) (fs : Files) : Except Raised (Option (List String)) :=
  match fs.read h.path with
  | .ok bytes =>
    match Text.Utf8.decode bytes with
    | .ok content => .ok (some (recordsOf content))
    | .error e => .error (.fault (.undecodable e))
  | .error (.file (.missing _)) => .ok none
  | .error (.file f) => .error (.shell (.historyFile h.path f))
  | .error f => .error (.fault f)

/-- Reads the file and puts its records in front; also the number of records, none if there is no
file. -/
def load (h : History) (fs : Files) : Except Raised (Option Nat × History) :=
  match h.readRecords fs with
  | .ok (some records) => .ok (some records.length, h.prepend records)
  | .ok none => .ok (none, h)
  | .error e => .error e

def content (h : History) : String := String.join (h.entries.map (· ++ "\n"))

def save (h : History) (fs : Files) : Files × Option Raised :=
  match fs.writeBelow h.path (Text.Utf8.encode h.content) with
  | (fs, none) => (fs, none)
  | (fs, some (.file f)) => (fs, some (.shell (.historyFile h.path f)))
  | (fs, some f) => (fs, some (.fault f))

end History
end CommandShell
