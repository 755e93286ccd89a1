import CommandShell.Failure
import CommandShell.Text.Case
import CommandShell.Value.Basic

/-! Nested tables as one flat table: a value inside tables goes under the path to it, its names
joined by low lines and put in upper case. Tables may be nested only so deep. -/

namespace CommandShell.Config

/-- A name below a path; below the empty path it stands alone. -/
def below (path name : String) : String := if path == "" then name else path ++ "_" ++ name

def tableFault : Fault := .tooDeep " in comparison"

/-- Adds the fields of a table at a path. A table inside it is flattened by itself first, while there
is `room` for one more inside the others. -/
def flattenInto (room : Nat) (path : String) (flat : Entries Value) :
    List (String × Value) → Except Fault (Entries Value)
  | [] => .ok flat
  | (name, .table fields) :: rest =>
    match room with
    | 0 => .error tableFault
    | inner + 1 => do
      let inside ← flattenInto inner (below path name) [] fields
      flattenInto (inner + 1) path (Entries.merge flat inside) rest
  | (name, value) :: rest =>
    flattenInto room path (Entries.put flat (Text.upper (below path name)) value) rest

def tableLimit : Nat := 990

-- the outermost table takes one place itself
def flatten : Value → Except Fault (Entries Value)
  | .table fields => flattenInto (tableLimit - 1) "" [] fields
  | _ => .ok []

end CommandShell.Config
