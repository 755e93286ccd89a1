import CommandShell.Config.Numeral
import CommandShell.Value.Basic

/-! A TOML document while it is read: its tables, and which of them may still be declared or added
to. A table is declared once; one made by dotted keys counts as declared when the next table
begins; arrays and tables written as values are closed. -/

namespace CommandShell.Config.Toml

abbrev Path := List String

/-- `declared` and `closed` are paths of tables; `made` are those that dotted keys have made since
the last header, `header`. -/
structure Document where
  root : Entries Value
  declared : List Path
  closed : List Path
  made : List Path
  header : Path

/-- Changes the table at a path, making the tables on the way; an array leads to its last table. -/
def changeAt (change : Entries Value → Option (Entries Value)) :
    Path → Entries Value → Option (Entries Value)
  | [], table => change table
  | name :: rest, table =>
    match Entries.find? table name with
    | none => (changeAt change rest []).map fun t => Entries.put table name (.table t)
    | some (.table inner) =>
      (changeAt change rest inner).map fun t => Entries.put table name (.table t)
    | some (.list items) =>
      match items.getLast? with
      | some (.table inner) =>
        (changeAt change rest inner).map fun t =>
          Entries.put table name (.list (items.dropLast ++ [.table t]))
      | _ => none
    | some _ => none

def setFree (name : String) (value : Value) (table : Entries Value) : Option (Entries Value) :=
  if (Entries.find? table name).isSome then none else some (Entries.put table name value)

/-- Adds an empty table to the array of a name, which is made if need be. -/
def appendTable (name : String) (table : Entries Value) : Option (Entries Value) :=
  match Entries.find? table name with
  | none => some (Entries.put table name (.list [.table []]))
  | some (.list items) => some (Entries.put table name (.list (items ++ [.table []])))
  | some _ => none

def splitLast (path : Path) : Path × String := (path.dropLast, path.getLastD "")

def isContainer : Value → Bool
  | .list _ | .table _ => true
  | _ => false

def isClosedBy (closed : List Path) (path : Path) : Bool := closed.any (·.isPrefixOf path)

namespace Document

def empty : Document := ⟨[], [], [], [], []⟩

/-- The tables that dotted keys have made count as declared. -/
def settle (d : Document) : Document := { d with declared := d.made ++ d.declared, made := [] }

def declare (d : Document) (path : Path) : Option Document :=
  if path ∈ d.declared ∨ isClosedBy d.closed path then none
  else (changeAt some path d.root).map fun root =>
    { d with root := root, declared := path :: d.declared, header := path }

/-- Begins a further table of an array. What was declared in the one before may be declared
again. -/
def declareItem (d : Document) (path : Path) : Option Document :=
  if isClosedBy d.closed path then none
  else
    let (above, name) := splitLast path
    (changeAt (appendTable name) above d.root).map fun root =>
      { d with
        root := root
        declared := path :: d.declared.filter (!path.isPrefixOf ·)
        closed := d.closed.filter (!path.isPrefixOf ·)
        header := path }

/-- The paths that a dotted key leads through, itself left out. -/
def way (header : Path) (key : Path) : List Path :=
  ((List.range key.length).drop 1).map fun n => header ++ key.take n

def assign (d : Document) (key : Path) (value : Value) : Option Document :=
  let (above, name) := splitLast key
  let through := way d.header key
  if through.any (d.declared.contains ·) ∨ isClosedBy d.closed (d.header ++ above) then none
  else (changeAt (setFree name value) (d.header ++ above) d.root).map fun root =>
    { d with
      root := root
      made := through ++ d.made
      closed := if isContainer value then (d.header ++ key) :: d.closed else d.closed }

end Document

structure Inline where
  fields : Entries Value
  closed : List Path

namespace Inline

def empty : Inline := ⟨[], []⟩

def assign (t : Inline) (key : Path) (value : Value) : Option Inline :=
  let (above, name) := splitLast key
  if isClosedBy t.closed key then none
  else (changeAt (setFree name value) above t.fields).map fun fields =>
    ⟨fields, if isContainer value then key :: t.closed else t.closed⟩

end Inline
end CommandShell.Config.Toml
