import CommandShell.Text.Escape

/-! Tables drawn with bars and dashes. Widths count visible characters, so that coloured cells line
up; rows may be of different lengths. -/

namespace CommandShell.Table

def widen : List Nat → List Nat → List Nat
  | w :: widths, n :: lengths => max w n :: widen widths lengths
  | [], lengths => lengths
  | widths, [] => widths

def columnWidths (rows : List (List String)) : List Nat :=
  rows.foldl (fun widths row => widen widths (row.map Text.visibleLength)) []

def spaces (n : Nat) : String := String.ofList (List.replicate n ' ')

def dashes (n : Nat) : String := String.ofList (List.replicate n '-')

/-- A cell filled up to its width, with padding on either side. -/
def renderCell (padding : Nat) (width : Nat) (cell : String) : String :=
  spaces padding ++ cell ++ spaces (width - Text.visibleLength cell) ++ spaces padding

def renderRow (padding : Nat) (widths : List Nat) (row : List String) : String :=
  "|" ++ "|".intercalate (List.zipWith (renderCell padding) widths row) ++ "|"

/-- The line above and below a table. A negative padding shortens it. -/
def rule (padding : Int) (widths : List Nat) : String :=
  dashes ((widths.foldr (· + ·) 0 : Nat) + padding * 2 * widths.length + (widths.length + 1)).toNat

/-- The lines of a table; `padding` below zero counts as none inside cells. -/
def lines (padding : Int) (border : Bool) (headers : Option (List String))
    (rows : List (List String)) : List String :=
  let widths := columnWidths (headers.toList ++ rows)
  let row := renderRow padding.toNat widths
  let edge := if border then [rule padding widths] else []
  let top := match headers with
    | some hs => [row hs, row (widths.map dashes)]
    | none => []
  edge ++ top ++ rows.map row ++ edge

def format (padding : Int) (border : Bool) (headers : Option (List String))
    (rows : List (List String)) : String :=
  "\n".intercalate (lines padding border headers rows)

/-- A table under the given headers with a border and single padding. -/
def standard (headers : List String) (rows : List (List String)) : String :=
  format 1 true (some headers) rows

end CommandShell.Table
