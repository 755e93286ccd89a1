import CommandShell.Proofs.History.Records
import CommandShell.Proofs.Text.Escape
import CommandShell.Table
import Mathlib.Data.List.Induction
import Mathlib.Order.Bounds.Lattice
import Mathlib.Tactic.Ring

/-! How a table lines up. The width of a column is the greatest visible length in it, so that every
cell has its column and fits there; and since neither a bar nor a blank belongs to an escape
sequence, what a line shows is what its cells show, each filled up to its width between two bars. -/

namespace CommandShell.Table

open Text (Unbroken)

def lengthsIn (rows : List (List String)) (i : Nat) : Set Nat :=
  {n | ∃ row ∈ rows, ∃ cell, row[i]? = some cell ∧ n = Text.visibleLength cell}

theorem getElem?_widen (widths lengths : List Nat) (i : Nat) :
    (widen widths lengths)[i]? = Option.merge max widths[i]? lengths[i]? := by
  induction widths generalizing lengths i with
  | nil => simp [widen]
  | cons w widths ih =>
    cases lengths with
    | nil => simp [widen]
    | cons n lengths =>
      cases i with
      | zero => simp [widen]
      | succ i => simpa [widen] using ih lengths i

theorem length_widen (widths lengths : List Nat) :
    (widen widths lengths).length = max widths.length lengths.length := by
  induction widths generalizing lengths with
  | nil => simp [widen]
  | cons w widths ih =>
    cases lengths with
    | nil => simp [widen]
    | cons n lengths => simp [widen, ih, Nat.add_max_add_right]

structure Fits (widths : List Nat) (rows : List (List String)) : Prop where
  covers : ∀ row ∈ rows, row.length ≤ widths.length
  greatest : ∀ i w, widths[i]? = some w → IsGreatest (lengthsIn rows i) w

theorem columnWidths_concat (rows : List (List String)) (row : List String) :
    columnWidths (rows ++ [row]) = widen (columnWidths rows) (row.map Text.visibleLength) := by
  simp [columnWidths]

theorem lengthsIn_concat (rows : List (List String)) (row : List String) (i : Nat) :
    lengthsIn (rows ++ [row]) i = lengthsIn rows i ∪ lengthsIn [row] i := by
  ext n
  simp [lengthsIn, or_and_right, exists_or]

theorem lengthsIn_of_none {row : List String} {i : Nat} (h : row[i]? = none) :
    lengthsIn [row] i = ∅ := by
  simp [lengthsIn, h]

theorem lengthsIn_of_some {row : List String} {i : Nat} {cell : String} (h : row[i]? = some cell) :
    lengthsIn [row] i = {Text.visibleLength cell} := by
  ext n
  simp [lengthsIn, h]

theorem Fits.lengthsIn_eq_empty {widths : List Nat} {rows : List (List String)}
    (h : Fits widths rows) {i : Nat} (beyond : widths[i]? = none) : lengthsIn rows i = ∅ := by
  rw [Set.eq_empty_iff_forall_notMem]
  rintro n ⟨row, hrow, cell, hcell, -⟩
  have short := (h.covers row hrow).trans (List.getElem?_eq_none_iff.mp beyond)
  rw [List.getElem?_eq_none short] at hcell
  cases hcell

theorem Fits.widen {widths : List Nat} {rows : List (List String)} (h : Fits widths rows)
    (row : List String) : Fits (widen widths (row.map Text.visibleLength)) (rows ++ [row]) where
  covers other hother := by
    rw [length_widen, List.length_map]
    rcases List.mem_append.mp hother with hother | hother
    · exact (h.covers other hother).trans (le_max_left _ _)
    · rw [List.mem_singleton.mp hother]
      exact le_max_right _ _
  greatest i w hw := by
    rw [getElem?_widen, List.getElem?_map] at hw
    rw [lengthsIn_concat]
    cases hcell : row[i]? with
    | none =>
      rw [hcell] at hw
      rw [lengthsIn_of_none hcell, Set.union_empty]
      exact h.greatest i w (by simpa using hw)
    | some cell =>
      rw [lengthsIn_of_some hcell]
      cases hwidth : widths[i]? with
      | none =>
        obtain rfl : Text.visibleLength cell = w := by simpa [hcell, hwidth] using hw
        rw [h.lengthsIn_eq_empty hwidth, Set.empty_union]
        exact isGreatest_singleton
      | some before =>
        obtain rfl : max before (Text.visibleLength cell) = w := by
          simpa [hcell, hwidth] using hw
        exact (h.greatest i before hwidth).union isGreatest_singleton

theorem fits_columnWidths (rows : List (List String)) : Fits (columnWidths rows) rows := by
  induction rows using List.reverseRecOn with
  | nil => exact ⟨by simp, by simp [columnWidths]⟩
  | append_singleton rows row ih =>
    rw [columnWidths_concat]
    exact ih.widen row

/-- How far to the right the bar after the first cells stands. -/
def barAt (padding : Nat) (widths : List Nat) (cells : Nat) : Nat :=
  ((widths.take cells).map fun w => w + 2 * padding + 1).sum

theorem stripFrom_append_spaces (cs : List Char) (n : Nat) :
    Text.stripFrom 0 (cs ++ List.replicate n ' ') =
      Text.stripFrom 0 cs ++ List.replicate n ' ' := by
  cases n with
  | zero => simp
  | succ n =>
    have plain : Text.escape ∉ List.replicate n ' ' := by simp [Text.escape]
    have blanks := Text.stripFrom_append_of_not_mem plain []
    rw [List.replicate_succ, Text.stripFrom_append_kept (by decide) (by decide)]
    simpa [Text.stripFrom] using blanks

theorem stripFrom_spaces_append (n : Nat) (cs : List Char) :
    Text.stripFrom 0 (List.replicate n ' ' ++ cs) =
      List.replicate n ' ' ++ Text.stripFrom 0 cs :=
  Text.stripFrom_append_of_not_mem (by simp [Text.escape]) cs

theorem visibleLength_renderCell {padding w : Nat} {cell : String}
    (fits : Text.visibleLength cell ≤ w) :
    Text.visibleLength (renderCell padding w cell) = w + 2 * padding := by
  have shown : Text.stripFrom 0 (renderCell padding w cell).toList =
      List.replicate padding ' ' ++ (Text.stripFrom 0 cell.toList ++
        List.replicate (w - Text.visibleLength cell) ' ' ++ List.replicate padding ' ') := by
    simp only [renderCell, spaces, String.toList_append, String.toList_ofList, List.append_assoc]
    rw [stripFrom_spaces_append, ← List.append_assoc cell.toList, stripFrom_append_spaces,
      stripFrom_append_spaces, List.append_assoc]
  rw [Text.visibleLength, shown]
  simp only [List.length_append, List.length_replicate]
  rw [← Text.visibleLength]
  omega

def between (parts : List (List Char)) : List Char := '|' :: parts.flatMap (· ++ ['|'])

theorem between_cons (part : List Char) (parts : List (List Char)) :
    between (part :: parts) = '|' :: (part ++ between parts) := by
  simp [between]

theorem stripFrom_between (parts : List (List Char)) :
    Text.stripFrom 0 (between parts) = between (parts.map (Text.stripFrom 0)) := by
  induction parts with
  | nil => rfl
  | cons part parts ih =>
    rw [List.map_cons, between_cons, between_cons, ← ih,
      Text.stripFrom_cons_of_ne (by decide)]
    rw [between, Text.stripFrom_append_kept (by decide) (by decide),
      Text.stripFrom_cons_of_ne (by decide)]

theorem toList_intercalate_bar {cells : List String} (hne : cells ≠ []) :
    ("|" ++ "|".intercalate cells ++ "|").toList = between (cells.map String.toList) := by
  induction cells with
  | nil => exact absurd rfl hne
  | cons cell cells ih =>
    rw [List.map_cons, between_cons]
    cases cells with
    | nil => simp [between]
    | cons next cells =>
      rw [← ih (List.cons_ne_nil _ _)]
      simp [String.intercalate_cons_cons]

theorem length_between (parts : List (List Char)) :
    (between parts).length = (parts.map fun part => part.length + 1).sum + 1 := by
  induction parts with
  | nil => rfl
  | cons part parts ih =>
    rw [between_cons, List.length_cons, List.length_append, ih]
    simp
    omega

theorem getElem?_between {parts : List (List Char)} {j : Nat} (hj : j ≤ parts.length) :
    (between parts)[((parts.take j).map fun part => part.length + 1).sum]? = some '|' := by
  induction parts generalizing j with
  | nil => simp [between]
  | cons part parts ih =>
    cases j with
    | zero => rfl
    | succ j =>
      rw [between_cons, List.take_succ_cons, List.map_cons, List.sum_cons]
      have place : part.length + 1 + ((parts.take j).map fun part => part.length + 1).sum =
          (part.length + ((parts.take j).map fun part => part.length + 1).sum) + 1 := by omega
      rw [place, List.getElem?_cons_succ, List.getElem?_append_right (Nat.le_add_right _ _),
        Nat.add_sub_cancel_left]
      exact ih (Nat.le_of_succ_le_succ hj)

structure Aligned (padding : Nat) (widths : List Nat) (cells : Nat) (line : String) : Prop where
  length : Text.visibleLength line = barAt padding widths cells + 1
  bars : ∀ j ≤ cells, (Text.stripEscapes line).toList[barAt padding widths j]? = some '|'

def FitsRow (widths : List Nat) (row : List String) : Prop :=
  ∀ (i : Nat) (cell : String), row[i]? = some cell →
    ∃ w, widths[i]? = some w ∧ Text.visibleLength cell ≤ w

theorem Fits.row {widths : List Nat} {rows : List (List String)} (h : Fits widths rows)
    {row : List String} (hrow : row ∈ rows) : FitsRow widths row := by
  intro i cell hcell
  have inside : i < widths.length := by
    obtain ⟨hi, -⟩ := List.getElem?_eq_some_iff.mp hcell
    exact lt_of_lt_of_le hi (h.covers row hrow)
  refine ⟨widths[i], List.getElem?_eq_getElem inside, ?_⟩
  exact (h.greatest i _ (List.getElem?_eq_getElem inside)).2 ⟨row, hrow, cell, hcell, rfl⟩

theorem Fits.length_le {widths : List Nat} {rows : List (List String)} (h : Fits widths rows)
    {n : Nat} (uniform : ∀ row ∈ rows, row.length = n) : widths.length ≤ n := by
  by_contra more
  have inside : n < widths.length := Nat.lt_of_not_le more
  obtain ⟨row, hrow, cell, hcell, -⟩ := (h.greatest n _ (List.getElem?_eq_getElem inside)).1
  obtain ⟨beyond, -⟩ := List.getElem?_eq_some_iff.mp hcell
  rw [uniform row hrow] at beyond
  exact lt_irrefl n beyond

theorem FitsRow.length_le {widths : List Nat} {row : List String} (h : FitsRow widths row) :
    row.length ≤ widths.length := by
  by_contra long
  have inside : widths.length < row.length := Nat.lt_of_not_le long
  obtain ⟨w, hw, -⟩ := h widths.length _ (List.getElem?_eq_getElem inside)
  simp at hw

theorem map_visibleLength_zipWith (padding : Nat) {widths : List Nat} {row : List String}
    (h : FitsRow widths row) :
    (List.zipWith (renderCell padding) widths row).map Text.visibleLength =
      (widths.take row.length).map fun w => w + 2 * padding := by
  induction row generalizing widths with
  | nil => simp
  | cons cell row ih =>
    obtain ⟨w, hw, fits⟩ := h 0 cell rfl
    cases widths with
    | nil => cases hw
    | cons w' widths =>
      obtain rfl : w' = w := by simpa using hw
      have rest : FitsRow widths row := fun i cell hcell => by simpa using h (i + 1) cell hcell
      simp [visibleLength_renderCell fits, ih rest]

theorem aligned_renderRow {padding : Nat} {widths : List Nat} {row : List String}
    (h : FitsRow widths row) (hne : row ≠ []) :
    Aligned padding widths row.length (renderRow padding widths row) := by
  let cells := List.zipWith (renderCell padding) widths row
  let parts := cells.map fun cell => Text.stripFrom 0 cell.toList
  have steps : parts.map (fun part => part.length + 1) =
      (widths.take row.length).map fun w => w + 2 * padding + 1 := by
    have lengths := congrArg (List.map (· + 1)) (map_visibleLength_zipWith padding h)
    simpa [parts, cells, Function.comp_def, Text.visibleLength] using lengths
  have count : parts.length = row.length := by
    simp [parts, cells, h.length_le]
  have nonempty : cells ≠ [] := by
    intro hnil
    simp only [parts, hnil, List.map_nil, List.length_nil] at count
    exact hne (List.length_eq_zero_iff.mp count.symm)
  have shown : Text.stripFrom 0 (renderRow padding widths row).toList = between parts := by
    rw [renderRow, toList_intercalate_bar nonempty, stripFrom_between, List.map_map]
    rfl
  have places (j : Nat) (hj : j ≤ row.length) :
      ((parts.take j).map fun part => part.length + 1).sum = barAt padding widths j := by
    rw [List.map_take, steps, ← List.map_take, List.take_take, Nat.min_eq_left hj, barAt]
  constructor
  · rw [Text.visibleLength, shown, length_between, ← places _ (Nat.le_refl _), ← count,
      List.take_length]
  · intro j hj
    rw [← places j hj, Text.stripEscapes, String.toList_ofList, shown]
    exact getElem?_between (count ▸ hj)

theorem visibleLength_dashes (n : Nat) : Text.visibleLength (dashes n) = n := by
  have plain : Text.escape ∉ List.replicate n '-' := by simp [Text.escape]
  have shown := Text.stripFrom_append_of_not_mem plain []
  rw [List.append_nil] at shown
  simp [Text.visibleLength, dashes, shown, Text.stripFrom]

theorem fitsRow_dashes (widths : List Nat) : FitsRow widths (widths.map dashes) := by
  intro i cell hcell
  rw [List.getElem?_map, Option.map_eq_some_iff] at hcell
  obtain ⟨w, hw, rfl⟩ := hcell
  exact ⟨w, hw, (visibleLength_dashes w).le⟩

theorem barAt_of_length_le {padding : Nat} {widths : List Nat} {cells : Nat}
    (h : widths.length ≤ cells) :
    barAt padding widths cells = barAt padding widths widths.length := by
  rw [barAt, barAt, List.take_of_length_le h, List.take_length]

theorem barAt_length (padding : Nat) (widths : List Nat) :
    barAt padding widths widths.length =
      widths.foldr (· + ·) 0 + padding * 2 * widths.length + widths.length := by
  rw [barAt, List.take_length]
  induction widths with
  | nil => rfl
  | cons w widths ih =>
    rw [List.map_cons, List.sum_cons, ih, List.foldr_cons, List.length_cons]
    ring

theorem visibleLength_rule (padding : Nat) (widths : List Nat) :
    Text.visibleLength (rule padding widths) = barAt padding widths widths.length + 1 := by
  rw [rule, visibleLength_dashes, barAt_length]
  norm_cast

theorem unbroken_append {s t : String} (hs : Unbroken s) (ht : Unbroken t) : Unbroken (s ++ t) := by
  intro c hc
  rw [String.toList_append, List.mem_append] at hc
  exact hc.elim (hs c) (ht c)

theorem unbroken_intercalate {parts : List String} (h : ∀ part ∈ parts, Unbroken part) :
    Unbroken ("|".intercalate parts) := by
  induction parts with
  | nil => simp [Unbroken]
  | cons part parts ih =>
    obtain ⟨hpart, hparts⟩ := List.forall_mem_cons.mp h
    cases parts with
    | nil => simpa using hpart
    | cons next parts =>
      rw [String.intercalate_cons_cons]
      exact unbroken_append (unbroken_append hpart (by decide)) (ih hparts)

theorem unbroken_replicate {d : Char} (hd : Text.isLineBreak d = false) (n : Nat) :
    Unbroken (String.ofList (List.replicate n d)) := by
  intro c hc
  rw [String.toList_ofList] at hc
  rwa [List.eq_of_mem_replicate hc]

theorem unbroken_renderRow (padding : Nat) (widths : List Nat) {row : List String}
    (h : ∀ cell ∈ row, Unbroken cell) : Unbroken (renderRow padding widths row) := by
  have blanks (n : Nat) : Unbroken (spaces n) := unbroken_replicate (by decide) n
  have cells : ∀ part ∈ List.zipWith (renderCell padding) widths row, Unbroken part := by
    intro part hpart
    obtain ⟨i, hi⟩ := List.mem_iff_getElem?.mp hpart
    obtain ⟨w, cell, -, hcell, rfl⟩ := List.getElem?_zipWith_eq_some.mp hi
    have inner := unbroken_append (blanks padding) (h cell (List.mem_of_getElem? hcell))
    exact unbroken_append (unbroken_append inner (blanks _)) (blanks padding)
  exact unbroken_append (unbroken_append (by decide) (unbroken_intercalate cells)) (by decide)

theorem renderRow_ne_empty (padding : Nat) (widths : List Nat) (row : List String) :
    renderRow padding widths row ≠ "" := by
  simp [renderRow]

theorem rule_ne_empty (padding : Nat) (widths : List Nat) : rule padding widths ≠ "" := by
  intro h
  have length := visibleLength_rule padding widths
  rw [h] at length
  cases length

theorem lines_eq (padding : Nat) (border : Bool) (headers : Option (List String))
    (rows : List (List String)) :
    lines padding border headers rows =
      let widths := columnWidths (headers.toList ++ rows)
      let edge := if border then [rule padding widths] else []
      let heading := headers.toList.flatMap fun hs =>
        [renderRow padding widths hs, renderRow padding widths (widths.map dashes)]
      edge ++ heading ++ rows.map (renderRow padding widths) ++ edge := by
  cases headers <;> simp [lines]

theorem mem_lines {padding : Nat} {border : Bool} {headers : Option (List String)}
    {rows : List (List String)} {line : String} (h : line ∈ lines padding border headers rows) :
    let widths := columnWidths (headers.toList ++ rows)
    line = rule padding widths ∨
      headers.isSome ∧ line = renderRow padding widths (widths.map dashes) ∨
      ∃ row ∈ headers.toList ++ rows, line = renderRow padding widths row := by
  intro widths
  rw [lines_eq] at h
  simp only [List.mem_append, List.mem_flatMap, List.mem_map] at h
  have edge {l : List String} (hl : l = if border then [rule padding widths] else [])
      (hline : line ∈ l) : line = rule padding widths := by
    subst hl
    cases border <;> simp_all
  rcases h with ((hline | ⟨hs, hheaders, hline⟩) | ⟨row, hrow, rfl⟩) | hline
  · exact .inl (edge rfl hline)
  · have among := List.mem_append_left rows hheaders
    rcases List.mem_cons.mp hline with rfl | hline
    · exact .inr (.inr ⟨hs, among, rfl⟩)
    · have present := Option.isSome_of_mem (Option.mem_toList.mp hheaders)
      exact .inr (.inl ⟨present, List.mem_singleton.mp hline⟩)
  · exact .inr (.inr ⟨row, List.mem_append_right _ hrow, rfl⟩)
  · exact .inl (edge rfl hline)

theorem splitLines_format (padding : Nat) (border : Bool) (headers : Option (List String))
    (rows : List (List String))
    (unbroken : ∀ row ∈ headers.toList ++ rows, ∀ cell ∈ row, Unbroken cell) :
    Text.splitLines (format padding border headers rows) = lines padding border headers rows := by
  rw [format]
  apply Text.splitLines_intercalate
  intro line hline
  have dashed (n : Nat) : Unbroken (dashes n) := unbroken_replicate (by decide) n
  rcases mem_lines hline with rfl | ⟨-, rfl⟩ | ⟨row, hrow, rfl⟩
  · exact ⟨rule_ne_empty _ _, dashed _⟩
  · refine ⟨renderRow_ne_empty _ _ _, unbroken_renderRow _ _ fun cell hcell => ?_⟩
    obtain ⟨w, -, rfl⟩ := List.mem_map.mp hcell
    exact dashed w
  · exact ⟨renderRow_ne_empty _ _ _, unbroken_renderRow _ _ (unbroken row hrow)⟩

theorem visibleLength_of_mem_lines {padding : Nat} {border : Bool} {headers : Option (List String)}
    {rows : List (List String)} {n : Nat} (hn : 0 < n)
    (uniform : ∀ row ∈ headers.toList ++ rows, row.length = n) {line : String}
    (hline : line ∈ lines padding border headers rows) :
    Text.visibleLength line = barAt padding (columnWidths (headers.toList ++ rows)) n + 1 := by
  have fits := fits_columnWidths (headers.toList ++ rows)
  have atMost := fits.length_le uniform
  rcases mem_lines hline with rfl | ⟨present, rfl⟩ | ⟨row, hrow, rfl⟩
  · rw [visibleLength_rule, barAt_of_length_le atMost]
  · -- there is a header for each column
    obtain ⟨hs, hheaders⟩ := Option.isSome_iff_exists.mp present
    have among : hs ∈ headers.toList ++ rows := List.mem_append_left rows (by simp [hheaders])
    have count : (columnWidths (headers.toList ++ rows)).length = n :=
      le_antisymm atMost (uniform hs among ▸ fits.covers hs among)
    have nonempty : (columnWidths (headers.toList ++ rows)).map dashes ≠ [] := by
      rw [← List.length_pos_iff, List.length_map, count]
      exact hn
    rw [(aligned_renderRow (fitsRow_dashes _) nonempty).length, List.length_map, count]
  · have nonempty : row ≠ [] := by
      rw [← List.length_pos_iff, uniform row hrow]
      exact hn
    rw [(aligned_renderRow (fits.row hrow) nonempty).length, uniform row hrow]

/-- A table lines up, whatever its cells contain. Each cell has its column, and a column is as wide
as the longest of what its cells show. What a row of some cells shows has a bar before the first and
after each of them, in the same places for every row; and if all rows have the same number of cells,
every line of the table is equally long. What is drawn reads as these lines unless a cell has a line
break. -/
theorem format_aligned (padding : Nat) (border : Bool) (headers : Option (List String))
    (rows : List (List String)) :
    let all := headers.toList ++ rows
    let widths := columnWidths all
    let edge := if border then [rule padding widths] else []
    let heading := headers.toList.flatMap fun hs =>
      [renderRow padding widths hs, renderRow padding widths (widths.map dashes)]
    let drawn := edge ++ heading ++ rows.map (renderRow padding widths) ++ edge
    let table := format padding border headers rows
    Fits widths all ∧
    table = "\n".intercalate drawn ∧
    ((∀ row ∈ all, ∀ cell ∈ row, Unbroken cell) → Text.splitLines table = drawn) ∧
    (∀ row ∈ widths.map dashes :: all, row ≠ [] →
      Aligned padding widths row.length (renderRow padding widths row)) ∧
    ∀ n, 0 < n → (∀ row ∈ all, row.length = n) →
      ∀ line ∈ drawn, Text.visibleLength line = barAt padding widths n + 1 := by
  intro all widths edge heading drawn table
  have composed : lines padding border headers rows = drawn := lines_eq padding border headers rows
  have fits : Fits widths all := fits_columnWidths all
  refine ⟨fits, congrArg ("\n".intercalate ·) composed, ?_, ?_, ?_⟩
  · intro unbroken
    exact (splitLines_format padding border headers rows unbroken).trans composed
  · intro row hrow hne
    rcases List.mem_cons.mp hrow with rfl | hrow
    · exact aligned_renderRow (fitsRow_dashes widths) hne
    · exact aligned_renderRow (fits.row hrow) hne
  · intro n hn uniform line hline
    exact visibleLength_of_mem_lines hn uniform (composed ▸ hline)

theorem format_aligned_unfinished :
    let row := ["\x1b[", "\x1b[1mon\x1b[0m"]
    let widths := columnWidths [row, ["plain"]]
    widths = [5, 2] ∧ row ≠ [] ∧ Aligned 1 widths row.length (renderRow 1 widths row) := by
  intro row widths
  obtain ⟨-, -, -, aligned, -⟩ := format_aligned 1 true none [row, ["plain"]]
  have among : row ∈ widths.map dashes :: [row, ["plain"]] := by simp
  exact ⟨by decide, by decide, aligned row among (by decide)⟩

end CommandShell.Table
