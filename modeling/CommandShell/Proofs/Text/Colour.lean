import CommandShell.Proofs.Text.Sequence

/-! Coloured texts. The sequence of a style is an escape sequence and a whole one: those in front of
a text end before it begins, and the reset behind it begins anew. So neither completes anything that
the text leaves open, and stripping takes out of a coloured text what it takes out of the text alone
and all that colouring put in. -/

namespace CommandShell.Text

theorem isSequence_style (style : Style) : IsSequence style.sequence.toList := by
  refine ⟨Nat.toDigits 10 style.code, 'm', String.toList_ofList, fun c hc => ?_, rfl⟩
  have digit : c.isDigit = true := Nat.isDigit_of_mem_toDigits (by decide) (by decide) hc
  rw [isParameterChar, digit, Bool.true_or]

theorem stripFrom_styles_append (styles : List Style) (rest : List Char) :
    stripFrom 0 ((String.join (styles.map Style.sequence)).toList ++ rest) = stripFrom 0 rest := by
  induction styles with
  | nil => rfl
  | cons style styles ih =>
    rw [List.map_cons, String.join_cons, String.toList_append, List.append_assoc,
      stripFrom_sequence_append (isSequence_style style), ih]

theorem stripFrom_paint (styles : List Style) (s : String) :
    stripFrom 0 (paint styles s).toList = stripFrom 0 s.toList := by
  have reset := stripFrom_append_sequence (isSequence_style .reset) s.toList []
  rw [List.append_nil] at reset
  unfold paint
  split
  · rfl
  · rw [String.toList_append, String.toList_append, List.append_assoc, stripFrom_styles_append,
      reset]
    exact List.append_nil _

theorem paint_eq_self_iff {styles : List Style} {s : String} :
    paint styles s = s ↔ styles = [] := by
  constructor
  · intro same
    by_contra styled
    have lengths := congrArg String.length same
    have coloured : ¬styles.isEmpty = true := by simpa using styled
    rw [paint, if_neg coloured, String.length_append, String.length_append] at lengths
    have reset : Style.reset.sequence.length = 4 := rfl
    omega
  · rintro rfl
    rfl

/-- A line as it stands on an output: on a terminal between the sequence of its style and a reset,
anywhere else without these and without escape sequences of its own. -/
def styledLine (style : String) (isTerminal : Bool) (line : String) : String :=
  if isTerminal then style ++ line ++ "\x1b[0m\n" else stripEscapes line ++ "\n"

theorem sequence_red : Style.red.sequence = "\x1b[31m" := rfl

theorem sequence_yellow : Style.yellow.sequence = "\x1b[33m" := rfl

theorem printLine_paint (o : Output) (style : Style) (line : String) :
    o.printLine (paint [style] line) =
      { o with written := o.written ++ styledLine style.sequence o.isTerminal line } := by
  rw [Output.printLine, styledLine, String.append_assoc, Output.visible]
  cases o.isTerminal with
  | true =>
    have reset : Style.reset.sequence = "\x1b[0m" := rfl
    simp [paint, String.join, reset, String.append_assoc]
  | false =>
    have stripped : stripEscapes (paint [style] line) = stripEscapes line :=
      congrArg String.ofList (stripFrom_paint [style] line)
    simp [stripped]

/-- A coloured text is, wherever escape sequences do not count, the text itself: stripped, measured,
or printed to anything but a terminal. It is the text itself altogether when none of the names is
that of a style, and only then. -/
theorem stripEscapes_colorize (s : String) (names : List String) :
    stripEscapes (colorize s names) = stripEscapes s ∧
    visibleLength (colorize s names) = visibleLength s ∧
    (∀ before, Output.printLine ⟨false, before⟩ (colorize s names) =
      Output.printLine ⟨false, before⟩ s) ∧
    (colorize s names = s ↔ ∀ name ∈ names, Style.ofName? name = none) := by
  have left : stripFrom 0 (colorize s names).toList = stripFrom 0 s.toList := stripFrom_paint _ s
  have stripped : stripEscapes (colorize s names) = stripEscapes s := congrArg String.ofList left
  refine ⟨stripped, congrArg List.length left, fun before => ?_, ?_⟩
  · exact congrArg (fun line => Output.mk false (before ++ line ++ "\n")) stripped
  · rw [colorize, paint_eq_self_iff, List.filterMap_eq_nil_iff]

/-- Neither a bracket left open before the colour nor one left open before the reset is closed. -/
example : colorize "0m\x1b[3" ["bold", "sparkling"] = "\x1b[1m0m\x1b[3\x1b[0m" ∧
    stripEscapes (colorize "0m\x1b[3" ["bold", "sparkling"]) = "0m\x1b[3" := by decide

end CommandShell.Text
