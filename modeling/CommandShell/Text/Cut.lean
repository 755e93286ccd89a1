/-! Cutting a text at every occurrence of a character. -/

namespace CommandShell.Text

/-- The parts between separators; there is always at least one. -/
def cutAt (separator : Char) : List Char → List (List Char)
  | [] => [[]]
  | c :: rest =>
    if c = separator then [] :: cutAt separator rest
    else match cutAt separator rest with
      | [] => [[c]]
      | part :: parts => (c :: part) :: parts

theorem cutAt_ne_nil (separator : Char) (cs : List Char) : cutAt separator cs ≠ [] := by
  cases cs with
  | nil => simp [cutAt]
  | cons c rest =>
    rw [cutAt]
    split
    · simp
    · split <;> simp

theorem cutAt_append (separator : Char) (before after : List Char) :
    cutAt separator (before ++ separator :: after) =
      cutAt separator before ++ cutAt separator after := by
  induction before with
  | nil => simp [cutAt]
  | cons c rest ih =>
    by_cases h : c = separator
    · simp [cutAt, h, ih]
    · cases hc : cutAt separator rest with
      | nil => exact absurd hc (cutAt_ne_nil separator rest)
      | cons part parts => simp [cutAt, h, ih, hc]

def parts (separator : Char) (s : String) : List String :=
  (cutAt separator s.toList).map String.ofList

end CommandShell.Text
