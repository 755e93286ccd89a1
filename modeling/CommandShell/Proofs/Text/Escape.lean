import CommandShell.Text.Escape

/-! Stripping texts piece by piece. No escape sequence contains a line feed, a blank, a bar or a
second escape character, so a text may be cut in front of each of these and stripped in pieces; and
a text without an escape character is stripped of nothing, whatever follows it. -/

namespace CommandShell.Text

theorem parametersLength_cons (c : Char) (cs : List Char) :
    parametersLength (c :: cs) = if isParameterChar c then (parametersLength cs).map (· + 1)
      else if c.isAlpha then some 1 else none := by
  unfold parametersLength
  cases hc : isParameterChar c with
  | false => simp [hc]
  | true =>
    simp only [List.dropWhile_cons, List.takeWhile_cons, hc, if_true]
    cases cs.dropWhile isParameterChar with
    | nil => rfl
    | cons d rest => cases hd : d.isAlpha <;> simp [hd]

theorem parametersLength_le {cs : List Char} {n : Nat} (h : parametersLength cs = some n) :
    n ≤ cs.length := by
  induction cs generalizing n with
  | nil => cases h
  | cons c cs ih =>
    rw [parametersLength_cons] at h
    split at h
    · obtain ⟨m, hm, rfl⟩ := Option.map_eq_some_iff.mp h
      exact Nat.succ_le_succ (ih hm)
    · split at h <;> cases h
      exact Nat.succ_le_succ (Nat.zero_le _)

/-- A character that no sequence has but at its beginning. -/
def Interrupts (c : Char) : Prop := c ≠ '[' ∧ isParameterChar c = false ∧ c.isAlpha = false

instance (c : Char) : Decidable (Interrupts c) := inferInstanceAs (Decidable (_ ∧ _ ∧ _))

theorem parametersLength_append {d : Char} (hd : Interrupts d) (cs rest : List Char) :
    parametersLength (cs ++ d :: rest) = parametersLength cs := by
  induction cs with
  | nil => simp [parametersLength, hd.2.1, hd.2.2]
  | cons c cs ih => rw [List.cons_append, parametersLength_cons, parametersLength_cons, ih]

theorem sequenceAfter_le {c : Char} {cs : List Char} {n : Nat}
    (h : sequenceAfter c cs = some n) : n ≤ cs.length := by
  unfold sequenceAfter at h
  split at h
  · split at h
    · obtain ⟨m, hm, rfl⟩ := Option.map_eq_some_iff.mp h
      exact Nat.succ_le_succ (parametersLength_le hm)
    · cases h
  · cases h

theorem sequenceAfter_append {d : Char} (hd : Interrupts d) (c : Char) (cs rest : List Char) :
    sequenceAfter c (cs ++ d :: rest) = sequenceAfter c cs := by
  cases cs with
  | nil => simp [sequenceAfter, hd.1]
  | cons e more =>
    by_cases he : e = '['
    · simp only [he, List.cons_append, sequenceAfter, parametersLength_append hd]
    · simp [sequenceAfter, he]

theorem sequenceAfter_of_ne {c : Char} (h : c ≠ escape) (cs : List Char) :
    sequenceAfter c cs = none := by
  unfold sequenceAfter
  split <;> simp [h]

theorem stripFrom_cons_of_ne {c : Char} (h : c ≠ escape) (rest : List Char) :
    stripFrom 0 (c :: rest) = c :: stripFrom 0 rest := by
  rw [stripFrom, sequenceAfter_of_ne h]

theorem stripFrom_append_of_interrupts {d : Char} (hd : Interrupts d) {skip : Nat}
    {cs : List Char} (fits : skip ≤ cs.length) (rest : List Char) :
    stripFrom skip (cs ++ d :: rest) = stripFrom skip cs ++ stripFrom 0 (d :: rest) := by
  -- what is skipped never reaches as far as the interruption
  induction cs generalizing skip with
  | nil =>
    obtain rfl : skip = 0 := Nat.le_zero.mp fits
    rfl
  | cons c cs ih =>
    cases skip with
    | succ skip => exact ih (Nat.le_of_succ_le_succ fits)
    | zero =>
      rw [List.cons_append, stripFrom, stripFrom, sequenceAfter_append hd]
      cases h : sequenceAfter c cs with
      | some n => exact ih (sequenceAfter_le h)
      | none => exact congrArg (c :: ·) (ih (Nat.zero_le _))

theorem stripFrom_append_kept {d : Char} (hd : Interrupts d) (hne : d ≠ escape)
    (cs rest : List Char) :
    stripFrom 0 (cs ++ d :: rest) = stripFrom 0 cs ++ d :: stripFrom 0 rest := by
  rw [stripFrom_append_of_interrupts hd (Nat.zero_le _), stripFrom_cons_of_ne hne]

theorem stripFrom_append_of_not_mem {cs : List Char} (h : escape ∉ cs) (rest : List Char) :
    stripFrom 0 (cs ++ rest) = cs ++ stripFrom 0 rest := by
  induction cs with
  | nil => rfl
  | cons c cs ih =>
    obtain ⟨hc, hcs⟩ := not_or.mp (mt List.mem_cons.mpr h)
    rw [List.cons_append, stripFrom, sequenceAfter_of_ne (Ne.symm hc), ih hcs]
    rfl

theorem stripEscapes_line_append (line rest : String) :
    stripEscapes (line ++ "\n" ++ rest) = stripEscapes line ++ "\n" ++ stripEscapes rest := by
  apply String.toList_injective
  simp only [stripEscapes, String.toList_append, String.toList_ofList]
  change stripFrom 0 (line.toList ++ ['\n'] ++ rest.toList) = _ ++ ['\n'] ++ _
  rw [List.append_assoc, List.append_assoc]
  exact stripFrom_append_kept (by decide) (by decide) line.toList rest.toList

theorem stripEscapes_append_of_not_mem {text : String} (h : escape ∉ text.toList)
    (rest : String) : stripEscapes (text ++ rest) = text ++ stripEscapes rest := by
  apply String.toList_injective
  simp only [stripEscapes, String.toList_append, String.toList_ofList]
  exact stripFrom_append_of_not_mem h _

end CommandShell.Text
