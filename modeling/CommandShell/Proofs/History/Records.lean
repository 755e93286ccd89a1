import CommandShell.History
import Mathlib.Tactic.Common

/-! The records of a history file. Every line that is not blank is one, and the records of two texts
with a line feed between them are those of the first and those of the second: what is written with
a line feed after each record is cut there, and again at every other line break in a record. -/

namespace CommandShell

namespace Text

theorem linesOf_break {c : Char} {rest : List Char} (hc : isLineBreak c = true)
    (h : ¬(c = '\r' ∧ rest.head? = some '\n')) : linesOf (c :: rest) = [] :: linesOf rest := by
  rw [linesOf, if_pos hc]
  rintro rest' rfl rfl
  simp at h

def extend (c : Char) : List (List Char) → List (List Char)
  | [] => [[c]]
  | line :: lines => (c :: line) :: lines

theorem linesOf_other {c : Char} {rest : List Char} (hc : isLineBreak c = false) :
    linesOf (c :: rest) = extend c (linesOf rest) := by
  have hreturn : c ≠ '\r' := by
    rintro rfl
    exact absurd hc (by decide)
  rw [linesOf, hc]
  · cases linesOf rest <;> rfl
  · rintro rest' rfl rfl
    exact hreturn rfl

theorem linesOf_unifyLineEnds (cs : List Char) : linesOf (unifyLineEnds cs) = linesOf cs := by
  fun_induction unifyLineEnds cs with
  | case1 => rfl
  | case2 rest ih =>
    rw [linesOf_break (by decide) (by simp), ih, linesOf]
  | case3 c rest h ih =>
    by_cases hreturn : c = '\r'
    · have hrest : ¬(c = '\r' ∧ rest.head? = some '\n') := by
        rintro ⟨-, hhead⟩
        obtain ⟨tail, rfl⟩ := List.head?_eq_some_iff.mp hhead
        exact h tail hreturn rfl
      rw [if_pos hreturn, linesOf_break (by decide) (by simp), ih,
        linesOf_break (hreturn ▸ by decide) hrest]
    · rw [if_neg hreturn]
      cases hc : isLineBreak c with
      | true => rw [linesOf_break hc (by simp [hreturn]), linesOf_break hc (by simp [hreturn]), ih]
      | false => rw [linesOf_other hc, linesOf_other hc, ih]

theorem exists_linesOf_append (before after : List Char) :
    ∃ between, linesOf (before ++ '\n' :: after) = linesOf before ++ between ++ linesOf after ∧
      (between = [[]] ∨ between = [] ∧ linesOf before ≠ []) := by
  fun_induction linesOf before with
  | case1 => exact ⟨[[]], linesOf_break (by decide) (by simp), .inl rfl⟩
  | case2 rest ih =>
    obtain ⟨between, heq, hbetween⟩ := ih
    refine ⟨between, ?_, ?_⟩
    · rw [List.cons_append, List.cons_append, linesOf, heq]
      rfl
    · exact hbetween.imp_right fun h => ⟨h.1, by simp⟩
  | case3 c rest h hc ih =>
    obtain ⟨between, heq, hbetween⟩ := ih
    -- a carriage return at the very end makes one line end of the line feed behind it
    by_cases hreturn : c = '\r' ∧ rest = []
    · obtain ⟨rfl, rfl⟩ := hreturn
      exact ⟨[], by simp [linesOf], .inr ⟨rfl, by simp⟩⟩
    · have hfeed : ¬(c = '\r' ∧ (rest ++ '\n' :: after).head? = some '\n') := by
        rintro ⟨rfl, hhead⟩
        cases rest with
        | nil => exact hreturn ⟨rfl, rfl⟩
        | cons d rest =>
          obtain rfl : d = '\n' := by simpa using hhead
          exact h rest rfl rfl
      refine ⟨between, ?_, ?_⟩
      · rw [List.cons_append, linesOf_break hc hfeed, heq]
        rfl
      · exact hbetween.imp_right fun h => ⟨h.1, by simp⟩
  | case4 c rest h hc hnil ih =>
    obtain ⟨between, heq, hbetween⟩ := ih
    have hblank : between = [[]] := hbetween.resolve_right fun h => h.2 hnil
    refine ⟨[], ?_, .inr ⟨rfl, by simp⟩⟩
    rw [List.cons_append, linesOf_other (by simpa using hc), heq, hnil, hblank]
    rfl
  | case5 c rest h hc line lines hlines ih =>
    obtain ⟨between, heq, hbetween⟩ := ih
    refine ⟨between, ?_, hbetween.imp_right fun h => ⟨h.1, by simp⟩⟩
    rw [List.cons_append, linesOf_other (by simpa using hc), heq, hlines]
    rfl

theorem linesOf_unbroken {cs : List Char} (h : ∀ c ∈ cs, isLineBreak c = false) (hne : cs ≠ []) :
    linesOf cs = [cs] := by
  induction cs with
  | nil => exact absurd rfl hne
  | cons c rest ih =>
    obtain ⟨hc, hrest⟩ := List.forall_mem_cons.mp h
    rw [linesOf_other hc]
    cases rest with
    | nil => rfl
    | cons d rest => rw [ih hrest (by simp), extend]

theorem linesOf_unbroken_append {cs : List Char} (h : ∀ c ∈ cs, isLineBreak c = false)
    (rest : List Char) : linesOf (cs ++ '\n' :: rest) = cs :: linesOf rest := by
  induction cs with
  | nil => exact linesOf_break (by decide) (by simp)
  | cons c cs ih =>
    obtain ⟨hc, hcs⟩ := List.forall_mem_cons.mp h
    rw [List.cons_append, linesOf_other hc, ih hcs, extend]

theorem isLineBreak_of_mem_linesOf {cs line : List Char} (h : line ∈ linesOf cs) {c : Char}
    (hc : c ∈ line) : isLineBreak c = false := by
  fun_induction linesOf cs generalizing line with
  | case1 => simp at h
  | case2 rest ih =>
    rcases List.mem_cons.mp h with rfl | h
    · simp at hc
    · exact ih h hc
  | case3 d rest _ hd ih =>
    rcases List.mem_cons.mp h with rfl | h
    · simp at hc
    · exact ih h hc
  | case4 d rest _ hd hnil ih =>
    obtain rfl : line = [d] := by simpa using h
    obtain rfl : c = d := by simpa using hc
    simpa using hd
  | case5 d rest _ hd first lines hlines ih =>
    rw [hlines] at ih
    rcases List.mem_cons.mp h with rfl | h
    · rcases List.mem_cons.mp hc with rfl | hc
      · simpa using hd
      · exact ih List.mem_cons_self hc
    · exact ih (List.mem_cons_of_mem first h) hc

def Unbroken (s : String) : Prop := ∀ c ∈ s.toList, isLineBreak c = false

instance (s : String) : Decidable (Unbroken s) :=
  decidable_of_iff (s.toList.all (!isLineBreak ·) = true) (by simp [Unbroken])

theorem splitLines_intercalate {lines : List String}
    (h : ∀ line ∈ lines, line ≠ "" ∧ Unbroken line) :
    splitLines ("\n".intercalate lines) = lines := by
  induction lines with
  | nil => rfl
  | cons line lines ih =>
    obtain ⟨⟨hne, unbroken⟩, hrest⟩ := List.forall_mem_cons.mp h
    cases lines with
    | nil =>
      have chars : line.toList ≠ [] := by simpa using hne
      simp [splitLines, linesOf_unbroken unbroken chars]
    | cons next lines =>
      have joined : ("\n".intercalate (line :: next :: lines)).toList =
          line.toList ++ '\n' :: ("\n".intercalate (next :: lines)).toList := by
        simp [String.intercalate_cons_cons]
      rw [splitLines, joined, linesOf_unbroken_append unbroken, List.map_cons, String.ofList_toList]
      exact congrArg (line :: ·) (ih hrest)

theorem splitLines_line_append {line : String} (h : Unbroken line) (rest : String) :
    splitLines (line ++ "\n" ++ rest) = line :: splitLines rest := by
  have htext : (line ++ "\n" ++ rest).toList = line.toList ++ '\n' :: rest.toList := by simp
  rw [splitLines, htext, linesOf_unbroken_append h, List.map_cons, String.ofList_toList, splitLines]

theorem splitLines_join {lines : List String} (h : ∀ line ∈ lines, Unbroken line) :
    splitLines (String.join (lines.map (· ++ "\n"))) = lines := by
  induction lines with
  | nil => rfl
  | cons line rest ih =>
    obtain ⟨hline, hrest⟩ := List.forall_mem_cons.mp h
    rw [List.map_cons, String.join_cons, splitLines_line_append hline, ih hrest]

theorem unbroken_of_mem_splitLines {s line : String} (h : line ∈ splitLines s) :
    Unbroken line := by
  obtain ⟨cs, hmem, rfl⟩ := List.mem_map.mp h
  exact fun c hc => isLineBreak_of_mem_linesOf hmem (by simpa using hc)

end Text

namespace History
open Text

def recorded (lines : List String) : List String := lines.filter (!isBlankText ·)

theorem recorded_append (xs ys : List String) :
    recorded (xs ++ ys) = recorded xs ++ recorded ys := List.filter_append xs ys

theorem mem_recorded {line : String} {lines : List String} :
    line ∈ recorded lines ↔ line ∈ lines ∧ isBlankText line = false := by
  simp [recorded]

theorem recordsOf_eq (content : String) : recordsOf content = recorded (splitLines content) := by
  simp only [recordsOf, splitLines, recorded, String.toList_ofList, linesOf_unifyLineEnds]

theorem recordsOf_append (before after : String) :
    recordsOf (before ++ "\n" ++ after) = recordsOf before ++ recordsOf after := by
  obtain ⟨between, heq, hbetween⟩ := exists_linesOf_append before.toList after.toList
  have hblank : recorded (between.map String.ofList) = [] := by
    rcases hbetween with rfl | ⟨rfl, -⟩ <;> rfl
  have htext : (before ++ "\n" ++ after).toList = before.toList ++ '\n' :: after.toList := by
    simp
  simp only [recordsOf_eq, splitLines, htext, heq, List.map_append, recorded_append, hblank,
    List.append_nil]

theorem recordsOf_join (entries : List String) :
    recordsOf (String.join (entries.map (· ++ "\n"))) = entries.flatMap recordsOf := by
  induction entries with
  | nil => rfl
  | cons entry rest ih =>
    rw [List.map_cons, String.join_cons, recordsOf_append, ih, List.flatMap_cons]

theorem recordsOf_unbroken {entry : String} (h : Unbroken entry)
    (hblank : isBlankText entry = false) : recordsOf entry = [entry] := by
  have hne : entry.toList ≠ [] := by
    intro hnil
    simp [isBlankText, hnil] at hblank
  rw [recordsOf_eq, splitLines, linesOf_unbroken h hne]
  simp [recorded, hblank]

theorem unbroken_of_mem_recordsOf {content entry : String} (h : entry ∈ recordsOf content) :
    Unbroken entry ∧ isBlankText entry = false := by
  rw [recordsOf_eq] at h
  obtain ⟨hline, hblank⟩ := mem_recorded.mp h
  obtain ⟨line, hmem, rfl⟩ := List.mem_map.mp hline
  refine ⟨fun c hc => ?_, hblank⟩
  exact isLineBreak_of_mem_linesOf hmem (by simpa using hc)

end History
end CommandShell
