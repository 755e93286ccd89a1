import CommandShell.Splitter

/-! Which atoms a text is read as. `Legible` says from the atoms alone that their text is read back
as these atoms; a reading loses no character, and readings are joined and taken apart wherever the
text after the seam does not begin with a quote. -/

namespace CommandShell.Atom

def source : Atom → List Char
  | opening q | closing q => [q]
  | escaped q => [backslash, q]
  | quoted c | bare c => [c]

def sourceOf (as : List Atom) : List Char := as.flatMap source

@[simp] theorem sourceOf_nil : sourceOf [] = [] := rfl

@[simp] theorem sourceOf_cons (a : Atom) (as : List Atom) :
    sourceOf (a :: as) = a.source ++ sourceOf as := rfl

@[simp] theorem sourceOf_append (as bs : List Atom) :
    sourceOf (as ++ bs) = sourceOf as ++ sourceOf bs := List.flatMap_append

theorem source_ne_nil (a : Atom) : a.source ≠ [] := by
  cases a <;> simp [source]

theorem sourceOf_eq_nil {as : List Atom} : sourceOf as = [] ↔ as = [] := by
  cases as with
  | nil => simp
  | cons a as => simp [source_ne_nil]

def EscapesNothing (quotes : List Char) (c : Char) (rest : List Char) : Prop :=
  c = backslash → ∀ q ∈ rest.head?, q ∉ quotes

theorem EscapesNothing.of_ne {quotes : List Char} {c : Char} (h : c ≠ backslash)
    (rest : List Char) : EscapesNothing quotes c rest := fun e => absurd e h

theorem EscapesNothing.nil (quotes : List Char) (c : Char) : EscapesNothing quotes c [] := by
  intro _ q hq
  simp at hq

theorem EscapesNothing.of_append {quotes : List Char} {c : Char} {before after : List Char}
    (h : EscapesNothing quotes c (before ++ after)) : EscapesNothing quotes c before := by
  cases before with
  | nil => exact .nil quotes c
  | cons d before => exact fun e q hq => h e q (by simpa using hq)

theorem EscapesNothing.append {quotes : List Char} {c : Char} {before after : List Char}
    (h : EscapesNothing quotes c before) (seam : ∀ q ∈ after.head?, q ∉ quotes) :
    EscapesNothing quotes c (before ++ after) := by
  cases before with
  | nil => exact fun _ => seam
  | cons d before => exact fun e q hq => h e q (by simpa using hq)

theorem read_escaped {quotes : List Char} {q : Char} (hq : q ∈ quotes) (within : Option Char)
    (rest : List Char) :
    read quotes within (backslash :: q :: rest) =
      (escaped q :: (read quotes within rest).1, (read quotes within rest).2) := by
  rw [read, if_pos ⟨rfl, hq⟩]

theorem read_cons {quotes : List Char} {c : Char} {rest : List Char}
    (h : EscapesNothing quotes c rest) (within : Option Char) :
    read quotes within (c :: rest) =
      ((ofChar quotes within c).1 :: (read quotes (ofChar quotes within c).2 rest).1,
        (read quotes (ofChar quotes within c).2 rest).2) := by
  cases rest with
  | nil => rfl
  | cons q rest =>
    have hn : ¬(c = backslash ∧ q ∈ quotes) := fun e => h e.1 q rfl e.2
    rw [read, if_neg hn]

/-- With `within` open, these atoms are what their text is read as, and they leave `opened` open. -/
inductive Legible (quotes : List Char) : Option Char → List Atom → Option Char → Prop
  | nil (within : Option Char) : Legible quotes within [] within
  | escaped {within opened : Option Char} {q : Char} {as : List Atom} (quote : q ∈ quotes)
      (tail : Legible quotes within as opened) : Legible quotes within (escaped q :: as) opened
  | opening {opened : Option Char} {q : Char} {as : List Atom} (quote : q ∈ quotes)
      (alone : EscapesNothing quotes q (sourceOf as))
      (tail : Legible quotes (some q) as opened) : Legible quotes none (opening q :: as) opened
  | closing {opened : Option Char} {q : Char} {as : List Atom}
      (alone : EscapesNothing quotes q (sourceOf as))
      (tail : Legible quotes none as opened) : Legible quotes (some q) (closing q :: as) opened
  | quoted {opened : Option Char} {q c : Char} {as : List Atom} (other : c ≠ q)
      (alone : EscapesNothing quotes c (sourceOf as))
      (tail : Legible quotes (some q) as opened) : Legible quotes (some q) (quoted c :: as) opened
  | bare {opened : Option Char} {c : Char} {as : List Atom} (plain : c ∉ quotes)
      (alone : EscapesNothing quotes c (sourceOf as))
      (tail : Legible quotes none as opened) : Legible quotes none (bare c :: as) opened

theorem Legible.read_sourceOf {quotes : List Char} {within opened : Option Char}
    {as : List Atom} (h : Legible quotes within as opened) :
    read quotes within (sourceOf as) = (as, opened) := by
  induction h with
  | nil within => rfl
  | escaped quote tail ih =>
    rw [sourceOf_cons, source, List.cons_append, List.cons_append, List.nil_append,
      read_escaped quote, ih]
  | opening quote alone tail ih =>
    rw [sourceOf_cons, source, List.singleton_append, read_cons alone]
    simp [ofChar, quote, ih]
  | closing alone tail ih =>
    rw [sourceOf_cons, source, List.singleton_append, read_cons alone]
    simp [ofChar, ih]
  | quoted other alone tail ih =>
    rw [sourceOf_cons, source, List.singleton_append, read_cons alone]
    simp [ofChar, other, ih]
  | bare plain alone tail ih =>
    rw [sourceOf_cons, source, List.singleton_append, read_cons alone]
    simp [ofChar, plain, ih]

theorem Legible.cons_ofChar {quotes : List Char} {within opened : Option Char} {c : Char}
    {as : List Atom} (alone : EscapesNothing quotes c (sourceOf as))
    (tail : Legible quotes (ofChar quotes within c).2 as opened) :
    Legible quotes within ((ofChar quotes within c).1 :: as) opened := by
  cases within with
  | none =>
    by_cases hc : c ∈ quotes
    · simp only [ofChar, hc, if_true] at tail ⊢
      exact .opening hc alone tail
    · simp only [ofChar, hc, if_false] at tail ⊢
      exact .bare hc alone tail
  | some q =>
    by_cases hc : c = q
    · subst hc
      simp only [ofChar, if_true] at tail ⊢
      exact .closing alone tail
    · simp only [ofChar, hc, if_false] at tail ⊢
      exact .quoted hc alone tail

theorem source_ofChar (quotes : List Char) (within : Option Char) (c : Char) :
    (ofChar quotes within c).1.source = [c] := by
  unfold ofChar
  split <;> split <;> rfl

theorem sourceOf_read (quotes : List Char) (within : Option Char) (cs : List Char) :
    sourceOf (read quotes within cs).1 = cs := by
  fun_induction read quotes within cs with
  | case1 => rfl
  | case2 within c => simp [source_ofChar]
  | case3 within c q rest h atoms opened hr ih =>
    rw [hr] at ih
    simp only [sourceOf_cons, source, ih, h.1, List.cons_append, List.nil_append]
  | case4 within c q rest h atom next ha atoms opened hr ih =>
    rw [hr] at ih
    have hs : atom.source = [c] := by
      have := source_ofChar quotes within c
      rwa [ha] at this
    simp only [sourceOf_cons, hs, ih, List.singleton_append]

theorem legible_read (quotes : List Char) (within : Option Char) (cs : List Char) :
    Legible quotes within (read quotes within cs).1 (read quotes within cs).2 := by
  fun_induction read quotes within cs with
  | case1 within => exact .nil within
  | case2 within c => exact .cons_ofChar (.nil quotes c) (.nil _)
  | case3 within c q rest h atoms opened hr ih =>
    rw [hr] at ih
    exact .escaped h.2 ih
  | case4 within c q rest h atom next ha atoms opened hr ih =>
    have hsource := sourceOf_read quotes next (q :: rest)
    rw [hr] at ih hsource
    -- otherwise the branch of an escaped quote would have been taken
    have halone : EscapesNothing quotes c (sourceOf atoms) := by
      rw [hsource]
      rintro rfl p hp hq
      obtain rfl : q = p := by simpa using hp
      exact h ⟨rfl, hq⟩
    have htail : Legible quotes (ofChar quotes within c).2 atoms opened := by rwa [ha]
    have := Legible.cons_ofChar halone htail
    rwa [ha] at this

/-- A text is read as given atoms just when these are legible and spell the text. -/
theorem read_eq_iff {quotes : List Char} {within opened : Option Char} {cs : List Char}
    {as : List Atom} :
    read quotes within cs = (as, opened) ↔ Legible quotes within as opened ∧ sourceOf as = cs := by
  constructor
  · intro h
    have hl := legible_read quotes within cs
    have hs := sourceOf_read quotes within cs
    rw [h] at hl hs
    exact ⟨hl, hs⟩
  · rintro ⟨hl, rfl⟩
    exact hl.read_sourceOf

theorem Legible.append {quotes : List Char} {within between opened : Option Char}
    {as bs : List Atom} (h : Legible quotes within as between)
    (hb : Legible quotes between bs opened) (seam : ∀ q ∈ (sourceOf bs).head?, q ∉ quotes) :
    Legible quotes within (as ++ bs) opened := by
  induction h with
  | nil => exact hb
  | escaped quote tail ih => exact .escaped quote (ih hb)
  | opening quote alone tail ih =>
    exact .opening quote (sourceOf_append _ _ ▸ alone.append seam) (ih hb)
  | closing alone tail ih => exact .closing (sourceOf_append _ _ ▸ alone.append seam) (ih hb)
  | quoted other alone tail ih =>
    exact .quoted other (sourceOf_append _ _ ▸ alone.append seam) (ih hb)
  | bare plain alone tail ih =>
    exact .bare plain (sourceOf_append _ _ ▸ alone.append seam) (ih hb)

theorem Legible.of_append {quotes : List Char} {within opened : Option Char} {as bs : List Atom}
    (h : Legible quotes within (as ++ bs) opened) :
    ∃ between, Legible quotes within as between ∧ Legible quotes between bs opened := by
  induction as generalizing within with
  | nil => exact ⟨within, .nil within, h⟩
  | cons a as ih =>
    rw [List.cons_append] at h
    cases h with
    | escaped quote tail =>
      obtain ⟨between, hl, hr⟩ := ih tail
      exact ⟨between, .escaped quote hl, hr⟩
    | opening quote alone tail =>
      obtain ⟨between, hl, hr⟩ := ih tail
      exact ⟨between, .opening quote (sourceOf_append _ _ ▸ alone).of_append hl, hr⟩
    | closing alone tail =>
      obtain ⟨between, hl, hr⟩ := ih tail
      exact ⟨between, .closing (sourceOf_append _ _ ▸ alone).of_append hl, hr⟩
    | quoted other alone tail =>
      obtain ⟨between, hl, hr⟩ := ih tail
      exact ⟨between, .quoted other (sourceOf_append _ _ ▸ alone).of_append hl, hr⟩
    | bare plain alone tail =>
      obtain ⟨between, hl, hr⟩ := ih tail
      exact ⟨between, .bare plain (sourceOf_append _ _ ▸ alone).of_append hl, hr⟩

theorem Legible.eq_bare_cons {quotes : List Char} {as : List Atom} {opened : Option Char} {c : Char}
    {cs : List Char} (h : Legible quotes none as opened) (hs : sourceOf as = c :: cs)
    (hc : c ∉ quotes) (hb : c ≠ backslash) : ∃ rest, as = .bare c :: rest := by
  cases h with
  | nil => cases hs
  | escaped quote tail => exact absurd (List.cons.inj hs).1.symm hb
  | opening quote alone tail => exact absurd ((List.cons.inj hs).1 ▸ quote) hc
  | @bare _ d rest plain alone tail =>
    obtain rfl : d = c := (List.cons.inj hs).1
    exact ⟨rest, rfl⟩

theorem Legible.mem_quotes {quotes : List Char} {within opened : Option Char} {as : List Atom}
    {q : Char} (h : Legible quotes within as opened) (hq : Atom.opening q ∈ as) : q ∈ quotes := by
  induction h with
  | nil => simp at hq
  | opening quote alone tail ih =>
    rcases List.mem_cons.mp hq with e | hq
    · exact Atom.opening.inj e ▸ quote
    · exact ih hq
  | escaped quote tail ih => exact ih (by simpa using hq)
  | closing alone tail ih => exact ih (by simpa using hq)
  | quoted other alone tail ih => exact ih (by simpa using hq)
  | bare plain alone tail ih => exact ih (by simpa using hq)

end CommandShell.Atom
