import CommandShell.Proofs.Splitter.TwoPasses

/-! How tokens stand in a line. A line is made of its tokens, unchanged, and of the blanks around
them, and there is no other way to divide it so. What stands on one side of a blank is therefore
read without the other side, and a token is its own only token. -/

namespace CommandShell.Splitter
open Atom

variable {sp line : Splitter} {quotes : List String} {text gap : String} {tokens : List String}

def IsGap (sp : Splitter) (gap : String) : Prop :=
  ∀ c ∈ gap.toList, Text.isBlank c = true ∧ c ∉ sp.quotes

structure IsWord (sp : Splitter) (token : String) : Prop where
  ne_empty : token ≠ ""
  closed : ∃ as, sp.atoms token = .ok as
  solid : ∀ c, sp.Shows c token → Text.isBlank c = false

inductive Spaced (sp : Splitter) : List String → String → Prop
  | nil : Spaced sp [] ""
  | cons {token gap text : String} {tokens : List String} (word : sp.IsWord token)
      (blank : sp.IsGap gap) (apart : tokens ≠ [] → gap ≠ "") (rest : Spaced sp tokens text) :
      Spaced sp (token :: tokens) (token ++ gap ++ text)

/-- A text is a gap with spaced tokens behind it. -/
def LaidOut (sp : Splitter) (tokens : List String) (text : String) : Prop :=
  ∃ gap rest, sp.IsGap gap ∧ sp.Spaced tokens rest ∧ text = gap ++ rest

theorem IsGap.empty (sp : Splitter) : sp.IsGap "" := by
  intro c hc
  simp at hc

theorem IsGap.cons {c : Char} (blank : Text.isBlank c = true) (plain : c ∉ sp.quotes)
    (h : sp.IsGap gap) : sp.IsGap (String.singleton c ++ gap) := by
  intro d hd
  rw [String.toList_append, String.toList_singleton, List.singleton_append] at hd
  rcases List.mem_cons.mp hd with rfl | hd
  · exact ⟨blank, plain⟩
  · exact h d hd

theorem IsGap.follows (h : sp.IsGap gap) (apart : text ≠ "" → gap ≠ "") :
    sp.Follows (gap ++ text) := by
  intro c hc
  refine h c (List.mem_of_mem_head? ?_)
  rw [String.toList_append, List.head?_append] at hc
  cases hgap : gap.toList with
  | nil =>
    have htext : text = "" := by
      by_contra hne
      exact apart hne (by simpa using hgap)
    simp [htext, hgap] at hc
  | cons d rest => simpa [hgap] using hc

theorem split_blank_append (hline : forLine quotes = .ok line) {c : Char}
    (blank : Text.isBlank c = true) (plain : c ∉ line.quotes) (text : String) :
    line.split (String.singleton c ++ text) = match line.split text with
      | .ok tokens => .ok tokens
      | .error e => .error ⟨String.singleton c ++ text, e.quote⟩ := by
  have hc : c ≠ backslash := by
    rintro rfl
    exact absurd blank (by decide)
  have hread : read line.quotes none (String.singleton c ++ text).toList =
      (bare c :: (read line.quotes none text.toList).1, (read line.quotes none text.toList).2) := by
    rw [String.toList_append, String.toList_singleton, List.singleton_append,
      read_cons (.of_ne hc _)]
    simp [ofChar, plain]
  rw [split_of_build_blank hline, split_of_build_blank hline, Splitter.atoms, Splitter.atoms, hread]
  cases read line.quotes none text.toList with
  | mk as opened =>
    cases opened with
    | some q => rfl
    | none => simp only [Except.map, pieces_bare blank]

theorem split_gap_append (hline : forLine quotes = .ok line) (blank : line.IsGap gap)
    (split : line.split text = .ok tokens) : line.split (gap ++ text) = .ok tokens := by
  obtain ⟨cs, rfl⟩ : ∃ cs, gap = String.ofList cs := ⟨gap.toList, String.ofList_toList.symm⟩
  induction cs with
  | nil => exact split
  | cons c cs ih =>
    have hcons : String.ofList (c :: cs) = String.singleton c ++ String.ofList cs := by
      apply String.toList_injective
      simp
    rw [IsGap, String.toList_ofList, List.forall_mem_cons] at blank
    have hrest := ih (by rw [IsGap, String.toList_ofList]; exact blank.2)
    rw [hcons, String.append_assoc, split_blank_append hline blank.1.1 blank.1.2, hrest]

theorem IsWord.split (hline : forLine quotes = .ok line) {token : String}
    (word : line.IsWord token) : line.split token = .ok [token] := by
  obtain ⟨as, hatoms⟩ := word.closed
  obtain ⟨hclosed, htext⟩ := atoms_eq_ok.mp hatoms
  have huncut : Uncut Text.isBlank as := by
    intro c hc
    refine word.solid c ?_
    rwa [Shows, ← htext, hclosed.read_sourceOf]
  have hne : as ≠ [] := by
    rintro rfl
    exact word.ne_empty (by simpa using htext.symm)
  rw [split_of_build_blank hline, hatoms, Except.map, pieces_uncut huncut hne]
  simp only [List.map_cons, List.map_nil, text_true, htext, String.ofList_toList]

theorem Spaced.split (hline : forLine quotes = .ok line) (h : line.Spaced tokens text) :
    line.split text = .ok tokens := by
  induction h with
  | nil =>
    rw [split_of_build_blank hline]
    rfl
  | @cons token gap text tokens word blank apart rest ih =>
    have hapart : text ≠ "" → gap ≠ "" := by
      intro hne
      refine apart fun hnil => ?_
      subst hnil
      cases rest
      exact hne rfl
    rw [String.append_assoc, split_append_of_follows hline (word.split hline)
      (blank.follows hapart), split_gap_append hline blank ih]
    rfl

namespace LaidOut

theorem nil (sp : Splitter) : sp.LaidOut [] "" := ⟨"", "", .empty sp, .nil, rfl⟩

theorem word {token : String} (h : sp.IsWord token) : sp.LaidOut [token] token :=
  ⟨"", token ++ "" ++ "", .empty sp, .cons h (.empty sp) (fun hne => absurd rfl hne) .nil, by simp⟩

theorem blank_append {c : Char} (blank : Text.isBlank c = true) (plain : c ∉ sp.quotes)
    (h : sp.LaidOut tokens text) : sp.LaidOut tokens (String.singleton c ++ text) := by
  obtain ⟨gap, rest, hgap, spaced, rfl⟩ := h
  exact ⟨String.singleton c ++ gap, rest, hgap.cons blank plain, spaced, by
    rw [String.append_assoc]⟩

theorem word_append {token : String} {c : Char} (word : sp.IsWord token)
    (blank : Text.isBlank c = true) (plain : c ∉ sp.quotes) (h : sp.LaidOut tokens text) :
    sp.LaidOut (token :: tokens) (token ++ (String.singleton c ++ text)) := by
  obtain ⟨gap, rest, hgap, spaced, rfl⟩ := h
  have apart : String.singleton c ++ gap ≠ "" := by
    intro hempty
    simpa using congrArg String.toList hempty
  refine ⟨"", _, .empty sp, .cons word (hgap.cons blank plain) (fun _ => apart) spaced, ?_⟩
  simp only [String.append_assoc, String.empty_append]

end LaidOut

theorem IsToken.isWord {p : List Atom} (h : IsToken sp.quotes p) :
    sp.IsWord (String.ofList (sourceOf p)) where
  ne_empty := by
    intro hempty
    exact h.ne_nil (sourceOf_eq_nil.mp (by simpa using hempty))
  closed := ⟨p, atoms_sourceOf h.legible⟩
  solid c hc := h.uncut c ((shows_sourceOf h.legible).mp hc)

theorem laidOut_pieces {as : List Atom} (h : Legible sp.quotes none as none) :
    sp.LaidOut ((pieces as).map fun p => String.ofList (sourceOf p))
      (String.ofList (sourceOf as)) := by
  rw [pieces]
  induction as using cut_induction Text.isBlank with
  | last p hu =>
    by_cases hne : p = []
    · subst hne
      exact .nil sp
    · simpa [hne] using LaidOut.word (IsToken.isWord ⟨h, hu, hne⟩)
  | piece p c rest hu hc ih =>
    obtain ⟨between, hleft, hright⟩ := h.of_append
    cases hright with
    | bare plain alone tail =>
      have hrest := ih tail
      have htext : String.ofList (sourceOf (p ++ bare c :: rest)) =
          String.ofList (sourceOf p) ++ (String.singleton c ++ String.ofList (sourceOf rest)) := by
        apply String.toList_injective
        simp [source]
      rw [htext]
      by_cases hne : p = []
      · subst hne
        simpa using hrest.blank_append hc plain
      · simpa [hne] using hrest.word_append (IsToken.isWord ⟨hleft, hu, hne⟩) hc plain

/-- A line loses nothing. A text is read as given tokens just when it is laid out of them: they
stand in it in order and unchanged, with nothing around them but gaps. -/
theorem split_laidOut (hline : forLine quotes = .ok line) (text : String) (tokens : List String) :
    line.split text = .ok tokens ↔ line.LaidOut tokens text := by
  constructor
  · intro h
    obtain ⟨as, hatoms, rfl⟩ := (split_eq_ok_iff hline).mp h
    obtain ⟨hclosed, htext⟩ := atoms_eq_ok.mp hatoms
    have layout : line.LaidOut _ _ := laidOut_pieces hclosed
    rwa [htext, String.ofList_toList] at layout
  · rintro ⟨gap, rest, blank, spaced, rfl⟩
    exact split_gap_append hline blank (spaced.split hline)

theorem split_laidOut_tab :
    ∃ line, forLine ["\t", "'"] = .ok line ∧
      line.LaidOut ["a\tb c\t", "'d e'\\"] " \n a\tb c\t 'd e'\\ " := by
  have hline : forLine ["\t", "'"] =
    .ok ⟨' ', ['\t', '\''], true, true, by decide, by decide⟩ := rfl
  exact ⟨_, hline, (split_laidOut hline _ _).mp (by decide)⟩

/-- Lines compose at blanks, and what is read is a normal form. After a text that can be read and a
blank that is no quote, any text is read as it is alone; each token is its own only token, and the
tokens joined by single blanks are found again. -/
theorem split_composes (hline : forLine quotes = .ok line) {text : String} {tokens : List String}
    (h : line.split text = .ok tokens) :
    (∀ c, Text.isBlank c = true → c ∉ line.quotes → ∀ rest,
      line.split (text ++ String.singleton c ++ rest) = match line.split rest with
        | .ok more => .ok (tokens ++ more)
        | .error e => .error ⟨text ++ String.singleton c ++ rest, e.quote⟩) ∧
    (∀ token ∈ tokens, line.split token = .ok [token]) ∧
    line.split (" ".intercalate tokens) = .ok tokens := by
  refine ⟨fun c blank plain rest => ?_, ?_⟩
  · have follows : line.Follows (String.singleton c ++ rest) := by
      intro d hd
      obtain rfl : c = d := by simpa using hd
      exact ⟨blank, plain⟩
    rw [String.append_assoc, split_append_of_follows hline h follows,
      split_blank_append hline blank plain]
    cases line.split rest <;> rfl
  · obtain ⟨ps, htokens, rfl⟩ := exists_isToken_of_split hline h
    refine ⟨fun token ht => ?_, split_intercalate hline htokens⟩
    obtain ⟨p, hp, rfl⟩ := List.mem_map.mp ht
    exact (htokens p hp).isWord.split hline

theorem split_composes_seam :
    commandWords.split "say 'a b'\\" = .ok ["say", "'a b'\\"] ∧
      commandWords.split ("say 'a b'\\" ++ String.singleton '\t' ++ "\"c \\\"\" =") =
        .ok ["say", "'a b'\\", "\"c \\\"\"", "="] ∧
      commandWords.split "'a b'\\" = .ok ["'a b'\\"] := by
  have before : commandWords.split "say 'a b'\\" = .ok ["say", "'a b'\\"] := by decide
  have behind : commandWords.split "\"c \\\"\" =" = .ok ["\"c \\\"\"", "="] := by decide
  obtain ⟨joined, single, -⟩ := split_composes forLine_defaultQuotes before
  refine ⟨before, ?_, single _ (by simp)⟩
  rw [joined '\t' (by decide) (by decide), behind]
  rfl

end CommandShell.Splitter
