import CommandShell.Proofs.Failure
import CommandShell.Proofs.Splitter.Token

/-! Reading a line twice. A line is first cut into tokens that keep their quotes, and each token is
freed of them later. For the quotes of any splitter this gives the tokens that one pass without
quotes gives, and a token that shows no delimiter of arguments is one field. -/

namespace CommandShell.Splitter
open Atom

variable {sp : Splitter} {p : List Atom}

theorem mapM_unquote {ps : List (List Atom)} (hl : ∀ p ∈ ps, Legible sp.quotes none p none)
    (hu : ∀ p ∈ ps, Uncut Text.isBlank p) :
    (ps.map fun p => String.ofList (sourceOf p)).mapM sp.unquote =
      .ok (ps.map fun p => String.ofList (Atom.text false p)) := by
  rw [List.mapM_map]
  exact mapM_eq_ok fun p hp => unquote_sourceOf (hl p hp) (hu p hp)

/-- A text shows a character outside its quotes. -/
def Shows (sp : Splitter) (c : Char) (text : String) : Prop :=
  bare c ∈ (read sp.quotes none text.toList).1

theorem shows_sourceOf {c : Char} (hl : Legible sp.quotes none p none) :
    sp.Shows c (String.ofList (sourceOf p)) ↔ bare c ∈ p := by
  rw [Shows, String.toList_ofList, hl.read_sourceOf]

/-- For all quotes a line splitter can have: reading a line with its quotes kept fails just when
reading it without them fails, for the same reason; and freeing the kept tokens of their quotes
gives the tokens of the other reading. A kept token that shows no equals sign is a single field. -/
theorem forLine_unquote_agrees {quotes : List String} {line : Splitter}
    (hline : forLine quotes = .ok line) :
    ∃ words, build " " quotes false none = .ok words ∧ ∀ text,
      (∀ e, line.split text = .error e ↔ words.split text = .error e) ∧
      ∀ tokens, line.split text = .ok tokens →
        (∃ plain, tokens.mapM line.unquote = .ok plain ∧ words.split text = .ok plain) ∧
        ∀ argument, forArgument quotes = .ok argument → ∀ token ∈ tokens, ¬line.Shows '=' token →
          ∃ field, line.unquote token = .ok field ∧ argument.split token = .ok [field] := by
  obtain ⟨words, hwords⟩ : ∃ words, build " " quotes false none = .ok words :=
    ⟨_, build_other_mode hline false none⟩
  refine ⟨words, hwords, ?_⟩
  intro text
  have hatoms : words.atoms text = line.atoms text := by
    rw [atoms, quotes_of_build hwords hline, atoms]
  rw [split_of_build_blank hline, split_of_build_blank hwords, hatoms]
  cases ha : line.atoms text with
  | error e =>
    refine ⟨fun _ => Iff.rfl, ?_⟩
    intro tokens h
    cases h
  | ok as =>
    have hclosed := (atoms_eq_ok.mp ha).1
    refine ⟨by simp [Except.map], ?_⟩
    rintro tokens ⟨⟩
    simp only [text_true]
    have hl : ∀ p ∈ pieces as, Legible line.quotes none p none :=
      fun p hp => legible_of_mem_pieces hclosed hp
    have hu : ∀ p ∈ pieces as, Uncut Text.isBlank p := fun p hp => uncut_of_mem_pieces hp
    refine ⟨⟨_, mapM_unquote hl hu, rfl⟩, ?_⟩
    intro argument hargument token htoken hshows
    obtain ⟨p, hp, rfl⟩ := List.mem_map.mp htoken
    have hquotes := quotes_of_build hargument hline
    have hbare : bare '=' ∉ p := fun hb => hshows ((shows_sourceOf (hl p hp)).mpr hb)
    have hfield := split_forArgument_single hargument (hquotes ▸ hl p hp) (hu p hp)
      (ne_nil_of_mem_pieces hp) hbare
    exact ⟨_, unquote_sourceOf (hl p hp) (hu p hp), hfield⟩

/-- Bars and backslashes as quotes: two backslashes enclose a blank, two bars an equals sign and
then nothing, and the last backslash escapes a bar. -/
theorem forLine_unquote_agrees_backslash :
    forLine ["|", "\\"] = .ok ⟨' ', ['|', '\\'], true, true, by decide, by decide⟩ ∧
      ∃ words, build " " ["|", "\\"] false none = .ok words ∧
        words.split "a|=| \\ \\ || \\|" = .ok ["a=", " ", "", "|"] := by
  refine ⟨rfl, ?_⟩
  have hline : forLine ["|", "\\"] =
    .ok ⟨' ', ['|', '\\'], true, true, by decide, by decide⟩ := rfl
  obtain ⟨words, hwords, h⟩ := forLine_unquote_agrees hline
  refine ⟨words, hwords, ?_⟩
  obtain ⟨⟨plain, hplain, hsplit⟩, -⟩ := (h "a|=| \\ \\ || \\|").2 _ rfl
  rw [hsplit, ← hplain]
  rfl

end CommandShell.Splitter
