import CommandShell.Proofs.Session.Ended

/-! Texts with a quote left open. Whether a text can be read depends on the quotes alone, and what
the line splitter returns can always be read again. So of the texts that the shell reads while it
executes a line only whole statements are refused; any other text that a failure quotes comes from a
handler. -/

namespace CommandShell.Session
open Splitter

variable {δ : Type} {nested : Nested δ} {splitters : Splitters} {s t : Session δ}

/-- Why a statement fails with a text that cannot be read: it is the statement itself, or the
handler that the statement calls raises this, outright or where a message is asked for. -/
inductive Misread (nested : Nested δ) (splitters : Splitters) (s : Session δ) (statement : String) :
    (text reason : String) → Prop
  | whole {e : OpenQuote} (unread : splitters.line.split statement = .error e) :
      Misread nested splitters s statement statement e.reason
  | handler {c : Call δ} {e : Raised} {text reason : String} {t : Session δ}
      (calls : Calls splitters s statement c) (run : c.answer nested (c.start s) = .error e t)
      (becomes : blamed c.name e = .shell (.tokenize text reason)) :
      Misread nested splitters s statement text reason

theorem Ends.misread {statement text reason : String}
    (h : Ends nested splitters s statement (.failed (.tokenize text reason)) t) :
    Misread nested splitters s statement text reason := by
  generalize hending : Ending.failed (.tokenize text reason) = ending at h
  cases h with
  | unreadable unread =>
    obtain ⟨rfl, rfl⟩ : text = _ ∧ reason = _ := by simpa using hending
    rw [text_of_split_error unread]
    exact .whole unread
  | raised calls run =>
    obtain rfl : ShellError.tokenize text reason = _ := by simpa using hending
    exact .handler calls run rfl
  | untold calls run becomes =>
    exact .handler calls run (Ending.eq_of_ofRaised_eq_failed (becomes.symm.trans hending.symm))
  | blank | left | finished | interrupted => cases hending
  | unknown | invalid | refused | faulted => simp [Registry.unknown] at hending

theorem Runs.exists_ends {statements : List String} {failures : List ShellError}
    {result : Except Raised Bool} (h : Runs nested splitters s statements failures result t)
    {e : ShellError} (failed : e ∈ failures) :
    ∃ before statement after earlier u v, statements = before ++ statement :: after ∧
      Runs nested splitters s before earlier (.ok false) u ∧
      Ends nested splitters u statement (.failed e) v := by
  induction h with
  | done | left | escaped => cases failed
  | @passed s t u statement rest failures result first others ih =>
    obtain ⟨before, other, after, earlier, v, w, rfl, runs, ends⟩ := ih failed
    exact ⟨statement :: before, other, after, earlier, v, w, rfl, .passed first runs, ends⟩
  | @failed s t u statement rest e' failures result first others ih =>
    rcases List.mem_cons.mp failed with rfl | failed
    · exact ⟨[], statement, rest, [], s, t, rfl, .done s, first⟩
    · obtain ⟨before, other, after, earlier, v, w, rfl, runs, ends⟩ := ih failed
      exact ⟨statement :: before, other, after, e' :: earlier, v, w, rfl, .failed first runs, ends⟩

/-- Any two splitters with the same quotes refuse the same texts for the same reason, whether they
split them or free them of quotes. What the line splitter of a session returns is refused by
neither of its splitters, so that a line fails with a text that cannot be read only for a statement
as a whole, or because a handler raises this. -/
theorem executeAt_misread (quotes : List String) :
    (∀ d keep empties sp d' keep' empties' sp', build d quotes keep empties = .ok sp →
      build d' quotes keep' empties' = .ok sp' → ∀ text e,
        (sp.split text = .error e ↔ sp'.split text = .error e) ∧
        (sp.unquote text = .error e ↔ sp'.split text = .error e)) ∧
    ∀ splitters, buildSplitters quotes = .ok splitters →
      (∀ text tokens, splitters.line.split text = .ok tokens → ∀ token ∈ tokens,
        (∃ word, splitters.line.unquote token = .ok word) ∧
        ∃ fields, splitters.argument.split token = .ok fields) ∧
      ∀ {δ : Type} (s : Session δ), Accepts splitters s → ∀ depth line, ∃ failures result t,
        Runs (nestedAt depth) splitters (s.withSplitters splitters)
            (Statement.split line) failures result t ∧
          executeAt depth line s = ofExcept result t ∧
          ∀ text reason, .tokenize text reason ∈ failures →
            ∃ before statement after earlier u,
              Statement.split line = before ++ statement :: after ∧
              Runs (nestedAt depth) splitters (s.withSplitters splitters) before earlier
                (.ok false) u ∧
              Misread (nestedAt depth) splitters u statement text reason := by
  constructor
  · intro d keep empties sp d' keep' empties' sp' built built' text e
    have hquotes := quotes_of_build built built'
    rw [split_eq_error_iff, split_eq_error_iff, unquote_eq_error_iff, atoms_congr hquotes]
    exact ⟨Iff.rfl, Iff.rfl⟩
  · intro splitters hquotes
    obtain ⟨hline, hargument⟩ := forLine_forArgument_of_build hquotes
    refine ⟨fun text tokens split token ht => readable_of_mem_split hline hargument split ht, ?_⟩
    intro δ s accepts depth line
    obtain ⟨failures, result, t, runs⟩ := exists_runs hquotes (nestedAt depth)
      (s.withSplitters splitters) (Statement.split line)
    refine ⟨failures, result, t, runs, ?_, fun text reason failed => ?_⟩
    · rw [accepts.executeAt_eq]
      exact runs.executeAt_eq (splitters_withSplitters splitters s)
    · obtain ⟨before, statement, after, earlier, u, v, heq, earlierRuns, ends⟩ :=
        runs.exists_ends failed
      exact ⟨before, statement, after, earlier, u, heq, earlierRuns, ends.misread⟩

theorem executeAt_misread_second :
    (commandWords.split "x='a b" = .error ⟨"x='a b", '\''⟩ ↔
      fields.split "x='a b" = .error ⟨"x='a b", '\''⟩) ∧
    (∃ pieces, fields.split "x='a b'" = .ok pieces) ∧
    ∃ before statement after earlier u,
      ["nothing", "help x='a b"] = before ++ statement :: after ∧
        Runs (nestedAt 0) standardSplitters ready before earlier (.ok false) u ∧
        Misread (nestedAt 0) standardSplitters u statement "help x='a b"
          "unterminated ' quote" := by
  obtain ⟨agree, h⟩ := executeAt_misread defaultQuotes
  obtain ⟨readable, reports⟩ := h _ buildSplitters_defaultQuotes
  have accepts : Accepts standardSplitters ready :=
    ⟨⟨_, buildSplitters_defaultQuotes⟩, .inl rfl⟩
  have line : Statement.split "nothing; help x='a b" = ["nothing", "help x='a b"] := by decide
  refine ⟨(agree " " true none _ "=" false (some false) _ rfl rfl _ _).1, ?_, ?_⟩
  · have tokens : commandWords.split "help x='a b'" = .ok ["help", "x='a b'"] := by decide
    exact (readable _ _ tokens "x='a b'" (by simp)).2
  · have one : standardSplitters.line.split "nothing" = .ok ["nothing"] := by decide
    have nothing : standardSplitters.line.unquote "nothing" = .ok "nothing" := by decide
    have openQuote : standardSplitters.line.split "help x='a b" =
        .error ⟨"help x='a b", '\''⟩ := by decide
    obtain ⟨failures, result, t, runs, -, misread⟩ := reports ready accepts 0 "nothing; help x='a b"
    rw [line] at runs misread
    have known : Runs (nestedAt 0) standardSplitters ready ["nothing", "help x='a b"] _ _ _ :=
      .failed (.unknown one nothing (by decide) rfl) (.failed (.unreadable openQuote) (.done _))
    obtain rfl := known.failures_unique rfl runs
    exact misread _ _ (by simp [OpenQuote.reason])

end CommandShell.Session
