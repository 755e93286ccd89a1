import CommandShell.Proofs.Session.Ending
import CommandShell.Proofs.Signature
import CommandShell.Proofs.Text.Colour

/-! What becomes of failing statements. A run of statements goes on after each failure, from the
state the failed statement left with one line of output more. An `exit` ends it early, and so does a
handler that interrupts or raises a failure without a message. -/

namespace CommandShell.Session

variable {δ : Type}

inductive Runs (nested : Nested δ) (splitters : Splitters) : Session δ → List String →
    List ShellError → Except Raised Bool → Session δ → Prop
  | done (s : Session δ) : Runs nested splitters s [] [] (.ok false) s
  | passed {s t u : Session δ} {statement : String} {rest : List String}
      {failures : List ShellError} {result : Except Raised Bool}
      (first : Ends nested splitters s statement .passed t)
      (others : Runs nested splitters t rest failures result u) :
      Runs nested splitters s (statement :: rest) failures result u
  | failed {s t u : Session δ} {statement : String} {rest : List String} {e : ShellError}
      {failures : List ShellError} {result : Except Raised Bool}
      (first : Ends nested splitters s statement (.failed e) t)
      (others : Runs nested splitters (told e t) rest failures result u) :
      Runs nested splitters s (statement :: rest) (e :: failures) result u
  | left {s t : Session δ} {statement : String} {rest : List String}
      (first : Ends nested splitters s statement .left t) :
      Runs nested splitters s (statement :: rest) [] (.ok true) t
  | escaped {s t : Session δ} {statement : String} {rest : List String} {e : Raised}
      (first : Ends nested splitters s statement (.escaped e) t) :
      Runs nested splitters s (statement :: rest) [] (.error (escape e)) (escaping e t)

theorem exists_runs {quotes : List String} {splitters : Splitters}
    (hquotes : buildSplitters quotes = .ok splitters) (nested : Nested δ) (s : Session δ)
    (statements : List String) :
    ∃ failures result t, Runs nested splitters s statements failures result t := by
  induction statements generalizing s with
  | nil => exact ⟨_, _, _, .done s⟩
  | cons statement rest ih =>
    obtain ⟨ending, t, first⟩ := exists_ends hquotes nested s statement
    cases ending with
    | passed =>
      obtain ⟨failures, result, u, others⟩ := ih t
      exact ⟨_, _, _, .passed first others⟩
    | left => exact ⟨_, _, _, .left first⟩
    | failed e =>
      obtain ⟨failures, result, u, others⟩ := ih (told e t)
      exact ⟨_, _, _, .failed first others⟩
    | escaped e => exact ⟨_, _, _, .escaped first⟩

theorem Ends.splitters_eq {depth : Nat} {splitters : Splitters} {s t : Session δ}
    {statement : String} {ending : Ending} (built : s.splitters = some splitters)
    (h : Ends (nestedAt depth) splitters s statement ending t) : t.splitters = some splitters := by
  have stable := (stable_splitters (δ := δ) splitters).compositional
  have kept := stable.runStatement (stable.nestedAt depth) splitters.line statement s built
  have run := h.runStatement_eq built
  have hafter : after (runStatement (nestedAt depth) splitters.line statement) s = t := by
    rw [after, run]
    cases ending <;> rfl
  rwa [hafter] at kept

theorem runStatements_cons_of_ends {nested : Nested δ} {splitters : Splitters} {s t : Session δ}
    {statement : String} {rest : List String} {ending : Ending}
    (built : s.splitters = some splitters) (h : Ends nested splitters s statement ending t) :
    runStatements nested splitters.line (statement :: rest) s = match ending with
      | .passed => runStatements nested splitters.line rest t
      | .failed e => runStatements nested splitters.line rest (told e t)
      | .left => .ok true t
      | .escaped e => .error (escape e) (escaping e t) := by
  rw [runStatements, bind_apply, reported_apply, h.runStatement_eq built]
  cases ending with
  | escaped e =>
    cases e with
    | shell e => exact absurd rfl (h.ne_escaped e)
    | _ => rfl
  | _ => rfl

theorem Runs.runStatements_eq {depth : Nat} {splitters : Splitters} {s t : Session δ}
    {statements : List String} {failures : List ShellError} {result : Except Raised Bool}
    (built : s.splitters = some splitters)
    (h : Runs (nestedAt depth) splitters s statements failures result t) :
    runStatements (nestedAt depth) splitters.line statements s = ofExcept result t := by
  induction h with
  | done s => rfl
  | passed first others ih =>
    rw [runStatements_cons_of_ends built first]
    exact ih (first.splitters_eq built)
  | failed first others ih =>
    rw [runStatements_cons_of_ends built first]
    have kept := first.splitters_eq built
    exact ih kept
  | left first | escaped first =>
    rw [runStatements_cons_of_ends built first]
    rfl

theorem Runs.executeAt_eq {depth : Nat} {splitters : Splitters} {s t : Session δ} {line : String}
    {failures : List ShellError} {result : Except Raised Bool}
    (built : s.splitters = some splitters)
    (h : Runs (nestedAt depth) splitters s (Statement.split line) failures result t) :
    executeAt depth line s = ofExcept result t := by
  rw [Session.executeAt_eq, executeLineWith, bind_apply, getLineSplitter_of_some built]
  exact h.runStatements_eq built

theorem Runs.of_ends {nested : Nested δ} {splitters : Splitters} {s t u : Session δ}
    {statement : String} {rest : List String} {ending : Ending} {failures : List ShellError}
    {result : Except Raised Bool} (built : s.splitters = some splitters)
    (first : Ends nested splitters s statement ending t)
    (h : Runs nested splitters s (statement :: rest) failures result u) :
    match ending with
    | .passed => Runs nested splitters t rest failures result u
    | .failed e => ∃ others, failures = e :: others ∧
        Runs nested splitters (told e t) rest others result u
    | .left | .escaped _ => failures = [] := by
  cases h with
  | passed first' others =>
    obtain ⟨rfl, rfl⟩ := first'.unique built first
    exact others
  | failed first' others =>
    obtain ⟨rfl, rfl⟩ := first'.unique built first
    exact ⟨_, rfl, others⟩
  | left first' =>
    obtain ⟨rfl, rfl⟩ := first'.unique built first
    rfl
  | escaped first' =>
    obtain ⟨rfl, rfl⟩ := first'.unique built first
    rfl

theorem Runs.failures_unique {depth : Nat} {splitters : Splitters} {s t t' : Session δ}
    {statements : List String} {failures failures' : List ShellError}
    {result result' : Except Raised Bool} (built : s.splitters = some splitters)
    (h : Runs (nestedAt depth) splitters s statements failures result t)
    (h' : Runs (nestedAt depth) splitters s statements failures' result' t') :
    failures' = failures := by
  induction h generalizing failures' with
  | done s =>
    cases h'
    rfl
  | passed first others ih => exact ih (first.splitters_eq built) (h'.of_ends built first)
  | failed first others ih =>
    obtain ⟨rest, rfl, hrest⟩ := h'.of_ends built first
    have kept := first.splitters_eq built
    rw [ih kept hrest]
  | left first => exact h'.of_ends built first
  | escaped first => exact h'.of_ends built first

/-- What gets out of a run of statements, and where from: a handler interrupts or raises a failure
without a message, after the statements before it were run. -/
inductive Leaks (nested : Nested δ) (splitters : Splitters) (s : Session δ)
    (statements : List String) : Raised → Prop
  | interrupt {before after : List String} {statement : String} {failures : List ShellError}
      {u v : Session δ} {c : Call δ} {i : Interrupt}
      (split : statements = before ++ statement :: after)
      (earlier : Runs nested splitters s before failures (.ok false) u)
      (calls : Calls splitters u statement c)
      (run : c.answer nested (c.start u) = .error (.interrupt i) v) :
      Leaks nested splitters s statements (.interrupt i)
  | untold {before after : List String} {statement : String} {failures : List ShellError}
      {u v : Session δ} {c : Call δ} {kind : Untold} {failure : Raised}
      (split : statements = before ++ statement :: after)
      (earlier : Runs nested splitters s before failures (.ok false) u)
      (calls : Calls splitters u statement c)
      (run : c.answer nested (c.start u) = .error (.untold kind failure) v) :
      Leaks nested splitters s statements (escape (blamed c.name (.untold kind failure)))

theorem Leaks.of_rest {nested : Nested δ} {splitters : Splitters} {s t : Session δ}
    {statement : String} {rest : List String} {e : Raised}
    (extend : ∀ {before : List String} {failures : List ShellError} {u : Session δ},
      Runs nested splitters t before failures (.ok false) u →
        ∃ more, Runs nested splitters s (statement :: before) more (.ok false) u)
    (h : Leaks nested splitters t rest e) : Leaks nested splitters s (statement :: rest) e := by
  cases h with
  | interrupt split earlier calls run =>
    obtain ⟨more, runs⟩ := extend earlier
    exact .interrupt (by rw [split]; rfl) runs calls run
  | untold split earlier calls run =>
    obtain ⟨more, runs⟩ := extend earlier
    exact .untold (by rw [split]; rfl) runs calls run

theorem Ends.leaks {nested : Nested δ} {splitters : Splitters} {s t : Session δ}
    {statement : String} {e : Raised} (h : Ends nested splitters s statement (.escaped e) t)
    (rest : List String) : Leaks nested splitters s (statement :: rest) (escape e) := by
  cases h with
  | interrupted calls run => exact .interrupt (List.nil_append _).symm (.done s) calls run
  | untold calls run becomes =>
    rw [← Ending.eq_of_ofRaised_eq_escaped becomes.symm]
    exact .untold (List.nil_append _).symm (.done s) calls run

theorem Runs.leaks {nested : Nested δ} {splitters : Splitters} {s t : Session δ}
    {statements : List String} {failures : List ShellError} {result : Except Raised Bool}
    (h : Runs nested splitters s statements failures result t) {e : Raised}
    (raised : result = .error e) : Leaks nested splitters s statements e := by
  induction h with
  | done | left => cases raised
  | passed first others ih => exact (ih raised).of_rest fun runs => ⟨_, .passed first runs⟩
  | failed first others ih => exact (ih raised).of_rest fun runs => ⟨_, .failed first runs⟩
  | escaped first =>
    cases raised
    exact first.leaks _

/-- Nothing gets out of a line but what a handler lets out: an interrupt, or what is raised instead
of a message. Each statement ends in one of the ways of `Ends`, each failure is reported by one line
of output, which begins with `Error`, and no other one is, and the statements after it are run. -/
theorem executeAt_reports (depth : Nat) {quotes : List String} {splitters : Splitters}
    (hquotes : buildSplitters quotes = .ok splitters) {s : Session δ}
    (built : s.splitters = some splitters) (line : String) :
    (∀ e t, executeAt depth line s = .error e t →
      Leaks (nestedAt depth) splitters s (Statement.split line) e) ∧
    (∀ e (t : Session δ), (told e t).output.written = t.output.written ++
      Text.styledLine "\x1b[31m" t.output.isTerminal ("Error: " ++ e.message)) ∧
    ∃ failures result t,
      Runs (nestedAt depth) splitters s (Statement.split line) failures result t ∧
        executeAt depth line s = ofExcept result t ∧
        ∀ failures' result' t', Runs (nestedAt depth) splitters s (Statement.split line)
          failures' result' t' → failures' = failures := by
  obtain ⟨failures, result, t, runs⟩ :=
    exists_runs hquotes (nestedAt depth) s (Statement.split line)
  have heq : executeAt depth line s = ofExcept result t := runs.executeAt_eq built
  refine ⟨fun e u raised => ?_, fun e t => ?_, failures, result, t, runs, heq,
    fun _ _ _ h => runs.failures_unique built h⟩
  · rw [heq] at raised
    cases result with
    | ok ended => cases raised
    | error e =>
      cases raised
      exact runs.leaks rfl
  · exact congrArg Output.written (Text.printLine_paint t.output .red ("Error: " ++ e.message))

theorem executeAt_reports_all :
    let line := "help 'a; nothing; help a=b=c"
    let failures := [.tokenize "help 'a" "unterminated ' quote", ready.commands.unknown "nothing",
      .invalidArgument "a=b=c"]
    ∃ t, Runs (nestedAt 0) standardSplitters ready (Statement.split line) failures (.ok false) t ∧
      executeAt 0 line ready = .ok false t ∧
      t.output.written = "Error: error splitting \"help 'a\": unterminated ' quote\n" ++
        "Error: unknown command: nothing\nError: invalid argument: a=b=c\n" := by
  intro line failures
  have hsplit : Statement.split line = ["help 'a", "nothing", "help a=b=c"] := by decide
  have openQuote : standardSplitters.line.split "help 'a" = .error ⟨"help 'a", '\''⟩ := by decide
  have one : standardSplitters.line.split "nothing" = .ok ["nothing"] := by decide
  have nothing : standardSplitters.line.unquote "nothing" = .ok "nothing" := by decide
  have two : standardSplitters.line.split "help a=b=c" = .ok ("help" :: ([] ++ ["a=b=c"])) := by
    decide
  have help : standardSplitters.line.unquote "help" = .ok "help" := by decide
  have three : standardSplitters.argument.split "a=b=c" = .ok ["a", "b", "c"] := by decide
  let first := told (.tokenize "help 'a" "unterminated ' quote") ready
  let second := told (ready.commands.unknown "nothing") first
  let third := told (.invalidArgument "a=b=c") second
  have runs : Runs (nestedAt 0) standardSplitters ready (Statement.split line) failures
      (.ok false) third := by
    rw [hsplit]
    exact .failed (.unreadable openQuote) (.failed (.unknown one nothing (by decide) rfl)
      (.failed (.invalid two help (by decide) rfl (by simp) three (by decide)) (.done _)))
  obtain ⟨-, reported, -⟩ := executeAt_reports 0 buildSplitters_defaultQuotes (s := ready) rfl line
  refine ⟨third, runs, runs.executeAt_eq rfl, ?_⟩
  rw [reported, reported, reported]
  decide +kernel

/-- A handler does not find a key that has no text: nothing is reported, and the statement after it
is not run. -/
theorem executeAt_reports_untold :
    let failure : Raised := .fault (.value ("Exceeds the limit (4300 digits) for integer string " ++
      "conversion; use sys.set_int_max_str_digits() to increase the limit"))
    let s := ready.knowing "fail" (.missingKey (.int (Nat.pow 10 Decimal.integerLimit)))
    failure.isOrdinary = true ∧ ∃ t, executeAt 0 "fail; help" s = .error failure t ∧
      t.output.written = "" ∧ t.invocations = [⟨"fail", .bundled, []⟩] := by
  intro failure s
  have known : s = ready.knowing "fail" (.untold .other failure) :=
    congrArg (ready.knowing "fail") (Value.missingKey_of_limit_le (Nat.le_refl _))
  let u := ready.knowing "fail" (.untold .other failure)
  let c : Call Unit := ⟨"fail", raising (.untold .other failure), .empty⟩
  have hsplit : Statement.split "fail; help" = ["fail", "help"] := by decide
  have tokens : standardSplitters.line.split "fail" = .ok ["fail"] := by decide
  have unquoted : standardSplitters.line.unquote "fail" = .ok "fail" := by decide
  have calls : Calls standardSplitters u "fail" c := .intro tokens unquoted (by decide) rfl (by simp)
  have runs : Runs (nestedAt 0) standardSplitters u (Statement.split "fail; help") []
      (.error failure) (c.start u) := by
    rw [hsplit]
    exact .escaped (.untold calls rfl rfl)
  rw [known]
  exact ⟨rfl, _, runs.executeAt_eq rfl, rfl, rfl⟩

end CommandShell.Session
