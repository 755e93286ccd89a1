import CommandShell.Proofs.Registry
import CommandShell.Proofs.Session.Call
import CommandShell.Proofs.Splitter.Token

/-! How statements end. Under splitters built from the same quotes a statement ends in one of eleven
ways, which `Ends` lists with the state that is left. What a handler does wrong is a failure of its
command, unless it interrupts or its failure has no message. -/

namespace CommandShell

def Outcome.isFailure : Outcome → Bool
  | .result r => !r.ok
  | _ => false

inductive Ending
  | passed
  | left
  | failed (e : ShellError)
  | escaped (e : Raised)

namespace Ending

def result {δ : Type} : Ending → Session δ → EStateM.Result Raised (Session δ) Bool
  | passed, t => .ok false t
  | left, t => .ok true t
  | failed e, t => .error (.shell e) t
  | escaped e, t => .error e t

def ofRaised : Raised → Ending
  | .shell e => failed e
  | e => escaped e

theorem result_ofRaised {δ : Type} (e : Raised) (t : Session δ) :
    (ofRaised e).result t = .error e t := by
  cases e <;> rfl

theorem ofRaised_ne_left (e : Raised) : ofRaised e ≠ left := by
  cases e <;> simp [ofRaised]

theorem eq_of_ofRaised_eq_escaped {e e' : Raised} (h : ofRaised e = escaped e') : e = e' := by
  cases e <;> cases h
  all_goals rfl

theorem eq_of_ofRaised_eq_failed {e : Raised} {e' : ShellError} (h : ofRaised e = failed e') :
    e = .shell e' := by
  cases e <;> cases h
  rfl

theorem ofRaised_ne_escaped (e : Raised) (e' : ShellError) : ofRaised e ≠ escaped (.shell e') := by
  cases e <;> simp [ofRaised]

theorem eq_of_result_eq {δ : Type} {ending ending' : Ending} {t t' : Session δ}
    (proper : ∀ e, ending ≠ escaped (.shell e)) (proper' : ∀ e, ending' ≠ escaped (.shell e))
    (same : ending'.result t' = ending.result t) : ending' = ending ∧ t' = t := by
  cases ending <;> cases ending' <;> cases same
  · exact ⟨rfl, rfl⟩
  · exact ⟨rfl, rfl⟩
  · exact ⟨rfl, rfl⟩
  · exact absurd rfl (proper' _)
  · exact absurd rfl (proper _)
  · exact ⟨rfl, rfl⟩

end Ending

namespace Session

variable {δ : Type}

inductive Ends (nested : Nested δ) (splitters : Splitters) (s : Session δ) (statement : String) :
    Ending → Session δ → Prop
  | blank (tokens : splitters.line.split statement = .ok []) :
      Ends nested splitters s statement .passed s
  | left {first : String} {rest : List String} {word : String}
      (tokens : splitters.line.split statement = .ok (first :: rest))
      (unquoted : splitters.line.unquote first = .ok word) (reserved : isReserved word = true) :
      Ends nested splitters s statement .left s
  | unreadable {e : OpenQuote} (unread : splitters.line.split statement = .error e) :
      Ends nested splitters s statement (.failed (.tokenize e.text e.reason)) s
  | unknown {first : String} {rest : List String} {word : String}
      (tokens : splitters.line.split statement = .ok (first :: rest))
      (unquoted : splitters.line.unquote first = .ok word) (free : isReserved word = false)
      (absent : s.commands.resolve word = none) :
      Ends nested splitters s statement (.failed (s.commands.unknown word)) s
  | invalid {first : String} {before after : List String} {token word name : String}
      {command : Command δ} {fields : List String}
      (tokens : splitters.line.split statement = .ok (first :: (before ++ token :: after)))
      (unquoted : splitters.line.unquote first = .ok word) (free : isReserved word = false)
      (found : s.commands.lookup word = .ok (name, command))
      (fits : ∀ t ∈ before, Binding.Fits splitters.argument t)
      (split : splitters.argument.split token = .ok fields)
      (misfit : ¬(fields.length = 1 ∨ fields.length = 2)) :
      Ends nested splitters s statement (.failed (.invalidArgument token))
        (discarding
          (Binding.ofTokens splitters.argument command.signature.parameters before).1.surplus s)
  | finished {c : Call δ} {outcome : Outcome} {t : Session δ}
      (calls : Calls splitters s statement c) (run : c.answer nested (c.start s) = .ok outcome t)
      (success : outcome.isFailure = false) :
      Ends nested splitters s statement .passed (after (report c.name outcome) t)
  | refused {c : Call δ} {r : CommandResult} {t : Session δ} (calls : Calls splitters s statement c)
      (run : c.answer nested (c.start s) = .ok (.result r) t) (failure : r.ok = false) :
      Ends nested splitters s statement (.failed (.handler c.name r.text)) t
  | raised {c : Call δ} {e : ShellError} {t : Session δ} (calls : Calls splitters s statement c)
      (run : c.answer nested (c.start s) = .error (.shell e) t) :
      Ends nested splitters s statement (.failed e) t
  | faulted {c : Call δ} {f : Fault} {t : Session δ} (calls : Calls splitters s statement c)
      (run : c.answer nested (c.start s) = .error (.fault f) t) :
      Ends nested splitters s statement
        (.failed (.handler c.name (c.name ++ ": " ++ (f.label ++ ": " ++ f.message)))) t
  | interrupted {c : Call δ} {i : Interrupt} {t : Session δ} (calls : Calls splitters s statement c)
      (run : c.answer nested (c.start s) = .error (.interrupt i) t) :
      Ends nested splitters s statement (.escaped (.interrupt i)) t
  | untold {c : Call δ} {kind : Untold} {failure : Raised} {ending : Ending} {t : Session δ}
      (calls : Calls splitters s statement c)
      (run : c.answer nested (c.start s) = .error (.untold kind failure) t)
      (becomes : ending = .ofRaised (blamed c.name (.untold kind failure))) :
      Ends nested splitters s statement ending t

theorem forLine_forArgument_of_build {quotes : List String} {splitters : Splitters}
    (h : buildSplitters quotes = .ok splitters) :
    Splitter.forLine quotes = .ok splitters.line ∧
      Splitter.forArgument quotes = .ok splitters.argument := by
  unfold buildSplitters at h
  split at h
  · cases h
  · next line hline =>
    split at h
    · cases h
    · next argument hargument =>
      cases h
      exact ⟨hline, hargument⟩

theorem exists_first_misfit {sp : Splitter} {tokens : List String}
    (h : ¬∀ t ∈ tokens, Binding.Fits sp t) :
    ∃ before token after, tokens = before ++ token :: after ∧
      (∀ t ∈ before, Binding.Fits sp t) ∧ ¬Binding.Fits sp token := by
  induction tokens with
  | nil => simp at h
  | cons t tokens ih =>
    by_cases ht : Binding.Fits sp t
    · have hrest : ¬∀ t ∈ tokens, Binding.Fits sp t := by
        intro hrest
        exact h (List.forall_mem_cons.mpr ⟨ht, hrest⟩)
      obtain ⟨before, token, after, rfl, hbefore, htoken⟩ := ih hrest
      exact ⟨t :: before, token, after, rfl, List.forall_mem_cons.mpr ⟨ht, hbefore⟩, htoken⟩
    · exact ⟨[], t, tokens, rfl, by simp, ht⟩

theorem exists_ends_of_calls {splitters : Splitters} {s : Session δ} {statement : String}
    {c : Call δ} (calls : Calls splitters s statement c) (nested : Nested δ) :
    ∃ ending t, Ends nested splitters s statement ending t := by
  cases run : c.answer nested (c.start s) with
  | ok outcome t =>
    cases outcome with
    | result r =>
      cases hr : r.ok with
      | true => exact ⟨_, _, .finished calls run (by simp [Outcome.isFailure, hr])⟩
      | false => exact ⟨_, _, .refused calls run hr⟩
    | _ => exact ⟨_, _, .finished calls run rfl⟩
  | error e t =>
    cases e with
    | shell e => exact ⟨_, _, .raised calls run⟩
    | fault f => exact ⟨_, _, .faulted calls run⟩
    | interrupt i => exact ⟨_, _, .interrupted calls run⟩
    | untold kind failure => exact ⟨_, _, .untold calls run rfl⟩

theorem exists_ends {quotes : List String} {splitters : Splitters}
    (hquotes : buildSplitters quotes = .ok splitters) (nested : Nested δ) (s : Session δ)
    (statement : String) : ∃ ending t, Ends nested splitters s statement ending t := by
  obtain ⟨hline, hargument⟩ := forLine_forArgument_of_build hquotes
  cases tokens : splitters.line.split statement with
  | error e => exact ⟨_, _, .unreadable tokens⟩
  | ok all =>
    cases all with
    | nil => exact ⟨_, _, .blank tokens⟩
    | cons first rest =>
      -- no token is unreadable, so a binding can only fail for a number of fields
      have readable := fun t (ht : t ∈ first :: rest) =>
        Splitter.readable_of_mem_split hline hargument tokens ht
      obtain ⟨⟨word, unquoted⟩, -⟩ := readable first List.mem_cons_self
      cases free : isReserved word with
      | true => exact ⟨_, _, .left tokens unquoted free⟩
      | false =>
        cases absent : s.commands.resolve word with
        | none => exact ⟨_, _, .unknown tokens unquoted free absent⟩
        | some name =>
          obtain ⟨command, found⟩ := Registry.lookup_of_resolve absent
          by_cases fits : ∀ t ∈ rest, Binding.Fits splitters.argument t
          · exact exists_ends_of_calls (.intro tokens unquoted free found fits) nested
          · obtain ⟨before, token, after, rfl, hbefore, htoken⟩ := exists_first_misfit fits
            obtain ⟨-, fields, split⟩ := readable token (by simp)
            have misfit : ¬(fields.length = 1 ∨ fields.length = 2) :=
              fun h => htoken ⟨fields, split, h⟩
            exact ⟨_, _, .invalid tokens unquoted free found hbefore split misfit⟩

theorem handled_apply (nested : Nested δ) (name : String) (command : Command δ)
    (arguments : Arguments) (s : Session δ) :
    handled nested name command arguments s =
      match runAction nested (command.handler.run arguments) s with
      | .ok outcome t => report name outcome t
      | .error e t => .error (blamed name e) t := by
  rw [handled, bind_apply, blame, tryCatch_apply]
  cases runAction nested (command.handler.run arguments) s <;> rfl

theorem report_of_failure {r : CommandResult} (h : r.ok = false) (name : String) (s : Session δ) :
    report name (.result r) s = .error (.shell (.handler name r.text)) s := by
  unfold report
  simp only [h, Bool.not_false, if_true]
  rw [bind_apply]
  rfl

theorem report_of_success {outcome : Outcome} (h : outcome.isFailure = false) (name : String)
    (s : Session δ) : report name outcome s = .ok outcome (after (report name outcome) s) := by
  cases outcome with
  | nothing => rfl
  | value v => rfl
  | text t =>
    unfold report
    dsimp only
    split <;> rfl
  | result r =>
    have hr : r.ok = true := by simpa [Outcome.isFailure] using h
    unfold report
    simp only [hr, Bool.not_true]
    by_cases hm : r.message != "" <;> simp only [hm] <;> rfl

theorem discard_apply {α : Type} (x : SessionM δ α) (b : Bool) (s : Session δ) :
    (do discard x; pure b : SessionM δ Bool) s = match x s with
      | .ok _ t => .ok b t
      | .error e t => .error e t := by
  have h : discard x s = _ := bind_apply x (fun _ => pure ()) s
  rw [bind_apply, h]
  cases x s <;> rfl

theorem runStatement_of_answer {nested : Nested δ} {splitters : Splitters} {s : Session δ}
    {statement : String} {c : Call δ} (built : s.splitters = some splitters)
    (calls : Calls splitters s statement c) :
    runStatement nested splitters.line statement s = match c.answer nested (c.start s) with
      | .ok outcome t => match report c.name outcome t with
        | .ok _ u => .ok false u
        | .error e u => .error e u
      | .error e t => .error (blamed c.name e) t := by
  rw [runStatement_of_calls built calls, discard_apply, handled_apply, ← Call.answer]
  cases c.answer nested (c.start s) with
  | ok outcome t =>
    dsimp only
    cases report c.name outcome t <;> rfl
  | error e t => rfl

theorem Ends.runStatement_eq {nested : Nested δ} {splitters : Splitters} {s t : Session δ}
    {statement : String} {ending : Ending} (built : s.splitters = some splitters)
    (h : Ends nested splitters s statement ending t) :
    runStatement nested splitters.line statement s = ending.result t := by
  cases h with
  | blank tokens =>
    rw [runStatement, tokens]
    rfl
  | left tokens unquoted reserved =>
    rw [runStatement, tokens]
    simp only [ofReading, pure_bind, unquoted, reserved, if_true]
    rfl
  | unreadable unread =>
    rw [runStatement, unread]
    rfl
  | unknown tokens unquoted free absent =>
    rw [runStatement_of_word tokens unquoted free, discard_apply, dispatch_cons built unquoted,
      Registry.lookup_of_resolve_none absent]
    rfl
  | invalid tokens unquoted free found fits split misfit =>
    rw [runStatement_of_word tokens unquoted free, discard_apply, dispatch_cons built unquoted,
      found]
    dsimp only
    rw [bind_apply, bindTokens_apply, Binding.ofTokens_of_misfit fits split misfit]
    rfl
  | finished calls run success =>
    rw [runStatement_of_answer built calls, run]
    dsimp only
    rw [report_of_success success]
    rfl
  | refused calls run failure =>
    rw [runStatement_of_answer built calls, run]
    dsimp only
    rw [report_of_failure failure]
    rfl
  | raised calls run | faulted calls run | interrupted calls run =>
    rw [runStatement_of_answer built calls, run]
    rfl
  | untold calls run becomes =>
    rw [runStatement_of_answer built calls, run, becomes, Ending.result_ofRaised]

theorem Ends.ne_escaped {nested : Nested δ} {splitters : Splitters} {s t : Session δ}
    {statement : String} {ending : Ending} (h : Ends nested splitters s statement ending t)
    (e : ShellError) : ending ≠ .escaped (.shell e) := by
  rintro rfl
  cases h with
  | untold calls run becomes => exact Ending.ofRaised_ne_escaped _ e becomes.symm

theorem Ends.unique {nested : Nested δ} {splitters : Splitters} {s t t' : Session δ}
    {statement : String} {ending ending' : Ending} (built : s.splitters = some splitters)
    (h : Ends nested splitters s statement ending t)
    (h' : Ends nested splitters s statement ending' t') : ending' = ending ∧ t' = t := by
  have hresult : ending'.result t' = ending.result t := by
    rw [← h.runStatement_eq built, h'.runStatement_eq built]
  exact Ending.eq_of_result_eq h.ne_escaped h'.ne_escaped hresult

end Session
end CommandShell
