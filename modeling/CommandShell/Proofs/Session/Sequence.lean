import CommandShell.Proofs.Session.Stable
import CommandShell.Proofs.Statement

/-! Lines in sequence. A line that two lines make with a semicolon between them runs like the first
and then, unless the first ended the session or raised, like the second from the state that is
left. -/

namespace CommandShell.Session

variable {δ : Type}

theorem runStatements_append (nested : Nested δ) (sp : Splitter) (first second : List String)
    (s : Session δ) :
    runStatements nested sp (first ++ second) s = match runStatements nested sp first s with
      | .ok false t => runStatements nested sp second t
      | .ok true t => .ok true t
      | .error e t => .error e t := by
  induction first generalizing s with
  | nil => rfl
  | cons statement rest ih =>
    rw [List.cons_append, runStatements, runStatements, bind_apply, bind_apply]
    cases reported (runStatement nested sp statement) s with
    | error e t => rfl
    | ok ended t =>
      cases ended with
      | true => rfl
      | false => exact ih t

theorem splitters_after_runStatements {splitters : Splitters} (depth : Nat) (sp : Splitter)
    (statements : List String) {s : Session δ} (h : s.splitters = some splitters) :
    (after (runStatements (nestedAt depth) sp statements) s).splitters = some splitters := by
  have stable := (stable_splitters (δ := δ) splitters).compositional
  exact stable.runStatements (stable.nestedAt depth) sp statements s h

theorem executeAt_append_of_built (depth : Nat) (a b : String) {s : Session δ}
    {splitters : Splitters} (built : s.splitters = some splitters) :
    executeAt depth (a ++ ";" ++ b) s = match executeAt depth a s with
      | .ok false t => executeAt depth b t
      | .ok true t => .ok true t
      | .error e t => .error e t := by
  have kept := splitters_after_runStatements depth splitters.line (Statement.split a) built
  rw [executeAt_eq, executeLineWith, executeLineWith, Statement.split_append, bind_apply,
    bind_apply, getLineSplitter_of_some built]
  dsimp only
  rw [runStatements_append]
  cases run : runStatements (nestedAt depth) splitters.line (Statement.split a) s with
  | error e t => rfl
  | ok ended t =>
    cases ended with
    | true => rfl
    | false =>
      rw [after_of_ok run] at kept
      simp only [executeLineWith, bind_apply, getLineSplitter_of_some kept]

theorem executeAt_equipped_none (depth : Nat) (line : String) (s : Session δ) :
    executeAt depth line (s.equipped none) = match buildSplitters s.quotes with
      | .error e => .error (.shell e) (s.equipped none)
      | .ok splitters => executeAt depth line (s.withSplitters splitters) := by
  rw [executeAt_eq, executeLineWith, bind_apply, getLineSplitter_equipped_none]
  cases buildSplitters s.quotes with
  | error e => rfl
  | ok splitters =>
    dsimp only
    rw [bind_apply, getLineSplitter_of_some (splitters_withSplitters splitters s)]

/-- A semicolon is sequential composition, whatever stands before and after it and whatever
handlers do: the second line starts from the state the first one leaves, if that returned false,
and else has no effect. -/
theorem executeAt_append (depth : Nat) (a b : String) (s : Session δ) (built : Option Splitters) :
    executeAt depth (a ++ ";" ++ b) (s.equipped built) =
      match executeAt depth a (s.equipped built) with
      | .ok false t => executeAt depth b t
      | .ok true t => .ok true t
      | .error e t => .error e t := by
  cases built with
  | some splitters =>
    exact executeAt_append_of_built depth a b (splitters_withSplitters splitters s)
  | none =>
    rw [executeAt_equipped_none, executeAt_equipped_none]
    cases buildSplitters s.quotes with
    | error e => rfl
    | ok splitters =>
      exact executeAt_append_of_built depth a b (splitters_withSplitters splitters s)

end CommandShell.Session
