import CommandShell.Plugin
import CommandShell.Proofs.Session.Stable
import CommandShell.Session.Loop

/-! What the owner of a session can do with it, one operation after the other. A property of every
effect of a line, of the history file and of the editor is a property of every sequence of
operations, whatever each of them raises. -/

namespace CommandShell

/-- An operation on a session. An action stands for what its owner does by hand: printing the help,
storing data, changing how names are compared. -/
inductive Operation (δ : Type)
  | prepare
  | execute (line : String)
  | dispatch (tokens : List String)
  | act (action : Action δ)
  | register (name : String) (offered : Export (Command δ))
  | addCommand (name description : String) (specs : List ParameterSpec) (handler : Handler δ)
  | addFunction (function : String) (documentation name description : Option String)
      (specs : List ParameterSpec) (run : Arguments → Action δ)
  | load (library : Library δ) (package : String)
  | splitArgument (text : String)
  | reportError (e : ShellError)
  | readHistory
  | writeHistory
  | loop (script : EditorScript)
  | run (script : EditorScript)

inductive Answer
  | done
  | ended (flag : Bool)
  | outcome (outcome : Outcome)
  | count (n : Nat)
  | fields (fields : List String)
  | exit (exit : SessionExit)

namespace Operation

variable {δ : Type}

def script? : Operation δ → Option EditorScript
  | loop script | run script => some script
  | _ => none

def showsPrompts (op : Operation δ) : Bool := op.script?.any (·.showsPrompts)

end Operation

namespace Session

variable {δ : Type}

def perform : Operation δ → SessionM δ Answer
  | .prepare => do
    prepare
    pure .done
  | .execute line => do
    let flag ← executeLine line
    pure (.ended flag)
  | .dispatch tokens => do
    let outcome ← dispatch executeLine tokens
    pure (.outcome outcome)
  | .act action => do
    let outcome ← runAction executeLine action
    pure (.outcome outcome)
  | .register name offered => do
    register name offered
    pure .done
  | .addCommand name description specs handler => do
    addCommand name description specs handler
    pure .done
  | .addFunction function documentation name description specs run => do
    addFunction function documentation name description specs run
    pure .done
  | .load library package => do
    let n ← loadCommands library package
    pure (.count n)
  | .splitArgument text => do
    let splitter ← getArgumentSplitter
    let fields ← ofReading (splitter.split text)
    pure (.fields fields)
  | .reportError e => do
    reportError e
    pure .done
  | .readHistory => do
    let n ← readHistory
    pure (.count n)
  | .writeHistory => do
    writeHistory
    pure .done
  | .loop script => do
    let exit ← loop script
    pure (.exit exit)
  | .run script => do
    let exit ← run script
    pure (.exit exit)

/-- Performs operations in order; one that raises does not keep the others from being performed. -/
def performAll : List (Operation δ) → SessionM δ (List (Except Raised Answer))
  | [] => pure []
  | op :: rest => do
    let first ← attempt (perform op)
    let others ← performAll rest
    pure (first :: others)

theorem exists_attempt {α : Type} (x : SessionM δ α) (s : Session δ) :
    ∃ result, attempt x s = .ok result (after x s) := by
  rw [attempt, after]
  cases x s with
  | ok a t => exact ⟨_, rfl⟩
  | error e t => exact ⟨_, rfl⟩

theorem exists_performAll (ops : List (Operation δ)) (s : Session δ) :
    ∃ results t, performAll ops s = .ok results t := by
  induction ops generalizing s with
  | nil => exact ⟨_, _, rfl⟩
  | cons op rest ih =>
    obtain ⟨first, hfirst⟩ := exists_attempt (perform op) s
    obtain ⟨others, u, hothers⟩ := ih (after (perform op) s)
    refine ⟨first :: others, u, ?_⟩
    rw [performAll, bind_apply, hfirst]
    dsimp only
    rw [bind_apply, hothers]
    rfl

theorem after_performAll_cons (op : Operation δ) (rest : List (Operation δ)) (s : Session δ) :
    after (performAll (op :: rest)) s = after (performAll rest) (after (perform op) s) := by
  obtain ⟨first, hfirst⟩ := exists_attempt (perform op) s
  obtain ⟨others, u, hothers⟩ := exists_performAll rest (after (perform op) s)
  rw [after_of_ok hothers, after, performAll, bind_apply, hfirst]
  dsimp only
  rw [bind_apply, hothers]
  rfl

/-- A compositional property that the effects of a loop have as well. What prompting does depends on
the editor and is left to be shown for each. -/
structure Interactive (P : (α : Type) → SessionM δ α → Prop) : Prop extends Compositional P where
  readHistory : P Nat readHistory
  writeHistory : P Unit writeHistory
  remember (line : String) : P Unit (modify fun s => { s with history := s.history.append line })
  setUp (script : EditorScript) : P Unit (setUpEditor script)
  edit (f : EditorTrace → EditorTrace) : P Unit (modifyEditor f)

namespace Interactive

variable {P : (α : Type) → SessionM δ α → Prop} (has : Interactive P)
include has

theorem warnOfHistory {x : SessionM δ Unit} (hx : P Unit x) (doing : String) :
    P Unit (warnOfHistory doing x) := by
  refine has.tryCatch hx fun e => ?_
  cases e with
  | shell e =>
    cases e with
    | historyFile path cause => exact has.bind (has.note _) fun _ => has.printStyled _ _
    | _ => exact has.throw _
  | _ => exact has.throw _

theorem loadHistory : P Unit loadHistory := has.warnOfHistory (has.discard has.readHistory) _

theorem saveHistory : P Unit saveHistory := has.warnOfHistory has.writeHistory _

theorem begin : P Bool begin := by
  refine has.bind (has.attempt (has.discard has.prepare)) fun result => ?_
  cases result with
  | ok _ => exact has.bind has.loadHistory fun _ => has.pure _
  | error e =>
    cases e with
    | shell e =>
      cases e with
      | initialization m =>
        exact has.bind (has.note _) fun _ => has.bind (has.printStyled _ _) fun _ => has.pure _
      | _ => exact has.throw _
    | _ => exact has.throw _

theorem ensuring {α : Type} {x : SessionM δ α} {last : SessionM δ Unit} (hlast : P Unit last)
    (hx : P α x) : P α (ensuring last x) :=
  has.bind (has.attempt hx) fun _ => has.bind hlast fun _ => has.ofExcept _

theorem conclude (result : Except Raised SessionExit) : P SessionExit (conclude result) := by
  refine has.bind ?_ fun _ => has.bind (has.note _) fun _ => has.pure _
  refine has.ensuring (has.edit _) (has.ensuring has.saveHistory ?_)
  refine has.tryCatch (has.ofExcept _) fun e => ?_
  cases e with
  | interrupt i =>
    cases i with
    | keyboard m =>
      exact has.bind (has.print _) fun _ => has.bind (has.note _) fun _ => has.pure _
    | exit code => exact has.throw _
  | _ => exact has.throw _

theorem turn {showsPrompts : Bool} (hprompt : P Unit (prompt showsPrompts))
    (event : Except Raised String) (reads : Nat) :
    P (Option SessionExit) (turn showsPrompts event reads) := by
  have read : P (Option String) (readLine showsPrompts event reads) := by
    refine has.tryCatch (has.bind hprompt fun _ => has.bind (has.edit _) fun _ => ?_) fun e => ?_
    · exact has.bind (has.ofExcept event) fun _ => has.pure _
    · cases e.isEndOfInput with
      | true => exact has.pure _
      | false => exact has.throw _
  refine has.bind read fun line => ?_
  cases line with
  | none => exact has.pure _
  | some line =>
    refine has.bind (has.remember line) fun _ => has.bind (has.executeAt _ line) fun ended => ?_
    cases ended with
    | false => exact has.pure _
    | true => exact has.pure _

theorem turns {script : EditorScript} (hprompt : P Unit (prompt script.showsPrompts))
    (events : List (Except Raised String)) : P SessionExit (turns script events) := by
  induction events with
  | nil => exact has.bind (has.turn hprompt _ _) fun _ => has.pure _
  | cons event rest ih =>
    refine has.bind (has.turn hprompt _ _) fun exit => ?_
    cases exit with
    | none => exact ih
    | some exit => exact has.pure _

theorem loop {script : EditorScript} (hprompt : P Unit (prompt script.showsPrompts)) :
    P SessionExit (loop script) := by
  refine has.bind has.begin fun begun => ?_
  cases begun with
  | false => exact has.pure _
  | true =>
    refine has.bind (has.attempt (has.bind (has.setUp script) fun _ => ?_)) has.conclude
    exact has.turns hprompt _

theorem run {script : EditorScript} (hprompt : P Unit (prompt script.showsPrompts)) :
    P SessionExit (run script) := by
  refine has.bind (has.loop hprompt) fun exit => ?_
  cases exit with
  | interrupted => exact has.throw _
  | notPrepared => exact has.throw _
  | _ => exact has.pure _

theorem registerExports (module : String) (entries : List (String × Export (Command δ))) :
    P Nat (registerExports module entries) := by
  induction entries with
  | nil => exact has.pure _
  | cons entry rest ih =>
    obtain ⟨name, offered⟩ := entry
    cases offered with
    | foreign kind => exact has.bind (has.note _) fun _ => ih
    | command c => exact has.bind (has.register _ _) fun _ => has.bind ih fun _ => has.pure _

theorem registerModule (found : Imported δ) : P Nat (registerModule found) := by
  unfold Session.registerModule
  split
  · exact has.registerExports _ _
  · exact has.pure _

theorem registerModules (library : Library δ) (modules : List String) :
    P Nat (registerModules library modules) := by
  induction modules with
  | nil => exact has.pure _
  | cons target rest ih =>
    refine has.bind (has.ofExcept _) fun found => ?_
    exact has.bind (has.registerModule _) fun _ => has.bind ih fun _ => has.pure _

theorem loadCommands (library : Library δ) (package : String) :
    P Nat (loadCommands library package) := by
  refine has.bind (has.ofExcept _) fun found => ?_
  split
  · exact has.throw _
  · refine has.bind (has.registerModule _) fun _ => ?_
    refine has.bind (has.registerModules _ _) fun _ => ?_
    exact has.bind (has.note _) fun _ => has.pure _

theorem addCommand (name description : String) (specs : List ParameterSpec) (handler : Handler δ) :
    P Unit (addCommand name description specs handler) := by
  unfold Session.addCommand
  split
  · exact has.throw _
  · exact has.register _ _

theorem perform {op : Operation δ}
    (hprompt : ∀ script, op.script? = some script → P Unit (prompt script.showsPrompts)) :
    P Answer (perform op) := by
  cases op with
  | prepare => exact has.bind (has.discard has.prepare) fun _ => has.pure _
  | execute line => exact has.bind (has.executeAt _ line) fun _ => has.pure _
  | dispatch tokens => exact has.bind (has.dispatch (has.executeAt _) tokens) fun _ => has.pure _
  | act action => exact has.bind (has.runAction (has.executeAt _) action) fun _ => has.pure _
  | register name offered => exact has.bind (has.register name offered) fun _ => has.pure _
  | addCommand name description specs handler =>
    exact has.bind (has.addCommand _ _ _ _) fun _ => has.pure _
  | addFunction function documentation name description specs run =>
    exact has.bind (has.addCommand _ _ _ _) fun _ => has.pure _
  | load library package => exact has.bind (has.loadCommands _ _) fun _ => has.pure _
  | splitArgument text =>
    exact has.bind has.argumentSplitter fun _ => has.bind (has.ofReading _) fun _ => has.pure _
  | reportError e => exact has.bind (has.reportError e) fun _ => has.pure _
  | readHistory => exact has.bind has.readHistory fun _ => has.pure _
  | writeHistory => exact has.bind has.writeHistory fun _ => has.pure _
  | loop script => exact has.bind (has.loop (hprompt script rfl)) fun _ => has.pure _
  | run script => exact has.bind (has.run (hprompt script rfl)) fun _ => has.pure _

theorem performAll {ops : List (Operation δ)} (hprompt : ∀ op ∈ ops, ∀ script,
    op.script? = some script → P Unit (prompt script.showsPrompts)) : P _ (performAll ops) := by
  induction ops with
  | nil => exact has.pure _
  | cons op rest ih =>
    obtain ⟨hop, hrest⟩ := List.forall_mem_cons.mp hprompt
    refine has.bind (has.attempt (has.perform hop)) fun first => ?_
    exact has.bind (ih hrest) fun others => has.pure _

end Interactive

structure Steady (R : Session δ → Session δ → Prop) : Prop extends Stable R where
  history (s : Session δ) (history : History) : R s { s with history := history }
  files (s : Session δ) (files : Files) : R s { s with files := files }
  output (s : Session δ) (output : Output) : R s { s with output := output }
  editor (s : Session δ) (editor : EditorTrace) : R s { s with editor := editor }

namespace Steady

variable {R : Session δ → Session δ → Prop} (steady : Steady R)
include steady

theorem readHistory : Respects R (Session.readHistory (δ := δ)) := by
  intro s
  rw [after, Session.readHistory, get_bind_apply]
  cases s.history.load s.files with
  | error e => exact steady.refl s
  | ok loaded =>
    obtain ⟨count, history⟩ := loaded
    have first := steady.history s history
    cases count with
    | none => exact steady.trans first (steady.note _ _)
    | some n => exact steady.trans first (steady.note _ _)

theorem writeHistory : Respects R (Session.writeHistory (δ := δ)) := by
  intro s
  rw [after, Session.writeHistory, get_bind_apply]
  cases s.history.save s.files with
  | mk files failure =>
    have first := steady.files s files
    cases failure with
    | some e => exact first
    | none => exact steady.trans first (steady.note _ _)

theorem setUpEditor (script : EditorScript) : Respects R (setUpEditor script) := by
  intro s
  rw [after, Session.setUpEditor]
  cases script.setUp with
  | some e => exact steady.refl s
  | none => exact steady.editor s _

theorem prompt (showsPrompts : Bool) : Respects R (prompt showsPrompts) := by
  intro s
  rw [after, Session.prompt, get_bind_apply]
  cases s.prompter s.view with
  | error e => exact steady.refl s
  | ok text =>
    have first := steady.editor s { s.editor with prompts := s.editor.prompts ++ [text] }
    cases showsPrompts with
    | false => exact first
    | true => exact steady.trans first (steady.output _ _)

theorem interactive : Interactive (δ := δ) fun _ x => Respects R x where
  toCompositional := steady.compositional
  readHistory := steady.readHistory
  writeHistory := steady.writeHistory
  remember _ s := steady.history s _
  setUp := steady.setUpEditor
  edit _ s := steady.editor s _

theorem performAll (ops : List (Operation δ)) : Respects R (performAll ops) :=
  steady.interactive.performAll fun _ _ _ _ => steady.prompt _

end Steady

end Session
end CommandShell
