import CommandShell.Session.Dispatch

/-! Properties of operations. A property of every single effect of a statement that is kept where
one operation follows another, or catches what the other raises, is a property of every line, at
every depth of nesting and however the line ends. -/

namespace CommandShell.Session

variable {δ α β : Type}

theorem bind_apply (x : SessionM δ α) (f : α → SessionM δ β) (s : Session δ) :
    (x >>= f) s = match x s with
      | .ok a t => f a t
      | .error e t => .error e t := by
  change EStateM.bind x f s = _
  unfold EStateM.bind
  cases x s <;> rfl

theorem get_bind_apply (f : Session δ → SessionM δ α) (s : Session δ) : (get >>= f) s = f s s := rfl

theorem bind_congr_apply {x y : SessionM δ α} {s t : Session δ} (h : x s = y t)
    (f : α → SessionM δ β) : (x >>= f) s = (y >>= f) t := by
  rw [bind_apply, h, bind_apply]

theorem tryCatch_apply (x : SessionM δ α) (handle : Raised → SessionM δ α) (s : Session δ) :
    tryCatch x handle s = match x s with
      | .ok a t => .ok a t
      | .error e t => handle e t := by
  change EStateM.tryCatch x handle s = _
  unfold EStateM.tryCatch
  cases x s <;> rfl

theorem attempt_eq (x : SessionM δ α) :
    attempt x = tryCatch (x >>= fun a => pure (.ok a)) fun e => pure (.error e) := by
  funext s
  rw [attempt, tryCatch_apply, bind_apply]
  cases x s <;> rfl

/-- Registers what is offered, or says why it is refused. -/
def enroll (name : String) (offered : Export (Command δ)) :
    SessionM δ (Option RegistrationError) := do
  let s ← get
  match s.commands.register name offered with
  | .error e => pure (some e)
  | .ok commands =>
    set { s with commands := commands }
    pure none

theorem enroll_apply (name : String) (offered : Export (Command δ)) (s : Session δ) :
    enroll name offered s = match s.commands.register name offered with
      | .error e => .ok (some e) s
      | .ok commands => .ok none { s with commands := commands } := by
  rw [enroll, get_bind_apply]
  cases s.commands.register name offered <;> rfl

theorem register_eq (name : String) (offered : Export (Command δ)) :
    register name offered = (do
      match ← enroll name offered with
      | some e => raiseFault e.fault
      | none => pure ()) := by
  funext s
  rw [register, get_bind_apply, bind_apply, enroll_apply]
  cases s.commands.register name offered <;> rfl

theorem runAction_register (nested : Nested δ) (name : String) (origin : Origin)
    (offered : Export Signature) (run : Arguments → Action δ)
    (next : Option RegistrationError → Action δ) :
    ∃ command, runAction nested (.register name origin offered run next) =
      enroll name command >>= fun refusal => runAction nested (next refusal) := by
  cases offered with
  | command signature =>
    refine ⟨.command ⟨signature, ⟨origin, run⟩⟩, ?_⟩
    funext s
    rw [runAction, get_bind_apply, bind_apply, enroll_apply]
    cases s.commands.register name (.command ⟨signature, ⟨origin, run⟩⟩) <;> rfl
  | foreign kind =>
    refine ⟨.foreign kind, ?_⟩
    funext s
    rw [runAction, get_bind_apply, bind_apply, enroll_apply]
    cases s.commands.register name (.foreign kind) <;> rfl

/-- What a handler of a line at some depth gets for the lines it nests. -/
def nestedAt : (depth : Nat) → Nested δ
  | 0 => fun _ => raiseFault nestingFault
  | depth + 1 => executeAt depth

theorem executeAt_eq (depth : Nat) :
    executeAt depth = executeLineWith (δ := δ) (nestedAt depth) := by
  cases depth <;> rfl

/-- A property of each effect a statement can have that sequences and handlers of failures keep. A
session is read only for its commands and for what handlers may see of it. -/
structure Compositional (P : (α : Type) → SessionM δ α → Prop) : Prop where
  pure {α : Type} (a : α) : P α (Pure.pure a)
  throw {α : Type} (e : Raised) : P α (MonadExcept.throw e)
  bind {α β : Type} {x : SessionM δ α} {f : α → SessionM δ β} (first : P α x)
    (next : ∀ a, P β (f a)) : P β (x >>= f)
  tryCatch {α : Type} {x : SessionM δ α} {handle : Raised → SessionM δ α} (first : P α x)
    (handled : ∀ e, P α (handle e)) : P α (tryCatch x handle)
  view {α : Type} {f : View δ → SessionM δ α} (next : ∀ view, P α (f view)) :
    P α (get >>= fun s => f s.view)
  commands {α : Type} {f : Registry (Command δ) → SessionM δ α} (next : ∀ r, P α (f r)) :
    P α (get >>= fun s => f s.commands)
  prepare : P Splitters getSplitters
  lineSplitter : P Splitter getLineSplitter
  argumentSplitter : P Splitter getArgumentSplitter
  note (r : Log.Record) : P Unit (note r)
  print (line : String) : P Unit (print line)
  store (data : δ) : P Unit (modify fun s => { s with data := data })
  fold (folding : Bool) : P Unit (setFolding folding)
  append (line : String) : P Unit (appendLine line)
  enroll (name : String) (offered : Export (Command δ)) : P _ (enroll name offered)
  record (i : Invocation) :
    P Unit (modify fun s => { s with invocations := s.invocations ++ [i] })

namespace Compositional

variable {P : (α : Type) → SessionM δ α → Prop} (has : Compositional P)
include has

theorem attempt {x : SessionM δ α} (hx : P α x) : P _ (attempt x) := by
  rw [attempt_eq]
  exact has.tryCatch (has.bind hx fun a => has.pure _) fun e => has.pure _

theorem discard {x : SessionM δ α} (hx : P α x) : P Unit (discard x) :=
  has.bind hx fun _ => has.pure _

theorem ofExcept (x : Except Raised α) : P α (ofExcept x) := by
  cases x with
  | ok a => exact has.pure a
  | error e => exact has.throw e

theorem ofReading (x : Except OpenQuote α) : P α (ofReading x) := by
  cases x with
  | ok a => exact has.pure a
  | error e => exact has.throw _

theorem forM {f : α → SessionM δ Unit} (hf : ∀ a, P Unit (f a)) (xs : List α) :
    P Unit (xs.forM f) := by
  induction xs with
  | nil => exact has.pure _
  | cons a xs ih => exact has.bind (hf a) fun _ => ih

theorem register (name : String) (offered : Export (Command δ)) :
    P Unit (register name offered) := by
  rw [register_eq]
  refine has.bind (has.enroll name offered) fun refusal => ?_
  cases refusal with
  | none => exact has.pure _
  | some e => exact has.throw _

theorem runAction {nested : Nested δ} (hn : ∀ line, P Bool (nested line)) (action : Action δ) :
    P Outcome (runAction nested action) := by
  -- what a handler does next is covered by induction, the lines it nests by the hypothesis
  induction action with
  | finish outcome => exact has.pure outcome
  | fail raised => exact has.throw raised
  | print line next ih => exact has.bind (has.print line) fun _ => ih
  | look next ih => exact has.view (f := fun view => Session.runAction nested (next view)) ih
  | store data next ih => exact has.bind (has.store data) fun _ => ih
  | fold folding next ih => exact has.bind (has.fold folding) fun _ => ih
  | append line next ih => exact has.bind (has.append line) fun _ => ih
  | register name origin offered run next _ ih =>
    obtain ⟨command, heq⟩ := runAction_register nested name origin offered run next
    rw [heq]
    exact has.bind (has.enroll name command) ih
  | execute line next ih => exact has.bind (has.attempt (hn line)) ih

theorem printStyled (style : Text.Style) (line : String) : P Unit (printStyled style line) :=
  has.print _

theorem report (command : String) (outcome : Outcome) : P Outcome (report command outcome) := by
  have said : ∀ line, P Outcome
      (if line != "" then do Session.print line; Pure.pure outcome else Pure.pure outcome) := by
    intro line
    split
    · exact has.bind (has.print line) fun _ => has.pure _
    · exact has.pure _
  cases outcome with
  | nothing => exact has.pure _
  | value v => exact has.pure _
  | text t => exact said t
  | result r =>
    unfold Session.report
    dsimp only
    split
    · exact has.bind (has.throw _) fun _ => said r.message
    · exact said r.message

theorem bindTokens (sp : Splitter) (signature : Signature) (tokens : List String) :
    P Binding (bindTokens sp signature tokens) := by
  refine has.bind (has.forM (fun value => has.note _) _) fun _ => ?_
  split
  · exact has.throw _
  · exact has.pure _

theorem invoke {nested : Nested δ} (hn : ∀ line, P Bool (nested line)) (name : String)
    (command : Command δ) (arguments : Arguments) :
    P Outcome (invoke nested name command arguments) := by
  refine has.bind (has.note _) fun _ => ?_
  refine has.bind (has.record _) fun _ => ?_
  refine has.bind (has.tryCatch (has.runAction hn _) fun e => ?_) fun outcome => ?_
  · exact has.throw (blamed name e)
  · exact has.report name outcome

theorem dispatch {nested : Nested δ} (hn : ∀ line, P Bool (nested line))
    (tokens : List String) : P Outcome (dispatch nested tokens) := by
  cases tokens with
  | nil => exact has.pure _
  | cons first rest =>
    refine has.bind has.lineSplitter fun sp => ?_
    refine has.bind (has.ofReading _) fun word => ?_
    refine has.commands (f := fun r => Session.ofExcept ((r.lookup word).mapError .shell) >>= _)
      fun r => ?_
    refine has.bind (has.ofExcept _) fun found => ?_
    refine has.bind has.argumentSplitter fun fieldSplitter => ?_
    refine has.bind (has.bindTokens _ _ _) fun binding => ?_
    refine has.bind (has.forM (fun value => ?_) _) fun _ => ?_
    · exact has.bind (has.note _) fun _ => has.printStyled _ _
    · exact has.invoke hn _ _ _

theorem runStatement {nested : Nested δ} (hn : ∀ line, P Bool (nested line)) (sp : Splitter)
    (statement : String) : P Bool (runStatement nested sp statement) := by
  refine has.bind (has.ofReading _) fun tokens => ?_
  cases tokens with
  | nil => exact has.pure _
  | cons first rest =>
    refine has.bind (has.ofReading _) fun word => ?_
    split
    · exact has.pure _
    · exact has.bind (has.discard (has.dispatch hn _)) fun _ => has.pure _

theorem reportError (e : ShellError) : P Unit (reportError e) :=
  has.bind (has.note _) fun _ => has.printStyled _ _

theorem noteFailure (shown : Option String) : P Unit (shown.forM noteFailure) := by
  cases shown with
  | none => exact has.pure _
  | some shown => exact has.note _

theorem reported {x : SessionM δ Bool} (hx : P Bool x) : P Bool (reported x) := by
  refine has.tryCatch hx fun e => ?_
  cases e with
  | shell e => exact has.bind (has.reportError e) fun _ => has.pure _
  | untold kind failure =>
    cases kind with
    | shell shown => exact has.bind (has.noteFailure shown) fun _ => has.throw _
    | _ => exact has.throw _
  | _ => exact has.throw _

theorem runStatements {nested : Nested δ} (hn : ∀ line, P Bool (nested line)) (sp : Splitter)
    (statements : List String) : P Bool (runStatements nested sp statements) := by
  induction statements with
  | nil => exact has.pure _
  | cons statement rest ih =>
    refine has.bind (has.reported (has.runStatement hn sp statement)) fun ended => ?_
    cases ended with
    | false => exact ih
    | true => exact has.pure _

theorem executeLineWith {nested : Nested δ} (hn : ∀ line, P Bool (nested line))
    (line : String) : P Bool (executeLineWith nested line) :=
  has.bind has.lineSplitter fun _ => has.runStatements hn _ _

theorem executeAt (depth : Nat) (line : String) : P Bool (executeAt depth line) := by
  induction depth generalizing line with
  | zero => exact has.executeLineWith (fun _ => has.throw _) line
  | succ depth ih => exact has.executeLineWith ih line

theorem nestedAt (depth : Nat) (line : String) : P Bool (nestedAt depth line) := by
  cases depth with
  | zero => exact has.throw _
  | succ depth => exact has.executeAt depth line

end Compositional

end CommandShell.Session
