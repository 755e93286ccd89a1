import CommandShell.Proofs.Session.Stable
import CommandShell.Proofs.Splitter.Token

/-! What a statement calls. A statement whose tokens name a command and fit its parameters runs the
handler of that command once, in a state that differs from the one before only by the log, by a
warning for each surplus value and by the record of the call. -/

namespace CommandShell

namespace Binding

def Fits (sp : Splitter) (token : String) : Prop :=
  ∃ fields, sp.split token = .ok fields ∧ (fields.length = 1 ∨ fields.length = 2)

theorem add_eq_none_iff {parameters : List Parameter} {b : Binding} {fields : List String} :
    b.add parameters fields = none ↔ ¬(fields.length = 1 ∨ fields.length = 2) := by
  match fields with
  | [] => simp [add]
  | [value] =>
    simp only [add, List.length_singleton, true_or, not_true_eq_false, iff_false]
    split <;> simp
  | [key, value] => simp [add]
  | _ :: _ :: _ :: _ => simp [add]

theorem exists_add_eq_some {fields : List String} (two : fields.length = 1 ∨ fields.length = 2)
    (b : Binding) (parameters : List Parameter) : ∃ next, b.add parameters fields = some next := by
  rw [← Option.isSome_iff_exists, Option.isSome_iff_ne_none, Ne, add_eq_none_iff]
  exact not_not_intro two

variable {sp : Splitter} {parameters : List Parameter}

theorem addAll_append_of_fits {before : List String} (h : ∀ t ∈ before, Fits sp t) (b : Binding)
    (rest : List String) :
    addAll sp parameters b (before ++ rest) =
      addAll sp parameters (addAll sp parameters b before).1 rest := by
  induction before generalizing b with
  | nil => rfl
  | cons token before ih =>
    obtain ⟨fields, hsplit, hlength⟩ := h token List.mem_cons_self
    obtain ⟨next, hnext⟩ := exists_add_eq_some hlength b parameters
    have htail := ih (fun t ht => h t (List.mem_cons_of_mem token ht)) next
    simpa only [List.cons_append, addAll, hsplit, hnext] using htail

theorem ofTokens_of_fits {tokens : List String} (h : ∀ t ∈ tokens, Fits sp t) :
    ofTokens sp parameters tokens = ((ofTokens sp parameters tokens).1, none) := by
  have hall : addAll sp parameters empty (tokens ++ []) = _ := addAll_append_of_fits h empty []
  rw [List.append_nil] at hall
  exact hall

theorem ofTokens_of_misfit {before after : List String} {token : String} {fields : List String}
    (h : ∀ t ∈ before, Fits sp t) (hsplit : sp.split token = .ok fields)
    (misfit : ¬(fields.length = 1 ∨ fields.length = 2)) :
    ofTokens sp parameters (before ++ token :: after) =
      ((ofTokens sp parameters before).1, some (.invalidArgument token)) := by
  rw [ofTokens, addAll_append_of_fits h, addAll, hsplit]
  simp only [add_eq_none_iff.mpr misfit, ofTokens]

end Binding

structure Call (δ : Type) where
  name : String
  command : Command δ
  binding : Binding

namespace Session

variable {δ : Type}

def standardSplitters : Splitters := ⟨Splitter.commandWords, Splitter.fields⟩

theorem buildSplitters_defaultQuotes :
    buildSplitters Splitter.defaultQuotes = .ok standardSplitters := rfl

/-- A session that knows the help command and has its splitters. -/
def ready : Session Unit :=
  let journal : Journal := ⟨⟨"shellkit", 20, false, none, none⟩, "", [], ""⟩
  let s := fresh "shell" () (.standard "/history") .empty ⟨false, ""⟩ journal
  s.withHelp.withSplitters standardSplitters

def raising (e : Raised) : Command Unit := .bundled ⟨"", [], List.nodup_nil⟩ fun _ => .fail e

def knowing (name : String) (e : Raised) (s : Session Unit) : Session Unit :=
  { s with commands := s.commands.insert name (raising e) }

inductive Calls (splitters : Splitters) (s : Session δ) (statement : String) : Call δ → Prop
  | intro {first : String} {rest : List String} {word name : String} {command : Command δ}
      (tokens : splitters.line.split statement = .ok (first :: rest))
      (unquoted : splitters.line.unquote first = .ok word)
      (free : isReserved word = false)
      (found : s.commands.lookup word = .ok (name, command))
      (fits : ∀ t ∈ rest, Binding.Fits splitters.argument t) :
      Calls splitters s statement
        ⟨name, command, (Binding.ofTokens splitters.argument command.signature.parameters rest).1⟩

def discarding (surplus : List String) (s : Session δ) : Session δ :=
  after (surplus.forM noteSurplus) s

/-- Logs and warnings for values beyond the parameters; without such values nothing happens. -/
def warned (name : String) (surplus : List String) (s : Session δ) : Session δ :=
  after (surplus.forM (warnSurplus name)) (discarding surplus s)

/-- The state in which a handler starts: one record is logged, and the call is remembered. -/
def called (name : String) (command : Command δ) (arguments : Arguments) (s : Session δ) :
    Session δ :=
  let s := after (note (.debug handlerChannel [.fixed "Dispatching ", .filled name,
    .fixed " with ", .filled (Text.quotedPairs arguments)])) s
  { s with invocations := s.invocations ++ [⟨name, command.handler.origin, arguments⟩] }

/-- The run of a handler with the report of what came of it. -/
def handled (nested : Nested δ) (name : String) (command : Command δ) (arguments : Arguments) :
    SessionM δ Outcome := do
  let outcome ← blame name (runAction nested (command.handler.run arguments))
  report name outcome

theorem invoke_apply (nested : Nested δ) (name : String) (command : Command δ)
    (arguments : Arguments) (s : Session δ) :
    invoke nested name command arguments s =
      handled nested name command arguments (called name command arguments s) := rfl

end Session

namespace Call
open Session

variable {δ : Type}

def arguments (c : Call δ) : Arguments := c.binding.arguments

def start (c : Call δ) (s : Session δ) : Session δ :=
  called c.name c.command c.arguments (warned c.name c.binding.surplus s)

def answer (nested : Nested δ) (c : Call δ) : SessionM δ Outcome :=
  runAction nested (c.command.handler.run c.arguments)

end Call

namespace Session

variable {δ : Type}

theorem forM_cons_apply {α : Type} {f : α → SessionM δ Unit}
    (hf : ∀ a s, f a s = .ok () (after (f a) s)) (a : α) (xs : List α) (s : Session δ) :
    (a :: xs).forM f s = xs.forM f (after (f a) s) := by
  change (f a >>= fun _ => xs.forM f) s = _
  rw [bind_apply, hf]

theorem forM_apply {α : Type} {f : α → SessionM δ Unit}
    (hf : ∀ a s, f a s = .ok () (after (f a) s)) (xs : List α) (s : Session δ) :
    xs.forM f s = .ok () (after (xs.forM f) s) := by
  induction xs generalizing s with
  | nil => rfl
  | cons a xs ih =>
    have h := forM_cons_apply hf a xs s
    rw [after_congr h, h]
    exact ih _

theorem noteSurplus_apply (value : String) (s : Session δ) :
    noteSurplus value s = .ok () (after (noteSurplus value) s) := rfl

theorem warnSurplus_apply (name value : String) (s : Session δ) :
    warnSurplus name value s = .ok () (after (warnSurplus name value) s) := rfl

theorem dispatch_cons {nested : Nested δ} {splitters : Splitters} {s : Session δ}
    {first word : String} {rest : List String} (built : s.splitters = some splitters)
    (unquoted : splitters.line.unquote first = .ok word) :
    dispatch nested (first :: rest) s = match s.commands.lookup word with
      | .error e => .error (.shell e) s
      | .ok (name, command) => (do
          let binding ← bindTokens splitters.argument command.signature rest
          binding.surplus.forM (warnSurplus name)
          invoke nested name command binding.arguments) s := by
  rw [dispatch, bind_apply, getLineSplitter_of_some built]
  simp only [unquoted, ofReading, pure_bind, get_bind_apply]
  cases s.commands.lookup word with
  | error e => rfl
  | ok found =>
    change (getArgumentSplitter >>= _) s = _
    rw [bind_apply, getArgumentSplitter_of_some built]

/-- The state after a failure was logged, if it has a form for the log. -/
def noted (shown : Option String) (s : Session δ) : Session δ := after (shown.forM noteFailure) s

def escape : Raised → Raised
  | .untold (.shell _) failure => failure
  | e => e

def escaping : Raised → Session δ → Session δ
  | .untold (.shell shown) _, s => noted shown s
  | _, s => s

theorem noteFailure_apply (shown : Option String) (s : Session δ) :
    shown.forM noteFailure s = .ok () (noted shown s) := by
  cases shown <;> rfl

/-- The state after a failure was reported: one line is printed and one record logged. -/
def told (e : ShellError) (s : Session δ) : Session δ :=
  { after (note (.debug sessionChannel [.fixed "Statement failed: ", .filled e.shown])) s with
    output := s.output.printLine (Text.paint [.red] ("Error: " ++ e.message)) }

theorem reported_apply (x : SessionM δ Bool) (s : Session δ) :
    reported x s = match x s with
      | .ok ended t => .ok ended t
      | .error (.shell e) t => .ok false (told e t)
      | .error e t => .error (escape e) (escaping e t) := by
  rw [reported, tryCatch_apply]
  cases x s with
  | ok ended t => rfl
  | error e t =>
    cases e with
    | untold kind failure =>
      cases kind with
      | shell shown =>
        change (shown.forM noteFailure >>= fun _ => throw failure) t = _
        rw [bind_apply, noteFailure_apply]
        rfl
      | _ => rfl
    | _ => rfl

theorem bindTokens_apply (sp : Splitter) (signature : Signature) (tokens : List String)
    (s : Session δ) :
    bindTokens sp signature tokens s = match Binding.ofTokens sp signature.parameters tokens with
      | (binding, none) => .ok binding (discarding binding.surplus s)
      | (binding, some e) => .error (.shell e) (discarding binding.surplus s) := by
  rw [bindTokens]
  cases Binding.ofTokens sp signature.parameters tokens with
  | mk binding failure =>
    change (binding.surplus.forM noteSurplus >>= _) s = _
    rw [bind_apply, forM_apply noteSurplus_apply]
    cases failure <;> rfl

theorem dispatch_of_bound {nested : Nested δ} {splitters : Splitters} {s : Session δ}
    {first word name : String} {rest : List String} {command : Command δ} {binding : Binding}
    (built : s.splitters = some splitters) (unquoted : splitters.line.unquote first = .ok word)
    (found : s.commands.lookup word = .ok (name, command))
    (bound : Binding.ofTokens splitters.argument command.signature.parameters rest =
      (binding, none)) :
    dispatch nested (first :: rest) s = handled nested name command binding.arguments
      (called name command binding.arguments (warned name binding.surplus s)) := by
  rw [dispatch_cons built unquoted, found]
  dsimp only
  rw [bind_apply, bindTokens_apply, bound]
  dsimp only
  rw [bind_apply, forM_apply (warnSurplus_apply name)]
  exact invoke_apply ..

theorem dispatch_of_fits {nested : Nested δ} {splitters : Splitters} {s : Session δ}
    {first word name : String} {rest : List String} {command : Command δ}
    (built : s.splitters = some splitters) (unquoted : splitters.line.unquote first = .ok word)
    (found : s.commands.lookup word = .ok (name, command))
    (fits : ∀ t ∈ rest, Binding.Fits splitters.argument t) :
    let binding := (Binding.ofTokens splitters.argument command.signature.parameters rest).1
    dispatch nested (first :: rest) s = handled nested name command binding.arguments
      (called name command binding.arguments (warned name binding.surplus s)) :=
  dispatch_of_bound built unquoted found (Binding.ofTokens_of_fits fits)

theorem runStatement_of_word {nested : Nested δ} {sp : Splitter} {statement first word : String}
    {rest : List String} (tokens : sp.split statement = .ok (first :: rest))
    (unquoted : sp.unquote first = .ok word) (free : isReserved word = false) :
    runStatement nested sp statement = (do
      discard (dispatch nested (first :: rest))
      pure false) := by
  simp [runStatement, tokens, ofReading, unquoted, free]

theorem runStatement_of_calls {nested : Nested δ} {splitters : Splitters} {s : Session δ}
    {statement : String} {c : Call δ} (built : s.splitters = some splitters)
    (calls : Calls splitters s statement c) :
    runStatement nested splitters.line statement s = (do
      discard (handled nested c.name c.command c.arguments)
      pure false) (c.start s) := by
  cases calls with
  | intro tokens unquoted free found fits =>
    rw [runStatement_of_word tokens unquoted free]
    have hdispatch : dispatch nested _ s = _ := dispatch_of_fits built unquoted found fits
    exact bind_congr_apply (bind_congr_apply hdispatch _) _

end Session
end CommandShell
