import CommandShell.Proofs.Session.Ending
import CommandShell.Proofs.Signature
import CommandShell.Proofs.Text.Colour

/-! What dispatching tokens comes to. Either there are no tokens and nothing happens, or they call
no command and nothing but the log shows it, or they call one: then each surplus value is warned of
in turn, the handler runs once on what the tokens bind, and its answer alone settles the rest. -/

namespace CommandShell

namespace Binding

def bareValues (sp : Splitter) (tokens : List String) : List String :=
  tokens.filterMap fun token => match sp.split token with
    | .ok [value] => some value
    | _ => none

theorem bareValues_cons_single {sp : Splitter} {token value : String}
    (split : sp.split token = .ok [value]) (rest : List String) :
    bareValues sp (token :: rest) = value :: bareValues sp rest := by
  simp only [bareValues, List.filterMap_cons, split]

theorem bareValues_cons_pair {sp : Splitter} {token key value : String}
    (split : sp.split token = .ok [key, value]) (rest : List String) :
    bareValues sp (token :: rest) = bareValues sp rest := by
  simp only [bareValues, List.filterMap_cons, split]

theorem surplus_of_addAll {sp : Splitter} {parameters : List Parameter} {tokens : List String}
    {b last : Binding} (bound : addAll sp parameters b tokens = (last, none)) :
    last.surplus = b.surplus ++ (bareValues sp tokens).drop (parameters.length - b.position) := by
  induction tokens generalizing b with
  | nil =>
    cases bound
    simp [bareValues]
  | cons token rest ih =>
    rw [addAll] at bound
    cases split : sp.split token with
    | error e =>
      rw [split] at bound
      cases bound
    | ok fields =>
      rw [split] at bound
      cases fields with
      | nil => cases bound
      | cons value others =>
        cases others with
        | nil =>
          dsimp only [add] at bound
          rw [bareValues_cons_single split]
          -- a value is surplus just when no parameter is left for it
          cases hp : parameters[b.position]? with
          | none =>
            rw [hp] at bound
            have hfull : parameters.length ≤ b.position := List.getElem?_eq_none_iff.mp hp
            rw [ih bound, Nat.sub_eq_zero_of_le hfull,
              Nat.sub_eq_zero_of_le (Nat.le_succ_of_le hfull)]
            simp
          | some p =>
            rw [hp] at bound
            obtain ⟨hroom, -⟩ := List.getElem?_eq_some_iff.mp hp
            have hnext :
                parameters.length - b.position = parameters.length - (b.position + 1) + 1 := by
              omega
            rw [ih bound, hnext, List.drop_succ_cons]
        | cons second others =>
          cases others with
          | nil =>
            dsimp only [add] at bound
            rw [bareValues_cons_pair split, ih bound]
          | cons third others => cases bound

end Binding

/-- A failure to find out which command is called with which arguments. -/
def ShellError.isRefusal : ShellError → Bool
  | tokenize .. | unknownCommand .. | invalidArgument _ => true
  | _ => false

namespace Binding

theorem isRefusal_of_addAll {sp : Splitter} {parameters : List Parameter} {tokens : List String}
    {b last : Binding} {e : ShellError} (failed : addAll sp parameters b tokens = (last, some e)) :
    e.isRefusal = true := by
  induction tokens generalizing b with
  | nil => cases failed
  | cons token rest ih =>
    rw [addAll] at failed
    split at failed
    · cases failed
      rfl
    · split at failed
      · cases failed
        rfl
      · exact ih failed

end Binding

namespace Session

variable {δ : Type}

/-- What tokens call: no command if there are none, one with what the other tokens bind, or the
first reason why that cannot be said. -/
def callOf (splitters : Splitters) (commands : Registry (Command δ)) :
    List String → Except ShellError (Option (Call δ))
  | [] => .ok none
  | first :: rest =>
    match splitters.line.unquote first with
    | .error e => .error (.tokenize e.text e.reason)
    | .ok word =>
      match commands.lookup word with
      | .error e => .error e
      | .ok (name, command) =>
        match Binding.ofTokens splitters.argument command.signature.parameters rest with
        | (_, some e) => .error e
        | (binding, none) => .ok (some ⟨name, command, binding⟩)

def noting (records : List Log.Record) (s : Session δ) : Session δ :=
  records.foldl (fun s r => after (note r) s) s

/-- Nothing was done but to log some records. -/
def LoggedOnly (s t : Session δ) : Prop := ∃ records, t = noting records s

theorem LoggedOnly.refl (s : Session δ) : LoggedOnly s s := ⟨[], rfl⟩

theorem LoggedOnly.trans {s t u : Session δ} (first : LoggedOnly s t) (second : LoggedOnly t u) :
    LoggedOnly s u := by
  obtain ⟨records, rfl⟩ := first
  obtain ⟨others, rfl⟩ := second
  exact ⟨records ++ others, (List.foldl_append ..).symm⟩

theorem loggedOnly_note (r : Log.Record) (s : Session δ) : LoggedOnly s (after (note r) s) :=
  ⟨[r], rfl⟩

/-- A session with another output and other calls recorded. -/
def showing (output : Output) (invocations : List Invocation) (s : Session δ) : Session δ :=
  { s with output := output, invocations := invocations }

theorem LoggedOnly.showing {s t : Session δ} (h : LoggedOnly s t) (o : Output)
    (i : List Invocation) : LoggedOnly (showing o i s) (showing o i t) := by
  obtain ⟨records, rfl⟩ := h
  refine ⟨records, ?_⟩
  induction records generalizing s with
  | nil => rfl
  | cons r records ih => exact ih (s := after (note r) s)

theorem LoggedOnly.shows_eq {s t : Session δ} (h : LoggedOnly s t) :
    t.output = s.output ∧ t.invocations = s.invocations := by
  obtain ⟨records, rfl⟩ := h
  induction records generalizing s with
  | nil => exact ⟨rfl, rfl⟩
  | cons r records ih => exact ih (s := after (note r) s)

theorem loggedOnly_discarding (surplus : List String) (s : Session δ) :
    LoggedOnly s (discarding surplus s) := by
  induction surplus generalizing s with
  | nil => exact .refl s
  | cons value surplus ih => exact (loggedOnly_note _ s).trans (ih (after (noteSurplus value) s))

def warnings (surplus : List String) (o : Output) : Output :=
  { o with
    written := o.written ++ String.join (surplus.map fun value =>
      Text.styledLine "\x1b[33m" o.isTerminal ("WARNING: extra argument: " ++ value)) }

theorem warnings_nil (o : Output) : warnings [] o = o := by
  simp [warnings]

theorem warnings_cons (value : String) (surplus : List String) (o : Output) :
    warnings (value :: surplus) o = warnings surplus
      (o.printLine (Text.paint [.yellow] ("WARNING: " ++ Binding.surplusMessage value))) := by
  have message : "WARNING: " ++ Binding.surplusMessage value =
      "WARNING: extra argument: " ++ value := (String.append_assoc ..).symm
  rw [message, Text.printLine_paint, Text.sequence_yellow]
  simp [warnings, String.append_assoc]

theorem loggedOnly_warnings (name : String) (surplus : List String) (s : Session δ) :
    LoggedOnly (showing (warnings surplus s.output) s.invocations s)
      (after (surplus.forM (warnSurplus name)) s) := by
  induction surplus generalizing s with
  | nil =>
    rw [warnings_nil]
    exact .refl s
  | cons value surplus ih =>
    rw [warnings_cons]
    -- what is logged with the first warning is as well logged after the last one
    have first : LoggedOnly s (after (note (.debug handlerChannel
        [.filled name, .fixed ": ", .filled (Binding.surplusMessage value)])) s) :=
      loggedOnly_note _ s
    exact (first.showing _ s.invocations).trans (ih (after (warnSurplus name value) s))

theorem loggedOnly_warned (name : String) (surplus : List String) (s : Session δ) :
    LoggedOnly (showing (warnings surplus s.output) s.invocations s)
      (warned name surplus s) := by
  have discarded := loggedOnly_discarding surplus s
  obtain ⟨output, invocations⟩ := discarded.shows_eq
  have warnings := loggedOnly_warnings name surplus (discarding surplus s)
  rw [output, invocations] at warnings
  exact (discarded.showing _ _).trans warnings

theorem loggedOnly_start (c : Call δ) (s : Session δ) :
    LoggedOnly (showing (warnings c.binding.surplus s.output)
      (s.invocations ++ [⟨c.name, c.command.handler.origin, c.arguments⟩]) s) (c.start s) := by
  have hwarned := loggedOnly_warned c.name c.binding.surplus s
  obtain ⟨output, invocations⟩ := hwarned.shows_eq
  let record : Log.Record := .debug handlerChannel [.fixed "Dispatching ", .filled c.name,
    .fixed " with ", .filled (Text.quotedPairs c.arguments)]
  let w := warned c.name c.binding.surplus s
  have hstart : c.start s = showing w.output
      (w.invocations ++ [⟨c.name, c.command.handler.origin, c.arguments⟩])
      (after (note record) w) := rfl
  rw [hstart, output, invocations]
  exact (hwarned.trans (loggedOnly_note record w)).showing _ _

theorem isRefusal_of_lookup {commands : Registry (Command δ)} {word : String} {e : ShellError}
    (failed : commands.lookup word = .error e) : e.isRefusal = true := by
  unfold Registry.lookup at failed
  split at failed
  · cases failed
    rfl
  · split at failed <;> cases failed
    rfl

theorem isRefusal_of_callOf {splitters : Splitters} {commands : Registry (Command δ)}
    {tokens : List String} {e : ShellError} (failed : callOf splitters commands tokens = .error e) :
    e.isRefusal = true := by
  unfold callOf at failed
  split at failed
  · cases failed
  · split at failed
    · cases failed
      rfl
    · split at failed
      · next found =>
        cases failed
        exact isRefusal_of_lookup found
      · split at failed
        · next bound =>
          cases failed
          exact Binding.isRefusal_of_addAll bound
        · cases failed

/-- A session in which a text was printed, unless it is empty. -/
def saying (text : String) (s : Session δ) : Session δ :=
  if text = "" then s
  else
    let line := (if s.output.isTerminal then text else Text.stripEscapes text) ++ "\n"
    { s with output := { s.output with written := s.output.written ++ line } }

theorem saying_eq (text : String) (s : Session δ) :
    saying text s = if text = "" then s else { s with output := s.output.printLine text } := by
  rw [saying, Output.printLine, String.append_assoc]
  rfl

/-- What is made of what the handler of a command comes to. -/
def settle (name : String) : EStateM.Result Raised (Session δ) Outcome →
    EStateM.Result Raised (Session δ) Outcome
  | .ok (.result r) t =>
    if r.ok then .ok (.result r) (saying r.message t)
    else .error (.shell (.handler name r.text)) t
  | .ok (.text text) t => .ok (.text text) (saying text t)
  | .ok outcome t => .ok outcome t
  | .error (.fault f) t =>
    .error (.shell (.handler name (name ++ ": " ++ (f.label ++ ": " ++ f.message)))) t
  | .error (.untold .endOfInput failure) t | .error (.untold .other failure) t => .error failure t
  | .error e t => .error e t

theorem report_eq_settle (name : String) (outcome : Outcome) (t : Session δ) :
    report name outcome t = settle name (.ok outcome t) := by
  cases outcome with
  | nothing => rfl
  | value v => rfl
  | text text =>
    rw [settle, saying_eq]
    unfold report
    by_cases htext : text = "" <;> simp [htext] <;> rfl
  | result r =>
    cases hr : r.ok with
    | false =>
      rw [report_of_failure hr]
      simp [settle, hr]
    | true =>
      rw [settle, saying_eq]
      unfold report
      by_cases htext : r.message = "" <;> simp [hr, htext] <;> rfl

theorem handled_eq_settle (nested : Nested δ) (c : Call δ) (s : Session δ) :
    handled nested c.name c.command c.arguments s = settle c.name (c.answer nested s) := by
  rw [handled_apply, ← Call.answer]
  cases c.answer nested s with
  | ok outcome t => exact report_eq_settle c.name outcome t
  | error e t =>
    cases e with
    | untold kind failure => cases kind <;> rfl
    | _ => rfl

/-- Tokens that call no command do nothing, or fail with nothing but a record in the log; those that
call one run its handler. -/
theorem dispatch_of_callOf (nested : Nested δ) {splitters : Splitters} {s : Session δ}
    (built : s.splitters = some splitters) (tokens : List String) :
    match callOf splitters s.commands tokens with
    | .ok none => tokens = [] ∧ dispatch nested tokens s = .ok .nothing s
    | .error e => ∃ surplus, dispatch nested tokens s = .error (.shell e) (discarding surplus s)
    | .ok (some c) =>
      Binding.ofTokens splitters.argument c.command.signature.parameters tokens.tail =
          (c.binding, none) ∧
        dispatch nested tokens s = handled nested c.name c.command c.arguments (c.start s) := by
  cases tokens with
  | nil => exact ⟨rfl, rfl⟩
  | cons first rest =>
    rw [callOf]
    cases unquoted : splitters.line.unquote first with
    | error e =>
      refine ⟨[], ?_⟩
      rw [dispatch, bind_apply, getLineSplitter_of_some built]
      simp only [unquoted]
      rfl
    | ok word =>
      dsimp only
      cases found : s.commands.lookup word with
      | error e =>
        refine ⟨[], ?_⟩
        rw [dispatch_cons built unquoted, found]
        rfl
      | ok entry =>
        obtain ⟨name, command⟩ := entry
        dsimp only
        cases bound : Binding.ofTokens splitters.argument command.signature.parameters rest with
        | mk binding failure =>
          cases failure with
          | some e =>
            refine ⟨binding.surplus, ?_⟩
            rw [dispatch_cons built unquoted, found]
            dsimp only
            rw [bind_apply, bindTokens_apply, bound]
          | none => exact ⟨bound, dispatch_of_bound built unquoted found bound⟩

/-- Dispatching is all or nothing up to the handler. Without tokens nothing happens. Tokens that do
not call a command fail for the first reason, and nothing but the log has changed. Tokens that call
one are done with when one warning for each surplus value is written, in order, and the handler then
runs once on what they bind; what it comes to settles what is raised, returned and printed. Only a
failure whose message cannot be made is not made the command's: what asking for it raises gets
out. -/
theorem dispatch_once (nested : Nested δ) {splitters : Splitters} {s : Session δ}
    (built : s.splitters = some splitters) (tokens : List String) :
    match callOf splitters s.commands tokens with
    | .ok none => tokens = [] ∧ dispatch nested tokens s = .ok .nothing s
    | .error e =>
      e.isRefusal = true ∧ ∃ t, LoggedOnly s t ∧ dispatch nested tokens s = .error (.shell e) t
    | .ok (some c) =>
      Binding.ofTokens splitters.argument c.command.signature.parameters tokens.tail =
          (c.binding, none) ∧
        c.binding.surplus = (Binding.bareValues splitters.argument tokens.tail).drop
          c.command.signature.parameters.length ∧
        ∃ start,
          LoggedOnly (showing (warnings c.binding.surplus s.output)
            (s.invocations ++ [⟨c.name, c.command.handler.origin, c.arguments⟩]) s) start ∧
          dispatch nested tokens s = settle c.name (c.answer nested start) := by
  have h := dispatch_of_callOf nested built tokens
  cases calls : callOf splitters s.commands tokens with
  | error e =>
    rw [calls] at h
    obtain ⟨surplus, heq⟩ := h
    exact ⟨isRefusal_of_callOf calls, _, loggedOnly_discarding surplus s, heq⟩
  | ok call =>
    rw [calls] at h
    cases call with
    | none => exact h
    | some c =>
      obtain ⟨bound, heq⟩ := h
      have surplus := Binding.surplus_of_addAll bound
      refine ⟨bound, by simpa [Binding.empty] using surplus, c.start s, loggedOnly_start c s, ?_⟩
      rw [heq, handled_eq_settle]

theorem dispatch_once_surplus :
    let tokens := ["'help'", "fail", "x=1", "extra", "'a b'"]
    let s := ready.knowing "fail" (.fault (.value ""))
    ∃ binding start,
      callOf standardSplitters s.commands tokens = .ok (some ⟨"help", Help.command, binding⟩) ∧
      binding.arguments = [("command", "fail"), ("x", "1")] ∧ binding.surplus = ["extra", "a b"] ∧
      LoggedOnly (showing
        ⟨false, "WARNING: extra argument: extra\nWARNING: extra argument: a b\n"⟩
        [⟨"help", .bundled, [("command", "fail"), ("x", "1")]⟩] s) start ∧
      dispatch (nestedAt 0) tokens s =
        settle "help" (Call.answer (nestedAt 0) ⟨"help", Help.command, binding⟩ start) ∧
      (after (dispatch (nestedAt 0) tokens) s).output.written =
        "WARNING: extra argument: extra\nWARNING: extra argument: a b\n" ++
        "Command:     fail\nDescription: (none)\nUsage:       fail\nArguments:   (none)\n" := by
  intro tokens s
  have calls : callOf standardSplitters s.commands tokens = .ok (some ⟨"help", Help.command,
      ⟨[("command", "fail"), ("x", "1")], 3, ["extra", "a b"]⟩⟩) := by
    rfl
  have h := dispatch_once (nestedAt 0) (s := s) rfl tokens
  rw [calls] at h
  obtain ⟨-, -, start, hstart, heq⟩ := h
  have shown : warnings ["extra", "a b"] s.output =
      ⟨false, "WARNING: extra argument: extra\nWARNING: extra argument: a b\n"⟩ := by decide
  rw [shown] at hstart
  exact ⟨_, start, calls, rfl, rfl, hstart, heq, by decide +kernel⟩

/-- A handler does not find a key that has no text: no failure of the command is made. -/
theorem dispatch_once_untold :
    let failure : Raised := .fault (.value ("Exceeds the limit (4300 digits) for integer string " ++
      "conversion; use sys.set_int_max_str_digits() to increase the limit"))
    let missing : Raised := .missingKey (.int (Nat.pow 10 Decimal.integerLimit))
    let s := ready.knowing "fail" missing
    callOf standardSplitters s.commands ["fail"] =
        .ok (some ⟨"fail", raising missing, .empty⟩) ∧
      ∃ t, dispatch (nestedAt 0) ["fail"] s = .error failure t ∧ t.output.written = "" := by
  intro failure missing s
  have untold : missing = .untold .other failure := Value.missingKey_of_limit_le (Nat.le_refl _)
  have calls (e : Raised) : callOf standardSplitters (ready.knowing "fail" e).commands ["fail"] =
      .ok (some ⟨"fail", raising e, .empty⟩) := by rfl
  let u := ready.knowing "fail" (.untold .other failure)
  have dispatched := dispatch_of_callOf (nestedAt 0) (s := u) rfl ["fail"]
  rw [calls] at dispatched
  refine ⟨calls missing, Call.start ⟨"fail", raising (.untold .other failure), .empty⟩ u, ?_, rfl⟩
  rw [show s = u from congrArg (ready.knowing "fail") untold, dispatched.2, handled_eq_settle]
  rfl

end Session
end CommandShell
