import CommandShell.Proofs.KeyValue.Requests
import CommandShell.Proofs.Session.Ended
import CommandShell.Proofs.Session.Ending
import CommandShell.Proofs.Session.TypedLine

/-! The bundled commands refine the map. Statements that denote requests, however they are quoted,
are answered as the map answers the requests, and the store is left what the map is left. -/

namespace CommandShell

namespace KeyValue
open Session

variable {splitters : Splitters} {s : Session Store} {entries : Entries String}
  {nested : Nested Store}

section Handlers

variable {arguments : Arguments} {key : String}

theorem runAction_withStore (data : s.data = some entries) (next : Entries String → Act) :
    runAction nested (withStore next) s = runAction nested (next entries) s := by
  rw [withStore, runAction, get_bind_apply]
  simp only [view, data]

theorem runAction_store (data : Store) (next : Act) :
    runAction nested (.store data next) s = runAction nested next { s with data := data } := rfl

/-- A handler that is given a request over a store answers as the map of the store does, and
changes nothing but the store. -/
def Refines (run : Arguments → Act) (arguments : Arguments) (request : Request) : Prop :=
  ∀ (nested : Nested Store) (s : Session Store) (entries : Entries String),
    s.data = some entries → (Entries.keys entries).Nodup →
    ∃ outcome left, runAction nested (run arguments) s = .ok outcome { s with data := some left } ∧
      (Entries.keys left).Nodup ∧
      Answers (Entries.find? entries) request (.of outcome) (Entries.find? left)

theorem refines_unchanged (data : s.data = some entries) (distinct : (Entries.keys entries).Nodup)
    {action : Act} {outcome : Outcome} {request : Request}
    (run : runAction nested action s = .ok outcome s)
    (answers : Answers (Entries.find? entries) request (.of outcome) (Entries.find? entries)) :
    ∃ outcome left, runAction nested action s = .ok outcome { s with data := some left } ∧
      (Entries.keys left).Nodup ∧
      Answers (Entries.find? entries) request (.of outcome) (Entries.find? left) := by
  refine ⟨outcome, entries, ?_, distinct, answers⟩
  rw [run, ← data]

theorem of_refusal {message : String} (h : message ≠ "") :
    Reply.of (.result ⟨false, message⟩) = .refused message := by
  simp [Reply.of, CommandResult.text, h]

theorem refines_set {value : String} (hkey : arguments.getD "key" "" = key)
    (hvalue : arguments.getD "value" (setSignature.defaultFor "value") = value) :
    Refines set arguments (.set key value) := by
  intro nested s entries data distinct
  rw [set, hkey, hvalue]
  by_cases named : key = ""
  · subst named
    exact refines_unchanged data distinct rfl (.unnamed value)
  · refine ⟨.result ⟨true, key ++ " = " ++ value⟩, Entries.put entries key value, ?_,
      Entries.nodup_keys_put distinct key value, ?_⟩
    · simp only [named, beq_iff_eq, if_false]
      rw [runAction_withStore data, runAction_store]
      rfl
    · rw [Entries.find?_put_eq_update]
      exact .set named value

theorem refines_get (hkey : arguments.getD "key" "" = key) : Refines get arguments (.get key) := by
  intro nested s entries data distinct
  rw [get, hkey, runAction_withStore data]
  cases bound : Entries.find? entries key with
  | none =>
    refine refines_unchanged data distinct rfl ?_
    rw [of_refusal (by simp)]
    exact .notGot bound
  | some value => exact refines_unchanged data distinct rfl (.get bound)

theorem refines_unset (hkey : arguments.getD "key" "" = key) :
    Refines unset arguments (.unset key) := by
  intro nested s entries data distinct
  rw [unset, hkey, runAction_withStore data]
  cases bound : Entries.find? entries key with
  | none =>
    refine refines_unchanged data distinct rfl ?_
    rw [of_refusal (by simp)]
    exact .notUnset bound
  | some value =>
    refine ⟨.result ⟨true, "removed " ++ key⟩, Entries.erase entries key, rfl,
      Entries.nodup_keys_erase distinct key, ?_⟩
    rw [Entries.find?_erase_eq_update]
    exact .unset bound

theorem lists_sorted (distinct : (Entries.keys entries).Nodup) (start : String) :
    Lists (Entries.find? entries) start
      ((Entries.sorted entries).filter fun p => start.toList.isPrefixOf p.1.toList) where
  ordered := (Entries.pairwise_sorted distinct).filter _
  complete key value := by
    rw [List.mem_filter, Entries.mem_sorted, Entries.find?_eq_some_iff distinct,
      List.isPrefixOf_iff_prefix]

theorem refines_list {start : String} (hstart : arguments.getD "prefix" "" = start) :
    Refines list arguments (.list start) := by
  intro nested s entries data distinct
  rw [list, hstart, runAction_withStore data]
  exact refines_unchanged data distinct rfl (.list (lists_sorted distinct start) (shows_standard _))

theorem exists_command (request : Request) :
    ∃ command, (request.name, command) ∈ commands ∧
      request.values.length ≤ command.signature.parameters.length ∧
      Refines command.handler.run (command.signature.denoted request.values []) request := by
  cases request with
  | set key value => exact ⟨_, .head _, Nat.le_refl 2, refines_set rfl rfl⟩
  | get key => exact ⟨_, .tail _ (.head _), Nat.le_refl 1, refines_get rfl⟩
  | unset key => exact ⟨_, .tail _ (.tail _ (.head _)), Nat.le_refl 1, refines_unset rfl⟩
  | list start =>
    exact ⟨_, .tail _ (.tail _ (.tail _ (.head _))), Nat.le_refl 1, refines_list rfl⟩

end Handlers

/-- A statement of the name of a command and of values, in whatever quotes, for a request. -/
def Denotes (splitters : Splitters) (statement : String) (request : Request) : Prop :=
  ∃ first rest, splitters.line.split statement = .ok (first :: rest) ∧
    splitters.line.unquote first = .ok request.name ∧
    List.Forall₂ (fun token value => splitters.argument.split token = .ok [value]) rest
      request.values

/-- A line whose statements are for requests, one after the other. -/
def Types (splitters : Splitters) (line : String) (requests : List Request) : Prop :=
  List.Forall₂ (Denotes splitters) (Statement.split line) requests

structure Stores (splitters : Splitters) (entries : Entries String) (s : Session Store) : Prop where
  accepts : Accepts splitters s
  registered : ∀ p ∈ commands, Entries.find? s.commands.entries p.1 = some p.2
  data : s.data = some entries
  distinct : (Entries.keys entries).Nodup

theorem not_isReserved_name (request : Request) : isReserved request.name = false := by
  cases request <;> simp only [Request.name] <;> decide

theorem exists_calls (stores : Stores splitters entries s) {statement : String} {request : Request}
    (denotes : Denotes splitters statement request) :
    ∃ c, Calls splitters s statement c ∧ c.binding.surplus = [] ∧
      Refines c.command.handler.run c.arguments request := by
  obtain ⟨first, rest, tokens, unquoted, values⟩ := denotes
  obtain ⟨command, hcommand, fit, refines⟩ := exists_command request
  have found := Registry.lookup_of_find? (stores.registered _ hcommand)
  have bound := Binding.ofTokens_values command.signature values fit []
  rw [List.append_nil] at bound
  have calls := Calls.intro tokens unquoted (not_isReserved_name request) found
    (Binding.fits_of_values values)
  rw [bound] at calls
  exact ⟨_, calls, rfl, refines⟩

theorem after_report {outcome : Outcome} (success : outcome.isFailure = false) (name : String)
    (t : Session Store) :
    after (report name outcome) t = { t with output := (Reply.of outcome).shownOn t.output } := by
  have said (text : String) :
      after (if text != "" then do print text; pure outcome else pure outcome) t =
        { t with output := (Reply.done text).shownOn t.output } := by
    rw [Reply.shownOn_done]
    split <;> rfl
  cases outcome with
  | nothing => exact said ""
  | value v => exact said ""
  | text text => exact said text
  | result r =>
    obtain ⟨ok, message⟩ := r
    cases ok with
    | false => cases success
    | true => exact said message

theorem reported_of_answer (built : s.splitters = some splitters) {statement : String}
    {c : Call Store} (calls : Calls splitters s statement c) {outcome : Outcome} {t : Session Store}
    (run : c.answer nested (c.start s) = .ok outcome t) :
    ∃ journal files, reported (runStatement nested splitters.line statement) s =
      .ok false { t with output := (Reply.of outcome).shownOn t.output, journal, files } := by
  rw [reported_apply, runStatement_of_answer built calls, run]
  cases h : outcome.isFailure with
  | false =>
    dsimp only
    rw [report_of_success h, after_report h]
    exact ⟨t.journal, t.files, rfl⟩
  | true =>
    cases outcome with
    | result r =>
      have hr : r.ok = false := by simpa [Outcome.isFailure] using h
      dsimp only
      rw [report_of_failure hr]
      let u := told (.handler c.name r.text) t
      refine ⟨u.journal, u.files, ?_⟩
      simp only [Reply.of, hr]
      rw [if_neg Bool.false_ne_true, Reply.shownOn_refused]
      rfl
    | _ => cases h

theorem exists_start (c : Call Store) (fits : c.binding.surplus = []) (s : Session Store) :
    ∃ journal files invocations, c.start s = { s with journal, files, invocations } := by
  rw [Call.start, fits]
  exact ⟨_, _, _, rfl⟩

structure Fulfils (splitters : Splitters) (entries : Entries String) (s : Session Store)
    (requests : List Request) (replies : List Reply) (left : Entries String) (t : Session Store) :
    Prop where
  stores : Stores splitters left t
  exchange : Exchange (Entries.find? entries) requests replies (Entries.find? left)
  output : t.output = replies.foldl Reply.shownOn s.output

theorem Fulfils.append {t u : Session Store} {requests more : List Request}
    {replies others : List Reply} {between left : Entries String}
    (first : Fulfils splitters entries s requests replies between t)
    (second : Fulfils splitters between t more others left u) :
    Fulfils splitters entries s (requests ++ more) (replies ++ others) left u where
  stores := second.stores
  exchange := first.exchange.append second.exchange
  output := by rw [second.output, first.output, List.foldl_append]

theorem fulfils_nil (stores : Stores splitters entries s) :
    Fulfils splitters entries s [] [] entries s :=
  ⟨stores, .nil _, rfl⟩

/-- One statement is one step of the map. -/
theorem reported_of_denotes (stores : Stores splitters entries s)
    (built : s.splitters = some splitters) {statement : String} {request : Request}
    (denotes : Denotes splitters statement request) :
    ∃ reply left t, reported (runStatement nested splitters.line statement) s = .ok false t ∧
      t.splitters = some splitters ∧ Fulfils splitters entries s [request] [reply] left t := by
  obtain ⟨c, calls, fits, refines⟩ := exists_calls stores denotes
  obtain ⟨journal, files, invocations, hstart⟩ := exists_start c fits s
  have data : (c.start s).data = some entries := by
    rw [hstart]
    exact stores.data
  obtain ⟨outcome, left, run, distinct, answers⟩ := refines nested _ entries data stores.distinct
  obtain ⟨journal', files', heq⟩ := reported_of_answer built calls run
  rw [hstart] at heq
  exact ⟨.of outcome, left, _, heq, built,
    ⟨⟨stores.accepts.sound, .inl built⟩, stores.registered, rfl, distinct⟩,
    .cons answers (.nil _), rfl⟩

theorem runStatements_of_denotes {statements : List String} {requests : List Request}
    (denotes : List.Forall₂ (Denotes splitters) statements requests)
    (stores : Stores splitters entries s) (built : s.splitters = some splitters) :
    ∃ replies left t, runStatements nested splitters.line statements s = .ok false t ∧
      Fulfils splitters entries s requests replies left t := by
  induction denotes generalizing s entries with
  | nil => exact ⟨[], entries, s, rfl, fulfils_nil stores⟩
  | cons first _ ih =>
    obtain ⟨reply, between, t, hfirst, built, fulfils⟩ := reported_of_denotes stores built first
    obtain ⟨replies, left, u, hothers, others⟩ := ih fulfils.stores built
    refine ⟨reply :: replies, left, u, ?_, fulfils.append others⟩
    rw [runStatements, bind_apply, hfirst]
    exact hothers

theorem executeAt_of_types (depth : Nat) (stores : Stores splitters entries s) {line : String}
    {requests : List Request} (types : Types splitters line requests) :
    ∃ replies left t, executeAt depth line s = .ok false t ∧
      Fulfils splitters entries s requests replies left t := by
  have ready : Stores splitters entries (s.withSplitters splitters) :=
    ⟨⟨stores.accepts.sound, .inl rfl⟩, stores.registered, stores.data, stores.distinct⟩
  have built := splitters_withSplitters splitters s
  obtain ⟨replies, left, t, run, fulfils⟩ := runStatements_of_denotes types ready built
  refine ⟨replies, left, t, ?_, fulfils.stores, fulfils.exchange, fulfils.output⟩
  rw [stores.accepts.executeAt_eq, executeAt_eq, executeLineWith, bind_apply,
    getLineSplitter_of_some built]
  exact run

theorem mapM_executeAt_of_types (depth : Nat) {lines : List String}
    {requests : List (List Request)} (types : List.Forall₂ (Types splitters) lines requests)
    (stores : Stores splitters entries s) :
    ∃ replies left t, lines.mapM (executeAt depth) s = .ok (lines.map fun _ => false) t ∧
      Fulfils splitters entries s requests.flatten replies left t := by
  induction types generalizing s entries with
  | nil => exact ⟨[], entries, s, rfl, fulfils_nil stores⟩
  | cons first _ ih =>
    obtain ⟨replies, between, t, hfirst, fulfils⟩ := executeAt_of_types depth stores first
    obtain ⟨more, left, u, hothers, others⟩ := ih fulfils.stores
    refine ⟨replies ++ more, left, u, ?_, fulfils.append others⟩
    rw [List.mapM_cons, bind_apply, hfirst]
    dsimp only
    rw [bind_apply, hothers]
    rfl

/-- The store is a map. Lines typed for requests are answered one request after the other as a map
answers them; no line ends the session, the session shows a line for each reply, or a table, and
nothing else, and it is left with a store that is the map left. What a request finds bound, and what
is bound in the end, is what the last request before that settles the key has left there. -/
theorem executeAt_fulfils (depth : Nat) (stores : Stores splitters entries s) {lines : List String}
    {requests : List (List Request)} (types : List.Forall₂ (Types splitters) lines requests) :
    ∃ replies left t, lines.mapM (executeAt depth) s = .ok (lines.map fun _ => false) t ∧
      t.data = some left ∧ (Entries.keys left).Nodup ∧
      t.output = { s.output with
        written := s.output.written ++ String.join (replies.map (Reply.line s.output.isTerminal)) } ∧
      Exchange (Entries.find? entries) requests.flatten replies (Entries.find? left) ∧
      (∀ key value, Entries.find? left key = some value ↔
        LeftWith (Entries.find? entries) requests.flatten key value) ∧
      ∀ before request after, requests.flatten = before ++ request :: after →
        ∃ m m₁ earlier reply later, replies = earlier ++ reply :: later ∧
          Exchange (Entries.find? entries) before earlier m ∧ Answers m request reply m₁ ∧
          ∀ key value, m key = some value ↔ LeftWith (Entries.find? entries) before key value := by
  obtain ⟨replies, left, t, run, fulfils⟩ := mapM_executeAt_of_types depth types stores
  have output := fulfils.output.trans (Reply.shownOn_foldl s.output replies)
  refine ⟨replies, left, t, run, fulfils.stores.data, fulfils.stores.distinct, output,
    fulfils.exchange, fulfils.exchange.bound_iff, ?_⟩
  intro before request after hsplit
  have exchange := fulfils.exchange
  rw [hsplit] at exchange
  obtain ⟨earlier, reply, later, m, m₁, hreplies, first, answers, -⟩ := exchange.split
  exact ⟨m, m₁, earlier, reply, later, hreplies, first, answers, first.bound_iff⟩

/-- A session over an empty store, with the bundled commands. -/
def emptySession : Session Store :=
  let journal : Journal := ⟨⟨"shellkit", 20, false, none, none⟩, "", [], ""⟩
  { fresh "kv" (some []) (.standard "/history") .empty ⟨false, ""⟩ journal with
    commands := commands.foldl (fun r p => r.insert p.1 p.2) (.empty false) }

theorem stores_emptySession : Stores standardSplitters [] emptySession where
  accepts := ⟨⟨_, buildSplitters_defaultQuotes⟩, .inr ⟨⟨rfl, rfl⟩, buildSplitters_defaultQuotes⟩⟩
  registered p hp := by
    simp only [commands, List.mem_cons, List.not_mem_nil, or_false] at hp
    rcases hp with rfl | rfl | rfl | rfl <;> rfl
  data := rfl
  distinct := List.nodup_nil

/-- A value with a blank is set, read, listed and set again; the empty key is refused. -/
theorem executeAt_fulfils_overwritten :
    let lines := ["set a 'b c'; get \"a\"; list ''", "set '' x; set a ''"]
    ∃ left t, lines.mapM (executeAt 0) emptySession = .ok [false, false] t ∧ t.data = some left ∧
      Entries.find? left "a" = some "" ∧ Entries.find? left "" = none ∧
      t.output.written = "a = b c\nb c\n---------------\n| Key | Value |\n| --- | ----- |\n" ++
        "| a   | b c   |\n---------------\nError: set: missing key\na = \n" := by
  intro lines
  have first : Types standardSplitters "set a 'b c'; get \"a\"; list ''"
      [.set "a" "b c", .get "a", .list ""] := by
    have split : Statement.split "set a 'b c'; get \"a\"; list ''" =
        ["set a 'b c'", "get \"a\"", "list ''"] := by
      decide
    rw [Types, split]
    refine .cons ⟨"set", ["a", "'b c'"], by decide, by decide, ?_⟩
      (.cons ⟨"get", ["\"a\""], by decide, by decide, ?_⟩
        (.cons ⟨"list", ["''"], by decide, by decide, ?_⟩ .nil))
    · exact .cons (by decide) (.cons (by decide) .nil)
    · exact .cons (by decide) .nil
    · exact .cons (by decide) .nil
  have second : Types standardSplitters "set '' x; set a ''" [.set "" "x", .set "a" ""] := by
    have split : Statement.split "set '' x; set a ''" = ["set '' x", "set a ''"] := by decide
    rw [Types, split]
    refine .cons ⟨"set", ["''", "x"], by decide, by decide, ?_⟩
      (.cons ⟨"set", ["a", "''"], by decide, by decide, ?_⟩ .nil)
    · exact .cons (by decide) (.cons (by decide) .nil)
    · exact .cons (by decide) (.cons (by decide) .nil)
  obtain ⟨replies, left, t, run, data, -, -, -, bound, -⟩ :=
    executeAt_fulfils 0 stores_emptySession (.cons first (.cons second .nil))
  refine ⟨left, t, run, data, ?_, ?_, ?_⟩
  · rw [bound]
    exact .inl ⟨[.set "a" "b c", .get "a", .list "", .set "" "x"], [], rfl, by decide, by simp⟩
  · rw [Option.eq_none_iff_forall_ne_some]
    intro value h
    rcases (bound "" value).mp h with ⟨_, _, _, named, _⟩ | ⟨nothing, _⟩
    · exact named rfl
    · cases nothing
  · rw [← after_of_ok run]
    decide +kernel

end KeyValue
end CommandShell
