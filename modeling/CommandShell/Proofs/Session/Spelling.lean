import CommandShell.Proofs.Session.Ended
import CommandShell.Proofs.Session.TypedLine

/-! Spellings of a command. While case does not count, every spelling of a registered name runs its
command, with the same arguments and to the same end, unless the spelling is itself a word that ends
the session: those words end it in their own case only. -/

namespace CommandShell

namespace Splitter

structure Spells (sp : Splitter) (word text : String) : Prop where
  solid : Statement.Solid text
  token : sp.split text = .ok [text]
  unquoted : sp.unquote text = .ok word

theorem spells_enclose {word : String} (whole : Statement.separator ∉ word.toList) :
    commandWords.Spells word (enclose word) where
  solid := solid_enclose whole
  token := split_commandLine word [] []
  unquoted := unquote_enclose word

theorem Follows.stripRight {sp : Splitter} {text : String} (h : sp.Follows text) :
    sp.Follows (Text.stripRight text) := by
  intro c hc
  rw [Text.stripRight, String.toList_ofList] at hc
  obtain ⟨blanks, htext⟩ := Text.trimRight_prefix text.toList
  exact h c (by rw [← htext, List.head?_append, hc]; rfl)

end Splitter

namespace Session
open Splitter Statement

variable {δ : Type} {splitters : Splitters} {s : Session δ}

theorem executeAt_of_spells (depth : Nat) {quotes : List String}
    (hline : forLine quotes = .ok splitters.line) (built : s.splitters = some splitters)
    {word text rest : String} (spells : splitters.line.Spells word text)
    (free : isReserved word = false) (whole : separator ∉ rest.toList)
    (follows : splitters.line.Follows rest) :
    executeAt depth (text ++ rest) s = match splitters.line.split (Text.stripRight rest) with
      | .error e => .ok false (told (.tokenize (text ++ Text.stripRight rest) e.reason) s)
      | .ok tokens => reported (do
          discard (dispatch (nestedAt depth) (text :: tokens))
          pure false) s := by
  have tokens := split_append_of_follows hline spells.token follows.stripRight
  rw [Session.executeAt_eq, executeLineWith, bind_apply, getLineSplitter_of_some built,
    split_solid_append spells.solid whole]
  dsimp only
  rw [runStatements_singleton]
  cases hrest : splitters.line.split (Text.stripRight rest) with
  | error e =>
    rw [hrest] at tokens
    rw [reported_apply, runStatement, tokens]
    rfl
  | ok others =>
    rw [hrest] at tokens
    have tokens : splitters.line.split (text ++ Text.stripRight rest) = .ok (text :: others) :=
      tokens
    rw [reported_apply, runStatement_of_word tokens spells.unquoted free, ← reported_apply]

theorem dispatch_cons_congr {nested : Nested δ} (built : s.splitters = some splitters)
    {first first' word word' : String} (unquoted : splitters.line.unquote first = .ok word)
    (unquoted' : splitters.line.unquote first' = .ok word')
    (same : s.commands.lookup word = s.commands.lookup word') (rest : List String) :
    dispatch nested (first :: rest) s = dispatch nested (first' :: rest) s := by
  rw [dispatch_cons built unquoted, dispatch_cons built unquoted', same]

/-- Every spelling of a registered name runs its command. Of two statements with the same text after
the command, one typed in some spelling and one as the name was registered, both end alike in the
same state, and if the arguments can be bound, the handler of that command has run on them. If the
rest cannot be read, both report so, each quoting itself. -/
theorem executeAt_spelling (depth : Nat) (accepts : Accepts splitters s)
    (folding : s.commands.Folding) {name word : String} (registered : name ∈ s.commands.names)
    (spelled : Text.lower word = Text.lower name) (free : isReserved word = false)
    {typed written : String} (htyped : splitters.line.Spells word typed)
    (hwritten : splitters.line.Spells name written) {rest : String}
    (whole : separator ∉ rest.toList) (follows : splitters.line.Follows rest) :
    let ready := s.withSplitters splitters
    let text := Text.stripRight rest
    (∀ tokens, splitters.line.split text = .ok tokens →
      executeAt depth (typed ++ rest) s = executeAt depth (written ++ rest) s ∧
      ∃ command, Entries.find? s.commands.entries name = some command ∧
        ∀ binding, Binding.ofTokens splitters.argument command.signature.parameters tokens =
            (binding, none) →
          executeAt depth (typed ++ rest) s = reported (do
            discard (handled (nestedAt depth) name command binding.arguments)
            pure false) (Call.start ⟨name, command, binding⟩ ready)) ∧
    ∀ e, splitters.line.split text = .error e →
      executeAt depth (typed ++ rest) s =
          .ok false (told (.tokenize (typed ++ text) e.reason) ready) ∧
        executeAt depth (written ++ rest) s =
          .ok false (told (.tokenize (written ++ text) e.reason) ready) := by
  obtain ⟨quotes, hquotes⟩ := accepts.sound
  obtain ⟨hline, -⟩ := forLine_forArgument_of_build hquotes
  obtain ⟨command, hfind, found⟩ := folding.exists_lookup_eq registered
  intro ready text
  have built : ready.splitters = some splitters := rfl
  have freeName := folding.built.isReserved_eq_false registered
  have runTyped := executeAt_of_spells depth hline built htyped free whole follows
  have runWritten := executeAt_of_spells depth hline built hwritten freeName whole follows
  rw [accepts.executeAt_eq, accepts.executeAt_eq, runTyped, runWritten]
  refine ⟨fun tokens hrest => ?_, fun e hrest => by rw [hrest]; exact ⟨rfl, rfl⟩⟩
  have same : ready.commands.lookup word = ready.commands.lookup name :=
    (found word spelled).trans (found name rfl).symm
  have hdispatch : dispatch (nestedAt depth) (typed :: tokens) ready =
      dispatch (nestedAt depth) (written :: tokens) ready :=
    dispatch_cons_congr built htyped.unquoted hwritten.unquoted same tokens
  rw [hrest]
  refine ⟨?_, command, hfind, fun binding bound => ?_⟩
  · dsimp only
    rw [reported_apply, reported_apply, discard_apply, discard_apply, hdispatch]
  · have run : dispatch (nestedAt depth) (typed :: tokens) ready = _ :=
      dispatch_of_bound built htyped.unquoted (found word spelled) bound
    dsimp only
    rw [reported_apply, reported_apply, discard_apply, discard_apply, run]
    rfl

def idle : Command Unit := .bundled ⟨"", [], List.nodup_nil⟩ fun _ => .finish .nothing

/-- A session in which case does not count and a word that ends sessions names a command if it is in
capitals. -/
def shouting : Session Unit :=
  { ready with commands := ((Registry.empty true).insert "help" Help.command).insert "EXIT" idle }

theorem folding_shouting : shouting.commands.Folding := by
  have first : (Registry.empty true).register "help" (.command Help.command) =
      .ok ((Registry.empty true).insert "help" (Help.command (δ := Unit))) := rfl
  have second : ((Registry.empty true).insert "help" Help.command).register "EXIT"
      (.command idle) = .ok shouting.commands := rfl
  exact .register (.register .empty first) second

theorem accepts_shouting : Accepts standardSplitters shouting where
  sound := ⟨_, buildSplitters_defaultQuotes⟩
  built := .inl rfl

theorem executeAt_spelling_capitals :
    let rest := " 'EXIT' x=1 "
    let binding : Binding := ⟨[("command", "EXIT"), ("x", "1")], 1, []⟩
    executeAt 0 (enclose "HELP" ++ rest) shouting = executeAt 0 ("help" ++ rest) shouting ∧
      executeAt 0 (enclose "HELP" ++ rest) shouting = reported (do
        discard (handled (nestedAt 0) "help" Help.command binding.arguments)
        pure false) (Call.start ⟨"help", Help.command, binding⟩ shouting) := by
  intro rest binding
  have registered : "help" ∈ shouting.commands.names := by decide
  have spelled : Text.lower "HELP" = Text.lower "help" := by decide
  have capitals : commandWords.Spells "HELP" (enclose "HELP") := spells_enclose (by decide)
  have plain : commandWords.Spells "help" "help" :=
    ⟨⟨by decide, ⟨'h', rfl, by decide⟩, ⟨'p', rfl, by decide⟩⟩, by decide, by decide⟩
  have follows : commandWords.Follows rest := by
    intro c hc
    obtain rfl : ' ' = c := by simpa [rest] using hc
    decide
  have h := executeAt_spelling 0 accepts_shouting folding_shouting registered spelled (by decide)
    capitals plain (by decide) follows
  obtain ⟨same, command, found, run⟩ := h.1 ["'EXIT'", "x=1"] (by decide)
  obtain rfl : Help.command = command := Option.some.inj found
  exact ⟨same, run binding (by decide)⟩

/-- A word that ends sessions does so where its own spelling in capitals is a command. -/
theorem executeAt_spelling_exit :
    shouting.commands.Folding ∧ "EXIT" ∈ shouting.commands.names ∧
      Text.lower "exit" = Text.lower "EXIT" ∧ executeAt 0 "exit" shouting = .ok true shouting ∧
      ∃ t, executeAt 0 "EXIT" shouting = .ok false t ∧
        t.invocations = [⟨"EXIT", .bundled, []⟩] := by
  refine ⟨folding_shouting, by decide, by decide, rfl,
    Call.start ⟨"EXIT", idle, .empty⟩ shouting, ?_, rfl⟩
  have tokens : standardSplitters.line.split "EXIT" = .ok ["EXIT"] := by decide
  have unquoted : standardSplitters.line.unquote "EXIT" = .ok "EXIT" := by decide
  have calls : Calls standardSplitters shouting "EXIT" ⟨"EXIT", idle, .empty⟩ :=
    .intro tokens unquoted (by decide) rfl (by simp)
  have whole : Statement.split "EXIT" = ["EXIT"] := by decide
  rw [Session.executeAt_eq, executeLineWith, bind_apply, getLineSplitter_of_some rfl, whole]
  dsimp only
  rw [runStatements_singleton, reported_apply, runStatement_of_answer rfl calls]
  rfl

end Session
end CommandShell
