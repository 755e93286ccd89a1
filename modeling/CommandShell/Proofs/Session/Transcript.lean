import CommandShell.Proofs.Session.Call
import CommandShell.Proofs.Session.Operation
import CommandShell.Proofs.Text.Escape

/-! Terminals differ from other outputs in colour only. What a session does never depends on its
output; it writes the same lines to a terminal as to anything else, and since no escape sequence
crosses the end of a line, stripping each line is the same as stripping the whole text. Only what an
editor writes to the output by itself is not stripped. -/

namespace CommandShell

inductive Utterance
  | line (text : String)
  | prompt (text : String)

namespace Utterance

def shown (isTerminal : Bool) : Utterance → String
  | line text => Output.visible isTerminal text ++ "\n"
  | prompt text => text

def transcript (isTerminal : Bool) (said : List Utterance) : String :=
  String.join (said.map (shown isTerminal))

theorem transcript_cons (isTerminal : Bool) (u : Utterance) (said : List Utterance) :
    transcript isTerminal (u :: said) = u.shown isTerminal ++ transcript isTerminal said := by
  simp [transcript]

theorem transcript_append (isTerminal : Bool) (said more : List Utterance) :
    transcript isTerminal (said ++ more) =
      transcript isTerminal said ++ transcript isTerminal more := by
  simp [transcript]

theorem transcript_eq_stripEscapes {said : List Utterance}
    (plain : ∀ p, .prompt p ∈ said → Text.escape ∉ p.toList) :
    transcript false said = Text.stripEscapes (transcript true said) := by
  induction said with
  | nil => rfl
  | cons u said ih =>
    have hrest := ih fun p hp => plain p (List.mem_cons_of_mem u hp)
    rw [transcript_cons, transcript_cons, hrest]
    cases u with
    | line text => exact (Text.stripEscapes_line_append text _).symm
    | prompt text =>
      exact (Text.stripEscapes_append_of_not_mem (plain text List.mem_cons_self) _).symm

end Utterance

def Output.writeAll (o : Output) (said : List Utterance) : Output :=
  { o with written := o.written ++ Utterance.transcript o.isTerminal said }

theorem Output.writeAll_nil (o : Output) : o.writeAll [] = o := by
  simp [writeAll, Utterance.transcript]

theorem Output.writeAll_append (o : Output) (said more : List Utterance) :
    o.writeAll (said ++ more) = (o.writeAll said).writeAll more := by
  simp [writeAll, Utterance.transcript_append, String.append_assoc]

theorem Output.writeAll_line (o : Output) (text : String) :
    o.writeAll [.line text] = o.printLine text := by
  simp [writeAll, printLine, Utterance.transcript, Utterance.shown, String.append_assoc]

theorem Output.writeAll_prompt (o : Output) (text : String) :
    o.writeAll [.prompt text] = o.write text := by
  simp [writeAll, write, Utterance.transcript, Utterance.shown]

namespace Session

variable {δ α β : Type} {π : View δ → Except Raised String} {allowed : String → Prop}

def onto (o : Output) (s : Session δ) : Session δ := { s with output := o }

/-- An operation does and says the same whatever output the session has, and only such prompts are
written by an editor as are allowed. -/
def Blind (π : View δ → Except Raised String) (allowed : String → Prop) (x : SessionM δ α) : Prop :=
  ∀ s : Session δ, s.prompter = π →
    ∃ (result : Except Raised α) (t : Session δ) (said : List Utterance), t.prompter = π ∧
      (∀ p, .prompt p ∈ said → allowed p) ∧
      ∀ o, x (s.onto o) = ofExcept result (t.onto (o.writeAll said))

theorem Blind.of_silent {x : SessionM δ α}
    (h : ∀ s : Session δ, s.prompter = π → ∃ (result : Except Raised α) (t : Session δ),
      t.prompter = π ∧ ∀ o, x (s.onto o) = ofExcept result (t.onto o)) : Blind π allowed x := by
  intro s hs
  obtain ⟨result, t, ht, heq⟩ := h s hs
  refine ⟨result, t, [], ht, by simp, fun o => ?_⟩
  rw [heq, Output.writeAll_nil]

theorem Blind.of_modify {f : Session δ → Session δ} (prompter : ∀ s, (f s).prompter = s.prompter)
    (onto : ∀ s o, f (s.onto o) = (f s).onto o) : Blind π allowed (modify f) := by
  refine .of_silent fun s hs => ⟨.ok (), f s, (prompter s).trans hs, fun o => ?_⟩
  change EStateM.Result.ok () (f (s.onto o)) = _
  rw [onto]
  rfl

theorem Blind.bind {x : SessionM δ α} {f : α → SessionM δ β} (hx : Blind π allowed x)
    (hf : ∀ a, Blind π allowed (f a)) : Blind π allowed (x >>= f) := by
  intro s hs
  obtain ⟨result, t, said, ht, hsaid, heq⟩ := hx s hs
  cases result with
  | error e =>
    refine ⟨.error e, t, said, ht, hsaid, fun o => ?_⟩
    rw [bind_apply, heq]
    rfl
  | ok a =>
    obtain ⟨result, u, more, hu, hmore, heq'⟩ := hf a t ht
    refine ⟨result, u, said ++ more, hu, ?_, fun o => ?_⟩
    · intro p hp
      exact (List.mem_append.mp hp).elim (hsaid p) (hmore p)
    · rw [bind_apply, heq, Output.writeAll_append, ← heq']
      rfl

theorem Blind.tryCatch {x : SessionM δ α} {handle : Raised → SessionM δ α}
    (hx : Blind π allowed x) (hh : ∀ e, Blind π allowed (handle e)) :
    Blind π allowed (tryCatch x handle) := by
  intro s hs
  obtain ⟨result, t, said, ht, hsaid, heq⟩ := hx s hs
  cases result with
  | ok a =>
    refine ⟨.ok a, t, said, ht, hsaid, fun o => ?_⟩
    rw [tryCatch_apply, heq]
    rfl
  | error e =>
    obtain ⟨result, u, more, hu, hmore, heq'⟩ := hh e t ht
    refine ⟨result, u, said ++ more, hu, ?_, fun o => ?_⟩
    · intro p hp
      exact (List.mem_append.mp hp).elim (hsaid p) (hmore p)
    · rw [tryCatch_apply, heq, Output.writeAll_append, ← heq']
      rfl

theorem blind_getSplitters : Blind π allowed (getSplitters (δ := δ)) := by
  refine .of_silent fun s hs => ?_
  cases built : s.splitters with
  | some splitters =>
    refine ⟨.ok splitters, s, hs, fun o => ?_⟩
    exact getSplitters_of_some (s := s.onto o) built
  | none =>
    have unset (o : Output) : (s.onto o).splitters = none := built
    cases h : buildSplitters s.quotes with
    | error e =>
      refine ⟨.error (.shell e), s, hs, fun o => ?_⟩
      rw [getSplitters_apply, unset]
      simp only [onto, h]
      rfl
    | ok splitters =>
      refine ⟨.ok splitters, s.withSplitters splitters, hs, fun o => ?_⟩
      rw [getSplitters_apply, unset]
      simp only [onto, h]
      rfl

theorem Blind.of_option {x y : SessionM δ α} (field : Session δ → Option α)
    (same : ∀ s o, field (s.onto o) = field s)
    (found : ∀ s a, field s = some a → x s = .ok a s) (missing : ∀ s, field s = none → x s = y s)
    (hy : Blind π allowed y) : Blind π allowed x := by
  intro s hs
  cases h : field s with
  | some a =>
    refine ⟨.ok a, s, [], hs, by simp, fun o => ?_⟩
    rw [found (s.onto o) a ((same s o).trans h), Output.writeAll_nil]
    rfl
  | none =>
    obtain ⟨result, t, said, ht, hsaid, heq⟩ := hy s hs
    refine ⟨result, t, said, ht, hsaid, fun o => ?_⟩
    rw [missing (s.onto o) ((same s o).trans h), heq]

theorem blind_pure (a : α) : Blind π allowed (pure a : SessionM δ α) :=
  .of_silent fun s hs => ⟨.ok a, s, hs, fun _ => rfl⟩

theorem blind_enroll (name : String) (offered : Export (Command δ)) :
    Blind π allowed (enroll name offered) := by
  refine .of_silent fun s hs => ?_
  cases h : s.commands.register name offered with
  | error e =>
    refine ⟨.ok (some e), s, hs, fun o => ?_⟩
    rw [enroll_apply]
    simp only [onto, h]
    rfl
  | ok commands =>
    refine ⟨.ok none, { s with commands := commands }, hs, fun o => ?_⟩
    rw [enroll_apply]
    simp only [onto, h]
    rfl

theorem blind_print (line : String) : Blind π allowed (print (δ := δ) line) := by
  intro s hs
  refine ⟨.ok (), s, [.line line], hs, by simp, fun o => ?_⟩
  rw [Output.writeAll_line]
  rfl

theorem blind_readHistory : Blind π allowed (readHistory (δ := δ)) := by
  refine .of_silent fun s hs => ?_
  cases h : s.history.load s.files with
  | error e =>
    refine ⟨.error e, s, hs, fun o => ?_⟩
    rw [readHistory, get_bind_apply]
    simp only [onto, h]
    rfl
  | ok loaded =>
    obtain ⟨count, history⟩ := loaded
    cases count with
    | none =>
      refine ⟨.ok 0, after (note (.debug historyChannel [.fixed "No history file at ",
        .filled s.history.path])) { s with history := history }, hs, fun o => ?_⟩
      rw [readHistory, get_bind_apply]
      simp only [onto, h]
      rfl
    | some n =>
      refine ⟨.ok n, after (note (.debug historyChannel [.fixed "Loaded ", .filled (toString n),
        .fixed " history entries from ", .filled s.history.path])) { s with history := history },
        hs, fun o => ?_⟩
      rw [readHistory, get_bind_apply]
      simp only [onto, h]
      rfl

theorem blind_writeHistory : Blind π allowed (writeHistory (δ := δ)) := by
  refine .of_silent fun s hs => ?_
  cases h : s.history.save s.files with
  | mk files failure =>
    cases failure with
    | some e =>
      refine ⟨.error e, { s with files := files }, hs, fun o => ?_⟩
      rw [writeHistory, get_bind_apply]
      simp only [onto, h]
      rfl
    | none =>
      refine ⟨.ok (), after (note (.debug historyChannel [.fixed "Saved ",
        .filled (toString s.history.entries.length), .fixed " history entries to ",
        .filled s.history.path])) { s with files := files }, hs, fun o => ?_⟩
      rw [writeHistory, get_bind_apply]
      simp only [onto, h]
      rfl

theorem blind_setUpEditor (script : EditorScript) :
    Blind π allowed (setUpEditor (δ := δ) script) := by
  unfold setUpEditor
  cases script.setUp with
  | some e => exact .of_silent fun s hs => ⟨.error e, s, hs, fun o => rfl⟩
  | none => exact .of_modify (fun _ => rfl) fun _ _ => rfl

theorem blind_prompt {showsPrompts : Bool}
    (shows : showsPrompts = true → ∀ view p, π view = .ok p → allowed p) :
    Blind π allowed (prompt (δ := δ) showsPrompts) := by
  intro s hs
  cases asked : s.prompter s.view with
  | error e =>
    refine ⟨.error e, s, [], hs, by simp, fun o => ?_⟩
    have asked' : (s.onto o).prompter (s.onto o).view = .error e := asked
    rw [prompt, get_bind_apply, asked', Output.writeAll_nil]
    rfl
  | ok text =>
    let editor := { s.editor with prompts := s.editor.prompts ++ [text] }
    let t : Session δ := { s with editor := editor }
    cases showsPrompts with
    | false =>
      refine ⟨.ok (), t, [], hs, by simp, fun o => ?_⟩
      have asked' : (s.onto o).prompter (s.onto o).view = .ok text := asked
      rw [prompt, get_bind_apply, asked', Output.writeAll_nil]
      rfl
    | true =>
      refine ⟨.ok (), t, [.prompt text], hs, ?_, fun o => ?_⟩
      · intro p hp
        obtain rfl : p = text := by simpa using hp
        exact shows rfl s.view p (hs ▸ asked)
      · have asked' : (s.onto o).prompter (s.onto o).view = .ok text := asked
        rw [prompt, get_bind_apply, asked', Output.writeAll_prompt]
        rfl

theorem interactive_blind : Interactive (δ := δ) fun _ x => Blind π allowed x where
  pure := blind_pure
  throw e := .of_silent fun s hs => ⟨.error e, s, hs, fun _ => rfl⟩
  bind := Blind.bind
  tryCatch := Blind.tryCatch
  view next s hs := next s.view s hs
  commands next s hs := next s.commands s hs
  prepare := blind_getSplitters
  lineSplitter := .of_option Session.lineSplitter (fun _ _ => rfl)
    (fun s sp h => by rw [getLineSplitter_apply, h]) (fun s h => by rw [getLineSplitter_apply, h])
    (blind_getSplitters.bind fun sp => blind_pure sp.line)
  argumentSplitter := .of_option Session.argumentSplitter (fun _ _ => rfl)
    (fun s sp h => by rw [getArgumentSplitter_apply, h])
    (fun s h => by rw [getArgumentSplitter_apply, h])
    (blind_getSplitters.bind fun sp => blind_pure sp.argument)
  note _ := .of_modify (fun _ => rfl) fun _ _ => rfl
  print := blind_print
  store _ := .of_modify (fun _ => rfl) fun _ _ => rfl
  fold _ := .of_modify (fun _ => rfl) fun _ _ => rfl
  append _ := .of_modify (fun _ => rfl) fun _ _ => rfl
  enroll := blind_enroll
  record _ := .of_modify (fun _ => rfl) fun _ _ => rfl
  readHistory := blind_readHistory
  writeHistory := blind_writeHistory
  remember _ := .of_modify (fun _ => rfl) fun _ _ => rfl
  setUp := blind_setUpEditor
  edit _ := .of_modify (fun _ => rfl) fun _ _ => rfl

/-- What operations answer and what they leave does not depend on the output, and what is written
differs by the escape sequences that are stripped of each line. If no prompt that an editor writes
to the output holds an escape character, that is the whole text, stripped. -/
theorem performAll_onto (ops : List (Operation δ)) (s : Session δ) (before : String) :
    ∃ (results : List (Except Raised Answer)) (t : Session δ) (said : List Utterance),
      performAll ops (s.onto ⟨true, before⟩) =
        .ok results (t.onto ⟨true, before ++ Utterance.transcript true said⟩) ∧
      performAll ops (s.onto ⟨false, before⟩) =
        .ok results (t.onto ⟨false, before ++ Utterance.transcript false said⟩) ∧
      (∀ p, .prompt p ∈ said →
        (∃ op ∈ ops, op.showsPrompts = true) ∧ ∃ view, s.prompter view = .ok p) ∧
      ((∀ p, .prompt p ∈ said → Text.escape ∉ p.toList) →
        Utterance.transcript false said =
          Text.stripEscapes (Utterance.transcript true said)) := by
  let allowed p := (∃ op ∈ ops, op.showsPrompts = true) ∧ ∃ view, s.prompter view = .ok p
  have blind : Blind s.prompter allowed (performAll ops) := by
    refine interactive_blind.performAll fun op hop script hscript => blind_prompt ?_
    intro shows view p asked
    exact ⟨⟨op, hop, by simp [Operation.showsPrompts, hscript, shows]⟩, view, asked⟩
  obtain ⟨result, t, said, -, hsaid, heq⟩ := blind s rfl
  obtain ⟨results, u, performed⟩ := exists_performAll ops (s.onto ⟨true, before⟩)
  obtain rfl : result = .ok results := by
    rw [heq] at performed
    cases result <;> cases performed
    rfl
  exact ⟨results, t, said, heq _, heq _, hsaid, Utterance.transcript_eq_stripEscapes⟩

def green : Session Unit := { ready with prompter := fun _ => .ok (Text.paint [.green] "> ") }

def exhausted : EditorScript := ⟨none, [], .fault (.endOfInput ""), true⟩

theorem written_green (isTerminal : Bool) :
    (after (loop exhausted) (green.onto ⟨isTerminal, ""⟩)).output.written =
      "\x1b[32m> \x1b[0m" := by
  cases isTerminal <;> rfl

/-- A plain editor writes the colour of a prompt to any output. -/
theorem performAll_onto_green :
    (after (performAll [.loop exhausted]) (green.onto ⟨false, ""⟩)).output.written ≠
      Text.stripEscapes
        (after (performAll [.loop exhausted]) (green.onto ⟨true, ""⟩)).output.written := by
  have single (s : Session Unit) :
      after (performAll [.loop exhausted]) s = after (loop exhausted) s := by
    rw [after_performAll_cons]
    exact after_bind_pure (loop exhausted) Answer.exit s
  rw [single, single, written_green, written_green]
  decide

end Session
end CommandShell
