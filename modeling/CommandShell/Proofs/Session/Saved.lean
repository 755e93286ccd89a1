import CommandShell.Proofs.Session.Ended

/-! What a loop leaves behind. Whatever ends it, and whether it then returns or raises, the history
file holds the newest of what was found in it, of the lines that were read and of those that their
handlers added, and the editor is released. -/

namespace CommandShell

def EditorScript.typing (lines : List String) (message : String) (showsPrompts : Bool) :
    EditorScript :=
  ⟨none, lines.map .ok, .fault (.endOfInput message), showsPrompts⟩

namespace Stop

variable {stop : Stop} {e : Raised}

theorem isEndOfInput_iff : e.isEndOfInput ↔
    (∃ m, e = .fault (.endOfInput m)) ∨ ∃ failure, e = .untold .endOfInput failure := by
  unfold Raised.isEndOfInput
  split <;> simp_all

theorem outcome_eq (stop : Stop) : stop.outcome = match stop with
    | .exit => .ok .cancelled
    | .prompter (.fault (.endOfInput _)) | .prompter (.untold .endOfInput _)
    | .reader (.fault (.endOfInput _)) | .reader (.untold .endOfInput _) => .ok .endOfInput
    | .setUp (.interrupt (.keyboard _)) | .prompter (.interrupt (.keyboard _))
    | .reader (.interrupt (.keyboard _)) | .handler (.interrupt (.keyboard _)) => .ok .interrupted
    | .setUp e | .prompter e | .reader e | .handler e => .error e := by
  cases stop with
  | exit => rfl
  | setUp e | prompter e | reader e | handler e =>
    rcases e with e | f | i | ⟨kind, failure⟩
    · rfl
    · cases f <;> rfl
    · cases i <;> rfl
    · cases kind <;> rfl

theorem outcome_eq_cancelled : stop.outcome = .ok .cancelled ↔ stop = .exit := by
  rw [outcome_eq]
  split <;> simp_all

theorem outcome_eq_endOfInput : stop.outcome = .ok .endOfInput ↔
    ∃ e, e.isEndOfInput ∧ (stop = .prompter e ∨ stop = .reader e) := by
  simp only [isEndOfInput_iff]
  rw [outcome_eq]
  split <;> simp_all

theorem outcome_eq_interrupted :
    stop.outcome = .ok .interrupted ↔ ∃ m, stop.raised = some (.interrupt (.keyboard m)) := by
  rw [outcome_eq]
  split <;> simp_all [raised]

theorem outcome_eq_error : stop.outcome = .error e ↔
    stop.raised = some e ∧ stop.outcome ≠ .ok .endOfInput ∧ stop.outcome ≠ .ok .interrupted := by
  rw [outcome_eq]
  split <;> simp_all [raised]

end Stop

namespace Session
open Text

variable {δ : Type} {splitters : Splitters} {s t u v b : Session δ}

theorem CanSave.exists_saveHistory (can : s.CanSave) :
    ∃ files t, saveHistory s = .ok () t ∧ Reports { s with files := files } t ∧
      CanSave { s with files := files } ∧
      files.read s.history.path = .ok (Utf8.encode s.history.content) := by
  obtain ⟨files, saved⟩ := History.exists_save can.writable
  have written := History.save_eq_none saved
  have hsave := saveHistory_eq s
  rw [saved] at hsave
  refine ⟨files, _, hsave, reports_note _ _, ?_, Files.read_writeBelow written⟩
  refine ⟨Files.writable_writeBelow written, fun log hlog => ?_, can.apart⟩
  obtain ⟨bytes, hread⟩ := can.log log hlog
  exact ⟨bytes, Files.read_writeBelow_of_ne written (can.apart log hlog).symm hread⟩

structure Finished (splitters : Splitters) (s t : Session δ) (found : List String)
    (turns : List Turn) (left : Session δ) : Prop where
  history : left.history = s.history.filled found (Turn.entered turns)
  saved : left.files.read s.history.path =
    .ok (Utf8.encode (s.history.filled found (Turn.entered turns)).content)
  appended : left.appended = s.appended ++ turns.flatMap Turn.appended
  editor : left.editor = { t.editor with released := true }
  prompter : left.prompter = s.prompter
  accepts : Accepts splitters left
  can : left.CanSave

theorem Took.exists_finished {script : EditorScript} {turns : List Turn} {stop : Stop}
    {found : List String} (took : Took script splitters b turns stop t)
    (sound : ∃ quotes, buildSplitters quotes = .ok splitters) (can : s.CanSave)
    (begun : begin s = .ok true b) (loaded : Reports (primed splitters found s) b) :
    ∃ left, loop script s = ofExcept stop.outcome left ∧
      Finished splitters s t found turns left := by
  have built : b.splitters = some splitters := loaded.splitters
  have hread : t.history = s.history.filled found (Turn.entered turns) := by
    rw [took.history_eq built, loaded.history, primed, History.foldl_append_prepend]
  obtain ⟨u, reported, ending⟩ := took.exists_loop_eq built begun
  have hend : u.history = s.history.filled found (Turn.entered turns) := reported.history.trans hread
  -- nothing but the log is written before the history, so what could be written still can
  have canEnd : u.CanSave := by
    have kept := (((keeps_primed splitters found s).trans loaded.keeps).trans
      (took.keeps built)).trans reported.keeps
    exact can.of_keeps kept (by rw [hend, History.filled])
  obtain ⟨files, w, saved, savedReport, canAgain, hfile⟩ := canEnd.exists_saveHistory
  obtain ⟨left, hloop, last, -⟩ := ending w saved
  have kept := (savedReport.keeps.trans (keeps_released w)).trans last.keeps
  -- what is logged from here on goes to another file
  have hleft : left.history = u.history := last.history.trans savedReport.history
  refine ⟨left, hloop, hleft.trans hend, ?_, ?_, ?_, ?_, ?_,
    canAgain.of_keeps kept (congrArg _ hleft)⟩
  · have hread := kept.contents canAgain.log _ _ canAgain.apart hfile
    rw [hend] at hread
    exact hread
  · have added := last.appended.trans (savedReport.appended.trans reported.appended)
    rw [added, took.appended_eq built, loaded.appended]
    rfl
  · rw [last.editor, released, ← reported.editor, ← savedReport.editor]
  · have kept := last.prompter.trans (savedReport.prompter.trans reported.prompter)
    exact (kept.trans (took.prompter_eq built)).trans loaded.prompter
  · refine ⟨sound, .inl ?_⟩
    rw [last.splitters]
    exact savedReport.splitters.trans (reported.splitters.trans (took.splitters_eq built))

/-- A session that is ready, with a text in its history file. -/
def readyWith (limit : Nat) (pos : 0 < limit) (content : String) : Session Unit :=
  { ready with
    history := ⟨"/history", limit, [], pos⟩
    files := (Files.empty.writeBelow "/history" (Utf8.encode content)).1 }

section
variable (limit : Nat) (pos : 0 < limit) (content : String)

theorem files_readyWith : Files.empty.writeBelow "/history" (Utf8.encode content) =
    ((readyWith limit pos content).files, none) := rfl

theorem accepts_readyWith : Accepts standardSplitters (readyWith limit pos content) where
  sound := ⟨_, buildSplitters_defaultQuotes⟩
  built := .inl rfl

theorem canSave_readyWith : (readyWith limit pos content).CanSave where
  writable := Files.writable_writeBelow (files_readyWith limit pos content)
  log _ h := by cases h
  apart _ h := by cases h

theorem readRecords_readyWith :
    (readyWith limit pos content).history.readRecords (readyWith limit pos content).files =
      .ok (some (History.recordsOf content)) := by
  have hread := Files.read_writeBelow (files_readyWith limit pos content)
  change History.readRecords ⟨"/history", _, _, _⟩ _ = _
  rw [History.readRecords, hread]
  simp only [Utf8.decode_encode]

end

theorem executeLine_of_split_nil (hs : s.splitters = some splitters) {line : String}
    (blank : Statement.split line = []) : executeLine line s = .ok false s := by
  have runs : Runs (nestedAt nestingLimit) splitters s (Statement.split line) [] (.ok false) s :=
    blank ▸ .done s
  exact runs.executeLine_eq hs

theorem executeLine_exit (hs : s.splitters = some standardSplitters) {line : String}
    (only : Statement.split line = ["exit now"]) : executeLine line s = .ok true s := by
  have tokens : standardSplitters.line.split "exit now" = .ok ["exit", "now"] := by decide
  have unquoted : standardSplitters.line.unquote "exit" = .ok "exit" := by decide
  have runs : Runs (nestedAt nestingLimit) standardSplitters s (Statement.split line) []
      (.ok true) s := only ▸ .left (.left tokens unquoted (by decide))
  exact runs.executeLine_eq hs

theorem exists_took_exit (built : b.splitters = some standardSplitters)
    (asks : ∀ view, ∃ prompt, b.prompter view = .ok prompt) {line : String}
    (only : Statement.split line = ["exit now"]) (rest : List String) :
    ∃ t, Took (.typing (line :: rest) "" false) standardSplitters b [⟨line, []⟩] .exit t := by
  obtain ⟨prompt, asked⟩ := asks (handed b).view
  let last := reading false prompt line (handed b)
  have exit : executeLine line last = .ok true last := executeLine_exit (s := last) built only
  exact ⟨last, .went rfl (.left asked exit (List.append_nil _).symm)⟩

/-- Every way out of a loop saves the history and releases the editor. What ends the loop is the
last thing that is read or run. The file then holds the newest of the records found, the lines read,
and the lines that handlers put into the history, each of these after the line it was run by; there
are none of them unless a handler did so. What is returned or raised tells the ends apart: the end
of input counts as one only where a line is asked for, a keyboard interrupt wherever it comes
from. -/
theorem loop_saves (accepts : Accepts splitters s) (fresh : s.history.entries = [])
    {found : Option (List String)} (readable : s.history.readRecords s.files = .ok found)
    (can : s.CanSave) (script : EditorScript) :
    (∃ turns stop t, Took script splitters (after begin s) turns stop t) ∧
      ∀ turns stop t, Took script splitters (after begin s) turns stop t →
        let result := returned (loop script) s
        let left := after (loop script) s
        left.editor.released = true ∧
        left.files.read s.history.path = .ok (Utf8.encode (String.join ((newest s.history.limit
          (found.getD [] ++ History.recorded (Turn.entered turns))).map (· ++ "\n")))) ∧
        left.appended = s.appended ++ turns.flatMap Turn.appended ∧
        (left.appended = s.appended → Turn.entered turns = turns.map Turn.line) ∧
        (result = .ok .cancelled ↔ stop = .exit) ∧
        (result = .ok .endOfInput ↔
          ∃ e, e.isEndOfInput ∧ (stop = .prompter e ∨ stop = .reader e)) ∧
        (result = .ok .interrupted ↔ ∃ m, stop.raised = some (.interrupt (.keyboard m))) ∧
        (∀ e, result = .error e ↔
          stop.raised = some e ∧ result ≠ .ok .endOfInput ∧ result ≠ .ok .interrupted) ∧
        ∃ failed unread, script.reads = turns.map (.ok ∘ Turn.line) ++ failed ++ unread ∧
          (failed = [] ∨ ∃ e, stop = .reader e ∧ failed = [.error e]) ∧
          left.editor.reads = s.editor.reads + (turns.length + failed.length) := by
  have bounded : s.history.entries.length ≤ s.history.limit := by simp [fresh]
  obtain ⟨b, begun, loaded⟩ := exists_begin accepts bounded readable
  have built : b.splitters = some splitters := loaded.splitters
  rw [after_of_ok begun]
  obtain ⟨quotes, hquotes⟩ := accepts.sound
  refine ⟨exists_took hquotes script built, fun turns stop t took => ?_⟩
  obtain ⟨left, hloop, finished⟩ := took.exists_finished accepts.sound can begun loaded
  obtain ⟨hresult, hleft⟩ := returned_of_eq hloop
  rw [hresult, hleft]
  refine ⟨?_, ?_, finished.appended, fun same => ?_, Stop.outcome_eq_cancelled,
    Stop.outcome_eq_endOfInput, Stop.outcome_eq_interrupted, fun e => Stop.outcome_eq_error, ?_⟩
  · rw [finished.editor]
  · have hsaved := finished.saved
    rw [History.content, History.filled, fresh, List.append_nil] at hsaved
    exact hsaved
  · have added := finished.appended
    rw [same] at added
    exact Turn.entered_of_flatMap_eq_nil (List.self_eq_append_right.mp added)
  · obtain ⟨failed, unread, hreads, hfailed, hcount⟩ := took.reads_eq built
    refine ⟨failed, unread, hreads, hfailed, ?_⟩
    have hbegun : b.editor = s.editor := loaded.editor
    rw [finished.editor, ← hbegun]
    exact hcount

/-- A session that knows a command which puts a line into the history. -/
def keepingWith (limit : Nat) (pos : 0 < limit) (content : String) : Session Unit :=
  let keep : Command Unit := .bundled ⟨"", [], List.nodup_nil⟩ fun _ =>
    .append "kept" (.finish .nothing)
  let s := readyWith limit pos content
  { s with commands := s.commands.insert "keep" keep }

section
variable (limit : Nat) (pos : 0 < limit) (content : String)

theorem history_keepingWith :
    (keepingWith limit pos content).history = (readyWith limit pos content).history := rfl

theorem files_keepingWith :
    (keepingWith limit pos content).files = (readyWith limit pos content).files := rfl

theorem accepts_keepingWith : Accepts standardSplitters (keepingWith limit pos content) where
  sound := ⟨_, buildSplitters_defaultQuotes⟩
  built := .inl rfl

theorem canSave_keepingWith : (keepingWith limit pos content).CanSave where
  writable := files_keepingWith limit pos content ▸ (canSave_readyWith limit pos content).writable
  log _ h := by cases h
  apart _ h := by cases h

theorem readRecords_keepingWith :
    (keepingWith limit pos content).history.readRecords (keepingWith limit pos content).files =
      .ok (some (History.recordsOf content)) := by
  rw [history_keepingWith, files_keepingWith, readRecords_readyWith]

end

section
variable {limit : Nat} {pos : 0 < limit} {content : String} {b : Session Unit}

theorem exists_executeLine_keep (hs : s.splitters = some standardSplitters)
    {signature : Signature} {handler : Handler δ}
    (known : s.commands.lookup "keep" = .ok ("keep", ⟨signature, handler⟩))
    (appends : ∀ arguments, handler.run arguments = .append "kept" (.finish .nothing)) :
    ∃ t, executeLine "keep" s = .ok false t ∧ t.appended = s.appended ++ ["kept"] ∧
      t.splitters = some standardSplitters ∧ t.prompter = s.prompter := by
  have whole : Statement.split "keep" = ["keep"] := by decide
  have tokens : standardSplitters.line.split "keep" = .ok ["keep"] := by decide
  have unquoted : standardSplitters.line.unquote "keep" = .ok "keep" := by decide
  let c : Call δ := ⟨"keep", ⟨signature, handler⟩, .empty⟩
  have calls : Calls standardSplitters s "keep" c :=
    .intro tokens unquoted (by decide) known (by simp)
  obtain ⟨t, run, adds, keeps, asks⟩ : ∃ t : Session δ,
      c.answer (nestedAt nestingLimit) (c.start s) = .ok .nothing t ∧
        t.appended = s.appended ++ ["kept"] ∧ t.splitters = s.splitters ∧
        t.prompter = s.prompter := by
    refine ⟨after (appendLine "kept") (c.start s), ?_, rfl, rfl, rfl⟩
    rw [Call.answer, appends]
    rfl
  have runs : Runs (nestedAt nestingLimit) standardSplitters s (Statement.split "keep") []
      (.ok false) t := whole ▸ .passed (.finished calls run rfl) (.done _)
  exact ⟨t, runs.executeLine_eq hs, adds, keeps.trans hs, asks⟩

theorem exists_took_keep
    (loaded : Reports (primed standardSplitters (History.recordsOf content)
      (keepingWith limit pos content)) b) (rest : List String) (turns : List Turn) (stop : Stop)
    (others : ∀ t : Session Unit, t.splitters = some standardSplitters →
      t.prompter = standardPrompt → ∃ u, Course (.typing ("keep" :: rest) "" false)
        standardSplitters t (rest.map .ok) turns stop u) :
    ∃ u, Took (.typing ("keep" :: rest) "" false) standardSplitters b
      (⟨"keep", ["kept"]⟩ :: turns) stop u := by
  have prompter : (handed b).prompter = standardPrompt := loaded.prompter
  have asked : (handed b).prompter (handed b).view = .ok ((handed b).view.name ++ "> ") := by
    rw [prompter]
    rfl
  let first := reading false ((handed b).view.name ++ "> ") "keep" (handed b)
  have known : first.commands.lookup "keep" = (keepingWith limit pos content).commands.lookup
    "keep" := congrArg (Registry.lookup · "keep") loaded.commands
  obtain ⟨t, run, adds, built, ht⟩ :=
    exists_executeLine_keep (s := first) loaded.splitters known fun _ => rfl
  obtain ⟨u, course⟩ := others t built (ht.trans prompter)
  exact ⟨u, .went rfl (.went asked run adds course)⟩

end

theorem loop_saves_exit :
    let s := keepingWith 4 (by decide) "one\n\ntwo\n"
    let script := EditorScript.typing ["keep", "; exit now", "never"] "" false
    let left := after (loop script) s
    s.CanSave ∧ s.history.readRecords s.files = .ok (some ["one", "two"]) ∧
      returned (loop script) s = .ok .cancelled ∧ left.editor.released = true ∧
      left.editor.reads = 2 ∧ left.appended = ["kept"] ∧
      left.files.read "/history" = .ok (Utf8.encode "two\nkeep\nkept\n; exit now\n") := by
  intro s script left
  have accepts : Accepts standardSplitters s := accepts_keepingWith ..
  have readable : s.history.readRecords s.files = .ok (some ["one", "two"]) :=
    readRecords_keepingWith 4 (by decide) "one\n\ntwo\n"
  have can : s.CanSave := canSave_keepingWith ..
  obtain ⟨b, begun, loaded⟩ := exists_begin accepts (Nat.zero_le _) readable
  have only : Statement.split "; exit now" = ["exit now"] := by decide
  obtain ⟨t, took⟩ := exists_took_keep loaded ["; exit now", "never"] [⟨"; exit now", []⟩] .exit
    fun t built prompter => by
      have asked : t.prompter t.view = .ok (t.view.name ++ "> ") := by rw [prompter]; rfl
      have exit := executeLine_exit (s := reading false (t.view.name ++ "> ") "; exit now" t)
        built only
      exact ⟨_, .left asked exit (List.append_nil _).symm⟩
  obtain ⟨-, all⟩ := loop_saves accepts rfl readable can script
  rw [after_of_ok begun] at all
  obtain ⟨released, file, added, -, hexit, -, -, -, failed, unread, -, hfailed, reads⟩ :=
    all _ _ _ took
  obtain rfl : failed = [] := hfailed.resolve_right (by simp)
  exact ⟨can, readable, hexit.mpr rfl, released, reads, added, file⟩

/-- A line that a handler adds is in the file, and a line with a line break in it takes two. -/
theorem loop_saves_added :
    let s := keepingWith 4 (by decide) "one\n"
    let script := EditorScript.typing ["keep", ";\n;"] "" false
    let left := after (loop script) s
    s.CanSave ∧ s.history.readRecords s.files = .ok (some ["one"]) ∧
      returned (loop script) s = .ok .endOfInput ∧
      left.history.entries = ["one", "keep", "kept", ";\n;"] ∧
      left.files.read "/history" = .ok (Utf8.encode "one\nkeep\nkept\n;\n;\n") ∧
      History.recordsOf "one\nkeep\nkept\n;\n;\n" = ["one", "keep", "kept", ";", ";"] := by
  intro s script left
  have accepts : Accepts standardSplitters s := accepts_keepingWith ..
  have readable : s.history.readRecords s.files = .ok (some ["one"]) :=
    readRecords_keepingWith 4 (by decide) "one\n"
  have can : s.CanSave := canSave_keepingWith ..
  obtain ⟨b, begun, loaded⟩ := exists_begin accepts (Nat.zero_le _) readable
  obtain ⟨t, took⟩ := exists_took_keep loaded [";\n;"] [⟨";\n;", []⟩]
    (.reader (.fault (.endOfInput ""))) fun t built prompter => by
      have asked (u : Session Unit) (h : u.prompter = t.prompter) :
          u.prompter u.view = .ok (u.view.name ++ "> ") := by rw [h, prompter]; rfl
      let next := reading false (t.view.name ++ "> ") ";\n;" t
      -- there is nothing between the separators, so the line is remembered and does nothing
      have blank : executeLine ";\n;" next = .ok false next :=
        executeLine_of_split_nil (s := next) built (by decide)
      exact ⟨_, .went (asked t rfl) blank (List.append_nil _).symm (.exhausted (asked next rfl))⟩
  obtain ⟨left', hloop, finished⟩ := took.exists_finished accepts.sound can begun loaded
  obtain ⟨hresult, hleft⟩ := returned_of_eq hloop
  have entries : left'.history.entries = ["one", "keep", "kept", ";\n;"] := by
    rw [finished.history]
    decide
  have saved := finished.saved
  rw [← finished.history, History.content, entries] at saved
  rw [show left = left' from hleft]
  exact ⟨can, readable, hresult, entries, saved, by decide⟩

end Session
end CommandShell
