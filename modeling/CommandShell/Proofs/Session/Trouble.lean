import CommandShell.Proofs.Session.Saved

/-! Trouble with the history file. A file that cannot be read is reported, and the loop goes on
without it; its lines alone say how it ends. Only a file that is no text is not survived: the loop
is over before a line is asked for. -/

namespace CommandShell

namespace History

variable {h : History}

theorem path_foldl_append (h : History) (lines : List String) :
    (lines.foldl append h).path = h.path := by
  induction lines generalizing h with
  | nil => rfl
  | cons line rest ih =>
    rw [List.foldl_cons, ih, append]
    split <;> rfl

theorem readRecords_cases (fs : Files) (hpath : '\x00' ∉ h.path.toList) :
    (∃ found, h.readRecords fs = .ok found) ∨
      (∃ cause, h.readRecords fs = .error (.shell (.historyFile h.path cause))) ∨
      ∃ e, h.readRecords fs = .error (.fault (.undecodable e)) := by
  unfold readRecords
  cases hread : fs.read h.path with
  | ok bytes =>
    dsimp only
    cases Text.Utf8.decode bytes with
    | ok content => exact .inl ⟨_, rfl⟩
    | error e => exact .inr (.inr ⟨e, rfl⟩)
  | error f =>
    obtain ⟨cause, rfl⟩ := Files.refusal_of_read hpath hread
    cases cause with
    | missing p => exact .inl ⟨none, rfl⟩
    | _ => exact .inr (.inl ⟨_, rfl⟩)

theorem save_cases (fs : Files) (hpath : '\x00' ∉ h.path.toList) :
    ∃ files, h.save fs = (files, none) ∨
    ∃ cause, h.save fs = (files, some (.shell (.historyFile h.path cause))) := by
  unfold save
  cases hwrite : fs.writeBelow h.path (Text.Utf8.encode h.content) with
  | mk files failure =>
    cases failure with
    | none => exact ⟨files, .inl rfl⟩
    | some f =>
      obtain ⟨cause, rfl⟩ := Files.refusal_of_writeBelow hpath (by rw [hwrite])
      exact ⟨files, .inr ⟨cause, rfl⟩⟩

end History

namespace Session
open Text

variable {δ : Type} {splitters : Splitters} {s t u v b : Session δ}

/-- A statement whose first word, once unquoted, ends the session. -/
def leavesAt (sp : Splitter) (statement : String) : Bool :=
  match sp.split statement with
  | .ok (first :: _) =>
    match sp.unquote first with
    | .ok word => isReserved word
    | .error _ => false
  | _ => false

/-- A line with a statement that ends the session. -/
def leaves (sp : Splitter) (line : String) : Bool := (Statement.split line).any (leavesAt sp)

theorem leavesAt_of_ends {nested : Nested δ} {statement : String} {ending : Ending}
    (built : s.splitters = some splitters) (h : Ends nested splitters s statement ending t) :
    leavesAt splitters.line statement = true ↔ ending = .left := by
  constructor
  · intro leaving
    unfold leavesAt at leaving
    split at leaving
    · next first rest tokens =>
      split at leaving
      · next word unquoted =>
        have left : Ends nested splitters s statement .left s := .left tokens unquoted leaving
        exact (left.unique built h).1
      · cases leaving
    · cases leaving
  · rintro rfl
    cases h with
    | left tokens unquoted reserved => simp only [leavesAt, tokens, unquoted, reserved]
    | untold calls run becomes => exact absurd becomes.symm (Ending.ofRaised_ne_left _)

theorem stays_of_ends {nested : Nested δ} {statement : String} {ending : Ending}
    (built : s.splitters = some splitters) (h : Ends nested splitters s statement ending t)
    (stays : ending ≠ .left) : leavesAt splitters.line statement = false := by
  rw [← Bool.not_eq_true, leavesAt_of_ends built h]
  exact stays

theorem Runs.leaves_eq {depth : Nat} {statements : List String} {failures : List ShellError}
    {result : Except Raised Bool} (built : s.splitters = some splitters)
    (h : Runs (nestedAt depth) splitters s statements failures result t) {ended : Bool}
    (hresult : result = .ok ended) : ended = statements.any (leavesAt splitters.line) := by
  induction h with
  | done s =>
    cases hresult
    rfl
  | passed first others ih =>
    rw [List.any_cons, ih (first.splitters_eq built) hresult, stays_of_ends built first (by simp),
      Bool.false_or]
  | failed first others ih =>
    have kept := first.splitters_eq built
    rw [List.any_cons, ih kept hresult, stays_of_ends built first (by simp), Bool.false_or]
  | left first =>
    cases hresult
    rw [List.any_cons, (leavesAt_of_ends built first).mpr rfl, Bool.true_or]
  | escaped first => cases hresult

theorem leaves_of_executeLine {quotes : List String}
    (hquotes : buildSplitters quotes = .ok splitters) {line : String} {ended : Bool}
    (run : executeLine line s = .ok ended t) (built : s.splitters = some splitters) :
    leaves splitters.line line = ended := by
  obtain ⟨failures, result, u, runs⟩ :=
    exists_runs hquotes (nestedAt nestingLimit) s (Statement.split line)
  rw [runs.executeLine_eq built] at run
  cases result with
  | error e => cases run
  | ok ended' =>
    cases run
    exact (runs.leaves_eq built rfl).symm

theorem Course.typed {quotes : List String} (hquotes : buildSplitters quotes = .ok splitters)
    {script : EditorScript} {events : List (Except Raised String)} {turns : List Turn}
    {stop : Stop} (course : Course script splitters s events turns stop t)
    (built : s.splitters = some splitters) {lines : List String} (typed : events = lines.map .ok) :
    (∃ e, stop = .prompter e) ∨ (∃ e, stop = .handler e) ∨
      turns.map Turn.line = lines.takeWhile (!leaves splitters.line ·) ++
        (lines.find? (leaves splitters.line)).toList ∧
      stop = if lines.any (leaves splitters.line) then .exit else .reader script.afterwards := by
  induction course generalizing lines with
  | unprompted asked => exact .inl ⟨_, rfl⟩
  | broken asked => cases lines <;> cases typed
  | exhausted asked =>
    obtain rfl : lines = [] := by simpa [eq_comm] using typed
    exact .inr (.inr ⟨rfl, rfl⟩)
  | left asked run adds =>
    obtain ⟨line', rest', rfl, hline, -⟩ := List.map_eq_cons_iff.mp typed.symm
    cases hline
    have hleaves := leaves_of_executeLine hquotes run built
    exact .inr (.inr ⟨by simp [hleaves], by simp [hleaves]⟩)
  | escaped asked runs adds => exact .inr (.inl ⟨_, rfl⟩)
  | went asked run adds others ih =>
    obtain ⟨line', rest', rfl, hline, hrest⟩ := List.map_eq_cons_iff.mp typed.symm
    cases hline
    have hleaves := leaves_of_executeLine hquotes run built
    have kept := splitters_of_executeLine run built
    refine (ih kept hrest.symm).imp_right (.imp_right ?_)
    rintro ⟨hread, rfl⟩
    exact ⟨by simp [hleaves, hread], by simp [hleaves]⟩

theorem exists_begin_of_path (accepts : Accepts splitters s)
    (hpath : '\x00' ∉ s.history.path.toList)
    (text : ∀ e, s.history.readRecords s.files ≠ .error (.fault (.undecodable e))) :
    ∃ b, begin s = .ok true b ∧ b.splitters = some splitters ∧ b.prompter = s.prompter ∧
      b.history.path = s.history.path ∧
      ∀ path cause, s.history.readRecords s.files = .error (.shell (.historyFile path cause)) →
        b.output = s.output.printLine
          (paint [.yellow] ("Error reading history file: " ++ cause.message)) := by
  have hload := loadHistory_eq (s.withSplitters splitters)
  rw [readRecords_withSplitters] at hload
  have hbegin := begin_of_accepts accepts
  rw [bind_apply] at hbegin
  obtain ⟨found, hfound⟩ | ⟨cause, hcause⟩ | ⟨e, he⟩ :=
    History.readRecords_cases s.files hpath
  · rw [hfound] at hload
    cases found with
    | none =>
      rw [hload] at hbegin
      exact ⟨_, hbegin, rfl, rfl, rfl, fun _ _ h => by simp [hfound] at h⟩
    | some records =>
      rw [hload] at hbegin
      exact ⟨_, hbegin, rfl, rfl, rfl, fun _ _ h => by simp [hfound] at h⟩
  · rw [hcause] at hload
    rw [hload] at hbegin
    refine ⟨_, hbegin, rfl, rfl, rfl, fun path cause' h => ?_⟩
    obtain ⟨-, rfl⟩ : s.history.path = path ∧ cause = cause' := by simpa [hcause] using h
    rfl
  · exact absurd he (text e)

theorem exists_saveHistory_of_path (hpath : '\x00' ∉ s.history.path.toList) :
    ∃ t more, saveHistory s = .ok () t ∧ t.editor = s.editor ∧
      t.output.written = s.output.written ++ more := by
  obtain ⟨files, hsave | ⟨cause, hsave⟩⟩ := History.save_cases s.files hpath
  · have heq := saveHistory_eq s
    rw [hsave] at heq
    exact ⟨_, "", heq, rfl, String.append_empty.symm⟩
  · have heq := saveHistory_eq s
    rw [hsave] at heq
    exact ⟨_, _, heq, rfl, String.append_assoc ..⟩

/-- A loop that begins is not stopped by its history: whether or not it can be written, what stopped
the loop says what is returned or raised. -/
theorem Took.exists_survivor {script : EditorScript} {turns : List Turn} {stop : Stop}
    (took : Took script splitters b turns stop t) (built : b.splitters = some splitters)
    (begun : begin s = .ok true b) (hpath : '\x00' ∉ b.history.path.toList) :
    ∃ left more, loop script s = ofExcept stop.outcome left ∧
      left.editor = { t.editor with released := true } ∧
      left.output.written = b.output.written ++ more := by
  obtain ⟨v, hv, ending⟩ := took.exists_loop_eq built begun
  have hlast : '\x00' ∉ v.history.path.toList := by
    rw [hv.history, took.history_eq built, History.path_foldl_append]
    exact hpath
  obtain ⟨w, said, saved, hw, houtput⟩ := exists_saveHistory_of_path hlast
  obtain ⟨left, hloop, hleft, hlastOutput⟩ := ending w saved
  obtain ⟨more, hmore⟩ := ((took.keeps built).trans hv.keeps).output
  refine ⟨left, more ++ said, hloop, ?_, ?_⟩
  · rw [hleft.editor, released, ← hv.editor, ← hw]
  · rw [hlastOutput, houtput, hmore, String.append_assoc]

theorem loop_of_undecodable (accepts : Accepts splitters s) {e : Utf8.Fault}
    (undecodable : s.history.readRecords s.files = .error (.fault (.undecodable e)))
    (script : EditorScript) :
    loop script s = .error (.fault (.undecodable e)) (s.withSplitters splitters) := by
  have hload := loadHistory_eq (s.withSplitters splitters)
  rw [readRecords_withSplitters] at hload
  rw [undecodable] at hload
  rw [loop, bind_apply, begin_of_accepts accepts, bind_apply, hload]

/-- A bad history file does not end a loop: what is wrong with it is printed, the editor is set up
and released, and the lines alone say how the loop ends, if no prompter or handler ends it. The one
exception is a file that is no text: it ends the loop before the editor is set up. -/
theorem loop_survives (accepts : Accepts splitters s) (hpath : '\x00' ∉ s.history.path.toList)
    (lines : List String) (message : String) (showsPrompts : Bool) :
    let script := EditorScript.typing lines message showsPrompts
    let result := returned (loop script) s
    let left := after (loop script) s
    (∀ e, s.history.readRecords s.files = .error (.fault (.undecodable e)) →
      result = .error (.fault (.undecodable e)) ∧ left.editor = s.editor) ∧
    ((∀ e, s.history.readRecords s.files ≠ .error (.fault (.undecodable e))) →
      (∃ turns stop t, Took script splitters (after begin s) turns stop t) ∧
      ∀ turns stop t, Took script splitters (after begin s) turns stop t →
        left.editor.handed.isSome ∧ left.editor.released = true ∧
        (∀ path cause, s.history.readRecords s.files = .error (.shell (.historyFile path cause)) →
          ∃ more, left.output.written = (s.output.printLine
            (paint [.yellow] ("Error reading history file: " ++ cause.message))).written ++ more) ∧
        result = stop.outcome ∧
        ((∃ e, stop = .prompter e) ∨ (∃ e, stop = .handler e) ∨
          turns.map Turn.line = lines.takeWhile (!leaves splitters.line ·) ++
            (lines.find? (leaves splitters.line)).toList ∧
          result =
            .ok (if lines.any (leaves splitters.line) then .cancelled else .endOfInput))) := by
  intro script result left
  obtain ⟨quotes, hquotes⟩ := accepts.sound
  constructor
  · intro e he
    obtain ⟨hresult, hleft⟩ :=
      returned_of_eq (r := .error (.fault (.undecodable e))) (loop_of_undecodable accepts he script)
    rw [show left = _ from hleft]
    exact ⟨hresult, rfl⟩
  · intro text
    obtain ⟨b, begun, built, -, hpath', reported⟩ := exists_begin_of_path accepts hpath text
    rw [after_of_ok begun]
    refine ⟨exists_took hquotes script built, fun turns stop t took => ?_⟩
    obtain ⟨z, more, hloop, heditor, houtput⟩ :=
      took.exists_survivor built begun (hpath'.symm ▸ hpath)
    obtain ⟨hresult, hleft⟩ := returned_of_eq hloop
    rw [show result = _ from hresult, show left = z from hleft]
    refine ⟨?_, by rw [heditor], ?_, rfl, ?_⟩
    · rw [heditor, took.handed_eq built rfl]
      rfl
    · intro path cause hcause
      exact ⟨more, by rw [houtput, reported path cause hcause]⟩
    · cases took with
      | refused refusal => cases refusal
      | went setUp course =>
        refine (course.typed hquotes built rfl).imp_right (.imp_right ?_)
        rintro ⟨hread, rfl⟩
        refine ⟨hread, ?_⟩
        split <;> rfl

theorem loop_survives_directory :
    let s := { ready with files := Files.empty.put ["history"] .directory }
    let script := EditorScript.typing ["; exit now", "never"] "" false
    let left := after (loop script) s
    s.history.readRecords s.files =
        .error (.shell (.historyFile "/history" (.isDirectory "/history"))) ∧
      returned (loop script) s = .ok .cancelled ∧ left.editor.handed.isSome ∧
      left.editor.released = true ∧ ∃ more, left.output.written =
        "Error reading history file: [Errno 21] Is a directory: '/history'\n" ++ more := by
  intro s script left
  have accepts : Accepts standardSplitters s := ⟨⟨_, buildSplitters_defaultQuotes⟩, .inl rfl⟩
  have hpath : '\x00' ∉ s.history.path.toList := by decide
  have refused : s.history.readRecords s.files =
      .error (.shell (.historyFile "/history" (.isDirectory "/history"))) := by
    have hread : s.files.read "/history" = .error (.file (.isDirectory "/history")) := by decide
    change History.readRecords ⟨"/history", _, _, _⟩ _ = _
    rw [History.readRecords, hread]
  have text : ∀ e, s.history.readRecords s.files ≠ .error (.fault (.undecodable e)) := by
    simp [refused]
  obtain ⟨b, begun, built, hprompter, -⟩ := exists_begin_of_path accepts hpath text
  have asks : ∀ view, ∃ prompt, b.prompter view = .ok prompt :=
    fun view => ⟨_, by rw [hprompter]; rfl⟩
  have only : Statement.split "; exit now" = ["exit now"] := by decide
  obtain ⟨t, took⟩ := exists_took_exit built asks only ["never"]
  obtain ⟨-, all⟩ := (loop_survives accepts hpath ["; exit now", "never"] "" false).2 text
  rw [after_of_ok begun] at all
  obtain ⟨handed, released, reported, result, -⟩ := all _ _ _ took
  have line : (s.output.printLine (paint [.yellow] ("Error reading history file: " ++
      (FileFault.isDirectory "/history").message))).written =
        "Error reading history file: [Errno 21] Is a directory: '/history'\n" := by decide
  obtain ⟨more, hmore⟩ := reported _ _ refused
  rw [line] at hmore
  exact ⟨refused, result, handed, released, more, hmore⟩

/-- A single byte that begins no character ends the loop. -/
theorem loop_survives_undecodable :
    let s := { ready with files := Files.empty.put ["history"] (.file [0xff]) }
    ∃ e, returned (loop (.typing [] "" false)) s = .error (.fault (.undecodable e)) ∧
      (after (loop (.typing [] "" false)) s).editor = .empty := by
  intro s
  have accepts : Accepts standardSplitters s := ⟨⟨_, buildSplitters_defaultQuotes⟩, .inl rfl⟩
  obtain ⟨e, he⟩ : ∃ e, s.history.readRecords s.files = .error (.fault (.undecodable e)) := by
    have hread : s.files.read "/history" = .ok [0xff] := by decide
    change ∃ e, History.readRecords ⟨"/history", _, _, _⟩ _ = _
    rw [History.readRecords, hread]
    exact ⟨_, rfl⟩
  have hloop := loop_of_undecodable accepts he (.typing [] "" false)
  obtain ⟨hresult, hleft⟩ := returned_of_eq (r := .error (.fault (.undecodable e))) hloop
  rw [hleft]
  exact ⟨e, hresult, rfl⟩

end Session
end CommandShell
