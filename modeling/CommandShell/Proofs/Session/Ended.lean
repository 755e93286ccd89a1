import CommandShell.Proofs.Session.Course

/-! How a loop begins and ends. It begins by loading the history, which is then handed to the
editor; whatever its course, it ends by saving the history and releasing the editor, and what it
returns or raises depends on nothing but what stopped it. -/

namespace CommandShell.Session

variable {δ α : Type} {splitters : Splitters} {s t u v : Session δ}

/-- What an operation returns or raises, without the state it leaves. -/
def returned (x : SessionM δ α) (s : Session δ) : Except Raised α :=
  match x s with
  | .ok a _ => .ok a
  | .error e _ => .error e

theorem returned_of_eq {x : SessionM δ α} {r : Except Raised α} (h : x s = ofExcept r t) :
    returned x s = r ∧ after x s = t := by
  rw [returned, after, h]
  cases r <;> exact ⟨rfl, rfl⟩

theorem discard_eq (x : SessionM δ α) (s : Session δ) :
    discard x s = match x s with
      | .ok _ t => .ok () t
      | .error e t => .error e t := bind_apply x (fun _ => pure ()) s

structure Accepts (splitters : Splitters) (s : Session δ) : Prop where
  sound : ∃ quotes, buildSplitters quotes = .ok splitters
  built : s.splitters = some splitters ∨ s.Unequipped ∧ buildSplitters s.quotes = .ok splitters

theorem Accepts.getSplitters_eq (accepts : Accepts splitters s) :
    getSplitters s = .ok splitters (s.withSplitters splitters) := by
  rcases accepts.built with h | ⟨h, hquotes⟩
  · rw [withSplitters_eq_self h, getSplitters_of_some h]
  · rw [getSplitters_apply, h.splitters_eq, hquotes]

theorem Accepts.getLineSplitter_eq (accepts : Accepts splitters s) :
    getLineSplitter s = .ok splitters.line (s.withSplitters splitters) := by
  rcases accepts.built with h | ⟨h, hquotes⟩
  · rw [withSplitters_eq_self h, getLineSplitter_of_some h]
  · rw [← h.equipped_eq, getLineSplitter_equipped_none, hquotes]
    rfl

theorem begin_of_accepts (accepts : Accepts splitters s) :
    begin s = (do loadHistory; pure true) (s.withSplitters splitters) := by
  have hprepare : attempt prepare s = .ok (.ok ()) (s.withSplitters splitters) := by
    rw [attempt, prepare, discard_eq, accepts.getSplitters_eq]
  rw [begin, bind_apply, hprepare]

theorem Accepts.executeAt_eq (accepts : Accepts splitters s) (depth : Nat) (line : String) :
    executeAt depth line s = executeAt depth line (s.withSplitters splitters) := by
  rw [Session.executeAt_eq, executeLineWith, bind_apply, bind_apply, accepts.getLineSplitter_eq,
    getLineSplitter_of_some (splitters_withSplitters splitters s)]

theorem Accepts.dispatch_eq (accepts : Accepts splitters s) (nested : Nested δ) (first : String)
    (rest : List String) :
    dispatch nested (first :: rest) s =
      dispatch nested (first :: rest) (s.withSplitters splitters) := by
  rw [dispatch, bind_apply, bind_apply, accepts.getLineSplitter_eq,
    getLineSplitter_of_some (splitters_withSplitters splitters s)]

theorem Accepts.loop_eq (accepts : Accepts splitters s) (script : EditorScript) :
    loop script s = loop script (s.withSplitters splitters) := by
  have ready : Accepts splitters (s.withSplitters splitters) := ⟨accepts.sound, .inl rfl⟩
  rw [loop, bind_apply, bind_apply, begin_of_accepts accepts, begin_of_accepts ready]
  rfl

/-- The state after trouble with the history file was reported. -/
def alerted (doing path : String) (cause : FileFault) (s : Session δ) : Session δ :=
  after (printStyled .yellow ("Error " ++ doing ++ " history file: " ++ cause.message))
    (after (note (.debug sessionChannel [.filled (ShellError.historyFile path cause).message])) s)

theorem loadHistory_eq (s : Session δ) : loadHistory s = match s.history.readRecords s.files with
    | .ok (some records) => .ok () (after (note (.debug historyChannel [.fixed "Loaded ",
        .filled (toString records.length), .fixed " history entries from ",
        .filled s.history.path])) { s with history := s.history.prepend records })
    | .ok none => .ok () (after (note (.debug historyChannel [.fixed "No history file at ",
        .filled s.history.path])) s)
    | .error (.shell (.historyFile path cause)) => .ok () (alerted "reading" path cause s)
    | .error e => .error e s := by
  rw [loadHistory, warnOfHistory, tryCatch_apply, discard_eq, readHistory, get_bind_apply,
    History.load]
  cases h : s.history.readRecords s.files with
  | ok found => cases found <;> rfl
  | error e =>
    cases e with
    | shell e => cases e <;> rfl
    | _ => rfl

theorem readRecords_withSplitters (splitters : Splitters) (s : Session δ) :
    (s.withSplitters splitters).history.readRecords (s.withSplitters splitters).files =
      s.history.readRecords s.files := rfl

/-- A session that has its splitters and into which records are loaded. -/
def primed (splitters : Splitters) (records : List String) (s : Session δ) : Session δ :=
  { s.withSplitters splitters with history := s.history.prepend records }

theorem keeps_primed (splitters : Splitters) (records : List String) (s : Session δ) :
    Keeps s (primed splitters records s) := .of_eq rfl rfl ⟨"", String.append_empty.symm⟩

theorem exists_begin (accepts : Accepts splitters s)
    (bounded : s.history.entries.length ≤ s.history.limit) {found : Option (List String)}
    (readable : s.history.readRecords s.files = .ok found) :
    ∃ b, begin s = .ok true b ∧ Reports (primed splitters (found.getD []) s) b := by
  have hload := loadHistory_eq (s.withSplitters splitters)
  rw [readRecords_withSplitters, readable] at hload
  rw [begin_of_accepts accepts, bind_apply, hload]
  cases found with
  | some records => exact ⟨_, rfl, reports_note _ (primed splitters records s)⟩
  | none =>
    have hnone : s.history.prepend [] = s.history := by
      rw [History.prepend, List.nil_append, newest_eq_self bounded]
    have hprimed : primed splitters [] s = s.withSplitters splitters := by
      rw [primed, hnone]
      rfl
    exact ⟨_, rfl, hprimed ▸ reports_note _ _⟩

theorem saveHistory_eq (s : Session δ) : saveHistory s = match s.history.save s.files with
    | (files, none) => .ok () (after (note (.debug historyChannel [.fixed "Saved ",
        .filled (toString s.history.entries.length), .fixed " history entries to ",
        .filled s.history.path])) { s with files := files })
    | (files, some (.shell (.historyFile path cause))) =>
      .ok () (alerted "writing" path cause { s with files := files })
    | (files, some e) => .error e { s with files := files } := by
  rw [saveHistory, warnOfHistory, tryCatch_apply, writeHistory, get_bind_apply]
  cases h : s.history.save s.files with
  | mk files failure =>
    cases failure with
    | none => rfl
    | some e =>
      cases e with
      | shell e => cases e <;> rfl
      | _ => rfl

theorem ensuring_eq {last : SessionM δ Unit} {x : SessionM δ α} {r : Except Raised α}
    (hx : x s = ofExcept r t) (hlast : last t = .ok () u) : ensuring last x s = ofExcept r u := by
  have hattempt : attempt x s = .ok r t := by
    rw [attempt, hx]
    cases r <;> rfl
  rw [ensuring, bind_apply, hattempt]
  dsimp only
  rw [bind_apply, hlast]

theorem interruptible_eq (stop : Stop) (t : Session δ) :
    ∃ u, interruptible (ofExcept stop.result) t = ofExcept stop.outcome u ∧ Reports t u := by
  rw [interruptible, tryCatch_apply, Stop.outcome]
  cases stop.result with
  | ok exit => exact ⟨t, rfl, .refl t⟩
  | error e =>
    cases e with
    | interrupt i =>
      cases i with
      | keyboard m => exact ⟨_, rfl, (reports_print "" t).trans (reports_note _ _)⟩
      | exit code => exact ⟨t, rfl, .refl t⟩
    | _ => exact ⟨t, rfl, .refl t⟩

def released (s : Session δ) : Session δ := { s with editor := { s.editor with released := true } }

theorem keeps_released (s : Session δ) : Keeps s (released s) :=
  .of_eq rfl rfl ⟨"", String.append_empty.symm⟩

theorem conclude_eq {stop : Stop} (stopped : interruptible (ofExcept stop.result) t =
    ofExcept stop.outcome u) (saved : saveHistory u = .ok () v) :
    ∃ w, conclude stop.result t = ofExcept stop.outcome w ∧
      Reports (released v) w ∧ w.output = v.output := by
  have hrelease : release v = .ok () (released v) := rfl
  rw [conclude, bind_apply, ensuring_eq (ensuring_eq stopped saved) hrelease]
  cases stop.outcome with
  | ok exit => exact ⟨_, rfl, reports_note _ _, rfl⟩
  | error e => exact ⟨_, rfl, .refl _, rfl⟩

def handed (s : Session δ) : Session δ :=
  { s with
    editor := { s.editor with handed := some s.history.entries, completing := s.completion } }

inductive Took (script : EditorScript) (splitters : Splitters) (s : Session δ) :
    List Turn → Stop → Session δ → Prop
  | refused {e : Raised} (setUp : script.setUp = some e) : Took script splitters s [] (.setUp e) s
  | went {turns : List Turn} {stop : Stop} {t : Session δ} (setUp : script.setUp = none)
      (course : Course script splitters (handed s) script.reads turns stop t) :
      Took script splitters s turns stop t

theorem exists_took {quotes : List String} (hquotes : buildSplitters quotes = .ok splitters)
    (script : EditorScript) (built : s.splitters = some splitters) :
    ∃ turns stop t, Took script splitters s turns stop t := by
  cases setUp : script.setUp with
  | some e => exact ⟨_, _, _, .refused setUp⟩
  | none =>
    obtain ⟨turns, stop, t, course⟩ :=
      exists_course hquotes script (s := handed s) built script.reads
    exact ⟨turns, stop, t, .went setUp course⟩

namespace Took

variable {script : EditorScript} {turns : List Turn} {stop : Stop}

theorem interact_eq (took : Took script splitters s turns stop t)
    (built : s.splitters = some splitters) : interact script s = ofExcept stop.result t := by
  cases took with
  | refused setUp =>
    rw [interact, bind_apply, setUpEditor, setUp]
    rfl
  | went setUp course =>
    have hset : setUpEditor script s = .ok () (handed s) := by
      rw [setUpEditor, setUp]
      rfl
    rw [interact, bind_apply, hset]
    exact course.turns_eq built

theorem keeps (took : Took script splitters s turns stop t)
    (built : s.splitters = some splitters) : Keeps s t := by
  cases took with
  | refused setUp => exact .refl s
  | went setUp course =>
    have first : Keeps s (handed s) := .of_eq rfl rfl ⟨"", String.append_empty.symm⟩
    exact first.trans (course.keeps built)

theorem splitters_eq (took : Took script splitters s turns stop t)
    (built : s.splitters = some splitters) : t.splitters = some splitters := by
  cases took with
  | refused setUp => exact built
  | went setUp course => exact course.splitters_eq built

theorem prompter_eq (took : Took script splitters s turns stop t)
    (built : s.splitters = some splitters) : t.prompter = s.prompter := by
  cases took with
  | refused setUp => rfl
  | went setUp course => exact course.prompter_eq built

theorem history_eq (took : Took script splitters s turns stop t)
    (built : s.splitters = some splitters) :
    t.history = (Turn.entered turns).foldl History.append s.history := by
  cases took with
  | refused setUp => rfl
  | went setUp course => exact (course.remembers built).history

theorem appended_eq (took : Took script splitters s turns stop t)
    (built : s.splitters = some splitters) :
    t.appended = s.appended ++ turns.flatMap Turn.appended := by
  cases took with
  | refused setUp => exact (List.append_nil _).symm
  | went setUp course => exact (course.remembers built).appended

theorem handed_eq (took : Took script splitters s turns stop t)
    (built : s.splitters = some splitters) (setUp : script.setUp = none) :
    t.editor.handed = some s.history.entries := by
  cases took with
  | refused refusal => simp [setUp] at refusal
  | went setUp course => exact (course.remembers built).handed

theorem reads_eq (took : Took script splitters s turns stop t)
    (built : s.splitters = some splitters) :
    ∃ failed rest, script.reads = turns.map (.ok ∘ Turn.line) ++ failed ++ rest ∧
      (failed = [] ∨ ∃ e, stop = .reader e ∧ failed = [.error e]) ∧
      t.editor.reads = s.editor.reads + (turns.length + failed.length) := by
  cases took with
  | refused setUp => exact ⟨[], script.reads, rfl, .inl rfl, rfl⟩
  | went setUp course => exact (course.remembers built).reads

theorem exists_loop_eq (took : Took script splitters s turns stop t)
    (built : s.splitters = some splitters) (begun : begin u = .ok true s) :
    ∃ v, Reports t v ∧ ∀ w, saveHistory v = .ok () w →
      ∃ z, loop script u = ofExcept stop.outcome z ∧
        Reports (released w) z ∧ z.output = w.output := by
  obtain ⟨v, stopped, reported⟩ := interruptible_eq stop t
  refine ⟨v, reported, fun w saved => ?_⟩
  have hattempt : attempt (interact script) s = .ok stop.result t := by
    rw [attempt, took.interact_eq built]
    cases stop.result <;> rfl
  obtain ⟨z, heq, rest⟩ := conclude_eq stopped saved
  refine ⟨z, ?_, rest⟩
  rw [loop, bind_apply, begun]
  change (attempt (interact script) >>= conclude) s = _
  rw [bind_apply, hattempt]
  exact heq

end Took

end CommandShell.Session
