import CommandShell.Proofs.Files.Shape
import CommandShell.Proofs.Session.Stable

/-! What lines leave alone. Whatever its handlers do, a line adds to the history and to the output;
the files it finds it leaves in place, and all but the log with what they hold. -/

namespace CommandShell

namespace Session

variable {δ : Type} {s t u : Session δ}

def LogIsOpen (s : Session δ) : Prop :=
  ∀ log, s.journal.logger.file = some log → ∃ bytes, s.files.read log = .ok bytes

/-- The log, if it is kept in a file at all, is kept in another one than that of a path. -/
def LogsApart (s : Session δ) (path : String) : Prop :=
  ∀ log, s.journal.logger.file = some log → Files.placeOf path ≠ Files.placeOf log

structure Keeps (s t : Session δ) : Prop where
  logger : t.journal.logger = s.journal.logger
  log : s.LogIsOpen → t.LogIsOpen
  shape : s.LogIsOpen → Files.SameShape s.files t.files
  contents : s.LogIsOpen → ∀ path bytes, s.LogsApart path → s.files.read path = .ok bytes →
    t.files.read path = .ok bytes
  output : ∃ more, t.output.written = s.output.written ++ more

namespace Keeps

theorem refl (s : Session δ) : Keeps s s :=
  ⟨rfl, id, fun _ => .refl _, fun _ _ _ _ => id, "", String.append_empty.symm⟩

theorem apart (first : Keeps s t) {path : String} (h : s.LogsApart path) : t.LogsApart path :=
  fun log hlog => h log (first.logger ▸ hlog)

theorem trans (first : Keeps s t) (second : Keeps t u) : Keeps s u where
  logger := second.logger.trans first.logger
  log hopen := second.log (first.log hopen)
  shape hopen := (first.shape hopen).trans (second.shape (first.log hopen))
  contents hopen path bytes hapart hread :=
    second.contents (first.log hopen) path bytes (first.apart hapart)
      (first.contents hopen path bytes hapart hread)
  output := by
    obtain ⟨more, hmore⟩ := first.output
    obtain ⟨most, hmost⟩ := second.output
    exact ⟨more ++ most, by rw [hmost, hmore, String.append_assoc]⟩

theorem of_eq (journal : t.journal = s.journal) (files : t.files = s.files)
    (output : ∃ more, t.output.written = s.output.written ++ more) : Keeps s t where
  logger := by rw [journal]
  log := by rw [LogIsOpen, LogIsOpen, journal, files]; exact id
  shape _ := files ▸ .refl _
  contents _ _ _ _ := by rw [files]; exact id
  output := output

end Keeps

theorem after_modify (f : Session δ → Session δ) (s : Session δ) : after (modify f) s = f s := rfl

theorem files_note_of_none (r : Log.Record) (h : s.journal.logger.file = none) :
    (after (note r) s).files = s.files := by
  simp only [note, after_modify, h]

theorem files_note_of_some (r : Log.Record) {log : String} {old : List UInt8}
    (h : s.journal.logger.file = some log) (hread : s.files.read log = .ok old) :
    s.files.write log (old ++ Text.Utf8.encode (s.journal.logger.inFile s.journal.stamp r)) =
      .ok (after (note r) s).files := by
  obtain ⟨files, happend, hwrite⟩ := Files.append_of_read hread
    (Text.Utf8.encode (s.journal.logger.inFile s.journal.stamp r))
  have hfiles : (after (note r) s).files = files := by
    simp only [note, after_modify, h, happend]
  rw [hfiles, hwrite]

theorem keeps_note (r : Log.Record) : Respects (δ := δ) Keeps (note r) := by
  intro s
  have logger : (after (note r) s).journal.logger = s.journal.logger := rfl
  cases hfile : s.journal.logger.file with
  | none =>
    have hfiles := files_note_of_none r hfile
    refine ⟨logger, fun _ log hlog => ?_, fun _ => hfiles ▸ .refl _, ?_, "",
      String.append_empty.symm⟩
    · rw [logger, hfile] at hlog
      cases hlog
    · intro _ path bytes _
      rw [hfiles]
      exact id
  | some log =>
    have written : s.LogIsOpen → ∃ old bytes, s.files.read log = .ok old ∧
        s.files.write log bytes = .ok (after (note r) s).files := by
      intro hopen
      obtain ⟨old, hread⟩ := hopen log hfile
      exact ⟨old, _, hread, files_note_of_some r hfile hread⟩
    refine ⟨logger, ?_, ?_, ?_, "", String.append_empty.symm⟩
    · intro hopen other hother
      obtain rfl : log = other := by simpa [logger, hfile] using hother
      obtain ⟨old, bytes, -, hwrite⟩ := written hopen
      exact ⟨bytes, Files.read_write hwrite⟩
    · intro hopen
      obtain ⟨old, bytes, hread, hwrite⟩ := written hopen
      exact .of_write hread hwrite
    · intro hopen path bytes hapart hpath
      obtain ⟨old, new, -, hwrite⟩ := written hopen
      exact Files.read_write_of_ne hwrite (hapart log hfile) hpath

theorem keeps_print (line : String) : Respects (δ := δ) Keeps (print line) := fun _ =>
  .of_eq rfl rfl ⟨_, String.append_assoc ..⟩

theorem stable_keeps : Stable (δ := δ) Keeps where
  refl := Keeps.refl
  trans := Keeps.trans
  prepare s := by
    obtain ⟨line, argument, hafter⟩ := exists_after_getSplitters s
    rw [hafter]
    exact .of_eq rfl rfl ⟨"", String.append_empty.symm⟩
  note := keeps_note
  print := keeps_print
  store _ _ := .of_eq rfl rfl ⟨"", String.append_empty.symm⟩
  fold _ _ := .of_eq rfl rfl ⟨"", String.append_empty.symm⟩
  append _ _ := .of_eq rfl rfl ⟨"", String.append_empty.symm⟩
  register _ := .of_eq rfl rfl ⟨"", String.append_empty.symm⟩
  record _ _ := .of_eq rfl rfl ⟨"", String.append_empty.symm⟩

structure Reports (s t : Session δ) : Prop where
  keeps : Keeps s t
  commands : t.commands = s.commands
  history : t.history = s.history
  appended : t.appended = s.appended
  editor : t.editor = s.editor
  splitters : t.splitters = s.splitters
  prompter : t.prompter = s.prompter

namespace Reports

theorem refl (s : Session δ) : Reports s s := ⟨.refl s, rfl, rfl, rfl, rfl, rfl, rfl⟩

theorem trans (first : Reports s t) (second : Reports t u) : Reports s u where
  keeps := first.keeps.trans second.keeps
  commands := second.commands.trans first.commands
  history := second.history.trans first.history
  appended := second.appended.trans first.appended
  editor := second.editor.trans first.editor
  splitters := second.splitters.trans first.splitters
  prompter := second.prompter.trans first.prompter

end Reports

theorem reports_note (r : Log.Record) : Respects (δ := δ) Reports (note r) := fun s =>
  ⟨keeps_note r s, rfl, rfl, rfl, rfl, rfl, rfl⟩

theorem reports_print (line : String) : Respects (δ := δ) Reports (print line) := fun s =>
  ⟨keeps_print line s, rfl, rfl, rfl, rfl, rfl, rfl⟩

structure CanSave (s : Session δ) : Prop where
  writable : s.files.Writable s.history.path
  log : s.LogIsOpen
  apart : s.LogsApart s.history.path

theorem CanSave.of_keeps (can : s.CanSave) (kept : Keeps s t)
    (hpath : t.history.path = s.history.path) : t.CanSave where
  writable := hpath ▸ (kept.shape can.log).writable can.writable
  log := kept.log can.log
  apart := hpath ▸ kept.apart can.apart

structure Apart (s t : Session δ) : Prop where
  history : ∃ more, t.appended = s.appended ++ more ∧
    t.history = more.foldl History.append s.history
  editor : t.editor = s.editor
  prompter : t.prompter = s.prompter

namespace Apart

theorem of_eq (history : t.history = s.history) (appended : t.appended = s.appended)
    (editor : t.editor = s.editor) (prompter : t.prompter = s.prompter) : Apart s t where
  history := ⟨[], by rw [appended, List.append_nil], history⟩
  editor := editor
  prompter := prompter

theorem trans (first : Apart s t) (second : Apart t u) : Apart s u where
  history := by
    obtain ⟨more, happended, hhistory⟩ := first.history
    obtain ⟨others, happended', hhistory'⟩ := second.history
    refine ⟨more ++ others, ?_, ?_⟩
    · rw [happended', happended, List.append_assoc]
    · rw [hhistory', hhistory, List.foldl_append]
  editor := second.editor.trans first.editor
  prompter := second.prompter.trans first.prompter

end Apart

theorem stable_apart : Stable (δ := δ) Apart where
  refl _ := .of_eq rfl rfl rfl rfl
  trans := Apart.trans
  prepare s := by
    obtain ⟨line, argument, hafter⟩ := exists_after_getSplitters s
    rw [hafter]
    exact .of_eq rfl rfl rfl rfl
  note _ _ := .of_eq rfl rfl rfl rfl
  print _ _ := .of_eq rfl rfl rfl rfl
  store _ _ := .of_eq rfl rfl rfl rfl
  fold _ _ := .of_eq rfl rfl rfl rfl
  append line _ := ⟨⟨[line], rfl, rfl⟩, rfl, rfl⟩
  register _ := .of_eq rfl rfl rfl rfl
  record _ _ := .of_eq rfl rfl rfl rfl

end Session
end CommandShell
