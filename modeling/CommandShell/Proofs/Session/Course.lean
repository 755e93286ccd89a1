import CommandShell.Proofs.History.RoundTrip
import CommandShell.Proofs.Session.Kept
import CommandShell.Proofs.Session.Reporting
import CommandShell.Session.Loop

/-! The course of a loop: the lines it reads and what brings it to an end. Reading goes on as long
as there is a prompt, a line, and nothing in the line that ends the session; every line that is read
is remembered before it is executed, and what its handlers put into the history comes after it. -/

namespace CommandShell

inductive Stop
  | setUp (e : Raised)
  | prompter (e : Raised)
  | reader (e : Raised)
  | handler (e : Raised)
  | exit
  deriving DecidableEq

namespace Stop

def raised : Stop → Option Raised
  | setUp e | prompter e | reader e | handler e => some e
  | exit => none

/-- The end of input is an end of the loop where a line is asked for, and only there. -/
def whenAsking (e : Raised) : Except Raised SessionExit :=
  if e.isEndOfInput then .ok .endOfInput else .error e

def result : Stop → Except Raised SessionExit
  | setUp e | handler e => .error e
  | prompter e | reader e => whenAsking e
  | exit => .ok .cancelled

/-- How the loop ends: a keyboard interrupt is an end like others. -/
def outcome (stop : Stop) : Except Raised SessionExit :=
  match stop.result with
  | .error (.interrupt (.keyboard _)) => .ok .interrupted
  | result => result

end Stop

/-- A line that was read, with the lines that handlers put into the history while it was executed. -/
structure Turn where
  line : String
  appended : List String

def Turn.entered (turns : List Turn) : List String := turns.flatMap fun t => t.line :: t.appended

theorem Turn.entered_of_flatMap_eq_nil {turns : List Turn}
    (nothing : turns.flatMap Turn.appended = []) : entered turns = turns.map Turn.line := by
  rw [entered, List.map_eq_flatMap]
  refine List.flatMap_congr fun t ht => ?_
  rw [List.flatMap_eq_nil_iff.mp nothing t ht]

namespace Session

variable {δ : Type}

/-- A session that has shown a prompt and waits for a line. `reads` counts the line. -/
def awaiting (showsPrompts : Bool) (prompt : String) (reads : Nat) (s : Session δ) : Session δ :=
  { s with
    editor := { s.editor with
      prompts := s.editor.prompts ++ [prompt], reads := s.editor.reads + reads }
    output := if showsPrompts then s.output.write prompt else s.output }

def reading (showsPrompts : Bool) (prompt line : String) (s : Session δ) : Session δ :=
  { awaiting showsPrompts prompt 1 s with history := s.history.append line }

inductive Course (script : EditorScript) (splitters : Splitters) : Session δ →
    List (Except Raised String) → List Turn → Stop → Session δ → Prop
  | unprompted {s : Session δ} {events : List (Except Raised String)} {e : Raised}
      (asked : s.prompter s.view = .error e) : Course script splitters s events [] (.prompter e) s
  | broken {s : Session δ} {rest : List (Except Raised String)} {prompt : String} {e : Raised}
      (asked : s.prompter s.view = .ok prompt) :
      Course script splitters s (.error e :: rest) [] (.reader e)
        (awaiting script.showsPrompts prompt 1 s)
  | exhausted {s : Session δ} {prompt : String} (asked : s.prompter s.view = .ok prompt) :
      Course script splitters s [] [] (.reader script.afterwards)
        (awaiting script.showsPrompts prompt 0 s)
  | left {s t : Session δ} {rest : List (Except Raised String)} {prompt line : String}
      {appended : List String} (asked : s.prompter s.view = .ok prompt)
      (run : executeLine line (reading script.showsPrompts prompt line s) = .ok true t)
      (adds : t.appended = s.appended ++ appended) :
      Course script splitters s (.ok line :: rest) [⟨line, appended⟩] .exit t
  | escaped {s t : Session δ} {rest : List (Except Raised String)} {prompt line : String}
      {appended : List String} {failures : List ShellError} {e : Raised}
      (asked : s.prompter s.view = .ok prompt)
      (runs : Runs (nestedAt nestingLimit) splitters (reading script.showsPrompts prompt line s)
        (Statement.split line) failures (.error e) t)
      (adds : t.appended = s.appended ++ appended) :
      Course script splitters s (.ok line :: rest) [⟨line, appended⟩] (.handler e) t
  | went {s t u : Session δ} {rest : List (Except Raised String)} {prompt line : String}
      {appended : List String} {turns : List Turn} {stop : Stop}
      (asked : s.prompter s.view = .ok prompt)
      (run : executeLine line (reading script.showsPrompts prompt line s) = .ok false t)
      (adds : t.appended = s.appended ++ appended)
      (others : Course script splitters t rest turns stop u) :
      Course script splitters s (.ok line :: rest) (⟨line, appended⟩ :: turns) stop u

variable {script : EditorScript} {splitters : Splitters} {s t : Session δ} {line : String}
  {events : List (Except Raised String)} {turns : List Turn} {stop : Stop}

theorem Runs.executeLine_eq {failures : List ShellError} {result : Except Raised Bool}
    (runs : Runs (nestedAt nestingLimit) splitters s (Statement.split line) failures result t)
    (built : s.splitters = some splitters) :
    executeLine line s = ofExcept result t := runs.executeAt_eq built

theorem Runs.after_executeLine {failures : List ShellError} {result : Except Raised Bool}
    (runs : Runs (nestedAt nestingLimit) splitters s (Statement.split line) failures result t)
    (built : s.splitters = some splitters) :
    after (executeLine line) s = t := by
  rw [after, runs.executeLine_eq built]
  cases result <;> rfl

theorem splitters_of_executeLine {ended : Bool} (run : executeLine line s = .ok ended t)
    (built : s.splitters = some splitters) : t.splitters = some splitters := by
  have kept := (stable_splitters splitters).executeAt nestingLimit line s built
  have hafter : after (executeAt nestingLimit line) s = t := after_of_ok run
  rwa [hafter] at kept

theorem apart_executeLine (line : String) (s : Session δ) :
    Apart s (after (executeLine line) s) := stable_apart.executeAt nestingLimit line s

theorem exists_adds {showsPrompts : Bool} {prompt : String}
    (left : after (executeLine line) (reading showsPrompts prompt line s) = t) :
    ∃ appended, t.appended = s.appended ++ appended := by
  obtain ⟨more, happended, -⟩ :=
    (apart_executeLine line (reading showsPrompts prompt line s)).history
  exact ⟨more, left ▸ happended⟩

/-- Every loop that is set up takes a course. -/
theorem exists_course {quotes : List String} (hquotes : buildSplitters quotes = .ok splitters)
    (script : EditorScript) (built : s.splitters = some splitters)
    (events : List (Except Raised String)) :
    ∃ turns stop t, Course script splitters s events turns stop t := by
  induction events generalizing s with
  | nil =>
    cases asked : s.prompter s.view with
    | error e => exact ⟨_, _, _, .unprompted asked⟩
    | ok prompt => exact ⟨_, _, _, .exhausted asked⟩
  | cons event rest ih =>
    cases asked : s.prompter s.view with
    | error e => exact ⟨_, _, _, .unprompted asked⟩
    | ok prompt =>
      cases event with
      | error e => exact ⟨_, _, _, .broken asked⟩
      | ok line =>
        obtain ⟨failures, result, t, runs⟩ := exists_runs hquotes (nestedAt nestingLimit)
          (reading script.showsPrompts prompt line s) (Statement.split line)
        have run := runs.executeLine_eq built
        obtain ⟨appended, adds⟩ := exists_adds (runs.after_executeLine built)
        cases result with
        | error e => exact ⟨_, _, _, .escaped asked runs adds⟩
        | ok ended =>
          cases ended with
          | true => exact ⟨_, _, _, .left asked run adds⟩
          | false =>
            obtain ⟨turns, stop, u, others⟩ := ih (splitters_of_executeLine run built)
            exact ⟨_, _, _, .went asked run adds others⟩

theorem asking_of_error {x : SessionM δ (Option String)} {e : Raised} (raised : x s = .error e t) :
    tryCatch x (fun e => if e.isEndOfInput then pure none else throw e) s =
      if e.isEndOfInput then .ok none t else .error e t := by
  rw [tryCatch_apply, raised]
  dsimp only
  split <;> rfl

theorem turn_of_unprompted {showsPrompts : Bool} {event : Except Raised String} {reads : Nat}
    {e : Raised} (asked : s.prompter s.view = .error e) :
    turn showsPrompts event reads s = ofExcept ((Stop.whenAsking e).map some) s := by
  have hprompt : prompt showsPrompts s = .error e s := by
    rw [prompt, get_bind_apply, asked]
    rfl
  rw [turn, bind_apply, readLine, asking_of_error (by rw [bind_apply, hprompt]), Stop.whenAsking]
  cases e.isEndOfInput <;> rfl

theorem prompt_of_ok {showsPrompts : Bool} {text : String}
    (asked : s.prompter s.view = .ok text) :
    prompt showsPrompts s = .ok () (awaiting showsPrompts text 0 s) := by
  rw [prompt, get_bind_apply, asked]
  cases showsPrompts <;> rfl

theorem turn_of_broken {showsPrompts : Bool} {reads : Nat} {text : String}
    (asked : s.prompter s.view = .ok text) (e : Raised) :
    turn showsPrompts (.error e) reads s =
      ofExcept ((Stop.whenAsking e).map some) (awaiting showsPrompts text reads s) := by
  have raised : (do
      prompt showsPrompts
      modifyEditor fun t => { t with reads := t.reads + reads }
      some <$> ofExcept (.error e) : SessionM δ (Option String)) s = .error e (awaiting showsPrompts text reads s) := by
    rw [bind_apply, prompt_of_ok asked]
    rfl
  rw [turn, bind_apply, readLine, asking_of_error raised, Stop.whenAsking]
  cases e.isEndOfInput <;> rfl

theorem turn_of_read {showsPrompts : Bool} {text : String}
    (asked : s.prompter s.view = .ok text) (line : String) :
    turn showsPrompts (.ok line) 1 s = (do
      if ← executeLine line then pure (some SessionExit.cancelled) else pure none)
        (reading showsPrompts text line s) := by
  rw [turn, bind_apply, readLine, tryCatch_apply, bind_apply, prompt_of_ok asked]
  rfl

/-- A loop does what its course says. -/
theorem Course.turns_eq (course : Course script splitters s events turns stop t)
    (built : s.splitters = some splitters) :
    Session.turns script events s = ofExcept stop.result t := by
  induction course with
  | @unprompted s events e asked =>
    cases events with
    | nil =>
      rw [Session.turns, bind_apply, turn_of_unprompted asked, Stop.result]
      cases Stop.whenAsking e <;> rfl
    | cons event rest =>
      rw [Session.turns, bind_apply, turn_of_unprompted asked, Stop.result]
      cases Stop.whenAsking e <;> rfl
  | @broken s rest prompt e asked =>
    rw [Session.turns, bind_apply, turn_of_broken asked, Stop.result]
    cases Stop.whenAsking e <;> rfl
  | exhausted asked =>
    rw [Session.turns, bind_apply, turn_of_broken asked, Stop.result]
    cases Stop.whenAsking script.afterwards <;> rfl
  | left asked run adds =>
    rw [Session.turns, bind_apply, turn_of_read asked, bind_apply, run]
    rfl
  | escaped asked runs adds =>
    rw [Session.turns, bind_apply, turn_of_read asked, bind_apply, runs.executeLine_eq built]
    rfl
  | went asked run adds others ih =>
    rw [Session.turns, bind_apply, turn_of_read asked, bind_apply, run]
    exact ih (splitters_of_executeLine run built)

theorem keeps_awaiting (showsPrompts : Bool) (prompt : String) (reads : Nat) (s : Session δ) :
    Keeps s (awaiting showsPrompts prompt reads s) := by
  refine .of_eq rfl rfl ?_
  cases showsPrompts with
  | true => exact ⟨prompt, rfl⟩
  | false => exact ⟨"", String.append_empty.symm⟩

theorem keeps_reading (showsPrompts : Bool) (prompt line : String) (s : Session δ) :
    Keeps s (reading showsPrompts prompt line s) :=
  (keeps_awaiting showsPrompts prompt 1 s).trans
    (.of_eq rfl rfl ⟨"", String.append_empty.symm⟩)

theorem Course.related {R : Session δ → Session δ → Prop} (refl : ∀ s, R s s)
    (trans : ∀ {s t u}, R s t → R t u → R s u)
    (asking : ∀ prompt reads s, R s (awaiting script.showsPrompts prompt reads s))
    (remembering : ∀ prompt line s, R s (reading script.showsPrompts prompt line s))
    (running : ∀ line s, R s (after (executeLine line) s))
    (course : Course script splitters s events turns stop t)
    (built : s.splitters = some splitters) : R s t := by
  induction course with
  | unprompted asked => exact refl _
  | broken asked => exact asking _ _ _
  | exhausted asked => exact asking _ _ _
  | left asked run adds =>
    exact trans (remembering _ _ _) (after_of_ok run ▸ running _ _)
  | escaped asked runs adds =>
    exact trans (remembering _ _ _) (runs.after_executeLine built ▸ running _ _)
  | went asked run adds others ih =>
    have first := trans (remembering _ _ _) (after_of_ok run ▸ running _ _)
    exact trans first (ih (splitters_of_executeLine run built))

theorem Course.keeps (course : Course script splitters s events turns stop t)
    (built : s.splitters = some splitters) : Keeps s t :=
  course.related Keeps.refl Keeps.trans (keeps_awaiting _) (keeps_reading _)
    (fun line => stable_keeps.executeAt nestingLimit line) built

theorem Course.splitters_eq (course : Course script splitters s events turns stop t)
    (built : s.splitters = some splitters) : t.splitters = some splitters := by
  have stable := stable_splitters (δ := δ) splitters
  exact course.related (R := fun s t => s.splitters = some splitters → t.splitters = some splitters)
    stable.refl stable.trans (fun _ _ _ => id) (fun _ _ _ => id) (stable.executeAt nestingLimit)
    built built

theorem Course.prompter_eq (course : Course script splitters s events turns stop t)
    (built : s.splitters = some splitters) : t.prompter = s.prompter :=
  course.related (R := fun s t => t.prompter = s.prompter) (fun _ => rfl)
    (fun first second => second.trans first) (fun _ _ _ => rfl) (fun _ _ _ => rfl)
    (fun line s => (apart_executeLine line s).prompter) built

theorem history_of_adds {showsPrompts : Bool} {prompt : String} {appended : List String}
    (left : after (executeLine line) (reading showsPrompts prompt line s) = t)
    (adds : t.appended = s.appended ++ appended) :
    t.history = (line :: appended).foldl History.append s.history := by
  obtain ⟨more, happended, hhistory⟩ :=
    (apart_executeLine line (reading showsPrompts prompt line s)).history
  rw [left] at happended hhistory
  obtain rfl : appended = more := List.append_cancel_left (adds.symm.trans happended)
  exact hhistory

theorem editor_of_run {showsPrompts : Bool} {prompt : String}
    (left : after (executeLine line) (reading showsPrompts prompt line s) = t) :
    t.editor = (reading showsPrompts prompt line s).editor :=
  left ▸ (apart_executeLine line _).editor

structure Remembers (s : Session δ) (events : List (Except Raised String)) (turns : List Turn)
    (stop : Stop) (t : Session δ) : Prop where
  history : t.history = (Turn.entered turns).foldl History.append s.history
  appended : t.appended = s.appended ++ turns.flatMap Turn.appended
  handed : t.editor.handed = s.editor.handed
  reads : ∃ failed rest, events = turns.map (.ok ∘ Turn.line) ++ failed ++ rest ∧
    (failed = [] ∨ ∃ e, stop = .reader e ∧ failed = [.error e]) ∧
    t.editor.reads = s.editor.reads + (turns.length + failed.length)

theorem Remembers.of_read {showsPrompts : Bool} {prompt : String} {appended : List String}
    (left : after (executeLine line) (reading showsPrompts prompt line s) = t)
    (adds : t.appended = s.appended ++ appended) (rest : List (Except Raised String))
    (stop : Stop) : Remembers s (.ok line :: rest) [⟨line, appended⟩] stop t where
  history := by
    rw [history_of_adds left adds]
    simp [Turn.entered]
  appended := by simpa using adds
  handed := by rw [editor_of_run left]; rfl
  reads := ⟨[], rest, rfl, .inl rfl, by rw [editor_of_run left]; rfl⟩

theorem Course.remembers (course : Course script splitters s events turns stop t)
    (built : s.splitters = some splitters) : Remembers s events turns stop t := by
  induction course with
  | @unprompted s events e asked =>
    exact ⟨rfl, (List.append_nil _).symm, rfl, [], events, rfl, .inl rfl, rfl⟩
  | @broken s rest prompt e asked =>
    exact ⟨rfl, (List.append_nil _).symm, rfl, [.error e], rest, rfl, .inr ⟨e, rfl, rfl⟩, rfl⟩
  | exhausted asked => exact ⟨rfl, (List.append_nil _).symm, rfl, [], [], rfl, .inl rfl, rfl⟩
  | left asked run adds => exact .of_read (after_of_ok run) adds _ _
  | escaped asked runs adds => exact .of_read (runs.after_executeLine built) adds _ _
  | @went s t u rest prompt line appended turns stop asked run adds others ih =>
    have first := Remembers.of_read (after_of_ok run) adds rest stop
    have later := ih (splitters_of_executeLine run built)
    obtain ⟨failed, unread, hevents, hfailed, hreads⟩ := later.reads
    refine ⟨?_, ?_, later.handed.trans first.handed, failed, unread, ?_, hfailed, ?_⟩
    · rw [later.history, history_of_adds (after_of_ok run) adds, ← List.foldl_append]
      rfl
    · rw [later.appended, adds, List.append_assoc]
      rfl
    · rw [hevents]
      rfl
    · rw [hreads, editor_of_run (after_of_ok run), List.length_cons]
      change s.editor.reads + 1 + _ = _
      omega

end Session
end CommandShell
