import CommandShell.Proofs.Session.Dispatch
import CommandShell.Proofs.Session.Operation
import CommandShell.Proofs.Session.Saved

/-! Building the splitters. They are built together when first needed, from quotes that nothing ever
changes; so whether they can be built is decided for good before anything is run. If they cannot,
everything that needs them fails alike and leaves the session as it is; if they can, everything goes
as if they had always been there. -/

namespace CommandShell.Session
open Splitter

variable {δ : Type} {splitters : Splitters} {s t : Session δ} {m : String}

theorem buildSplitters_eq_ok {quotes : List String} :
    buildSplitters quotes = .ok splitters ↔
      forLine quotes = .ok splitters.line ∧ forArgument quotes = .ok splitters.argument := by
  refine ⟨forLine_forArgument_of_build, fun ⟨hline, hargument⟩ => ?_⟩
  simp only [buildSplitters, hline, hargument]

/-- The message says which splitter cannot be built; it is about the quotes and nothing else. -/
theorem exists_buildSplitters_eq_error {quotes : List String}
    (fails : (∃ e, forLine quotes = .error e) ∨ ∃ e, forArgument quotes = .error e) :
    ∃ m, buildSplitters quotes = .error (.initialization m) := by
  unfold buildSplitters
  cases hline : forLine quotes with
  | error e => exact ⟨_, rfl⟩
  | ok line =>
    cases hargument : forArgument quotes with
    | error e => exact ⟨_, rfl⟩
    | ok argument => simp [hline, hargument] at fails

structure PreparesFrom (s t : Session δ) : Prop where
  quotes : t.quotes = s.quotes
  splitters : t.lineSplitter = s.lineSplitter ∧ t.argumentSplitter = s.argumentSplitter ∨
    s.splitters = none ∧
      ∃ splitters, t.splitters = some splitters ∧ buildSplitters s.quotes = .ok splitters

namespace PreparesFrom

theorem of_eq (quotes : t.quotes = s.quotes) (line : t.lineSplitter = s.lineSplitter)
    (argument : t.argumentSplitter = s.argumentSplitter) : PreparesFrom s t :=
  ⟨quotes, .inl ⟨line, argument⟩⟩

theorem splitters_eq_of_eq (line : t.lineSplitter = s.lineSplitter)
    (argument : t.argumentSplitter = s.argumentSplitter) : t.splitters = s.splitters := by
  rw [Session.splitters, line, argument, Session.splitters]

theorem splitters_eq_some (prepares : PreparesFrom s t) (built : s.splitters = some splitters) :
    t.splitters = some splitters := by
  rcases prepares.splitters with ⟨line, argument⟩ | ⟨missing, -⟩
  · exact (splitters_eq_of_eq line argument).trans built
  · rw [built] at missing
    cases missing

theorem trans {u : Session δ} (first : PreparesFrom s t) (second : PreparesFrom t u) :
    PreparesFrom s u where
  quotes := second.quotes.trans first.quotes
  splitters := by
    rcases first.splitters with ⟨line, argument⟩ | ⟨unset, splitters, built, hquotes⟩
    · have hsecond := second.splitters
      rwa [line, argument, splitters_eq_of_eq line argument, first.quotes] at hsecond
    · exact .inr ⟨unset, splitters, second.splitters_eq_some built, hquotes⟩

end PreparesFrom

theorem preparesFrom_getSplitters : Respects (δ := δ) PreparesFrom getSplitters := by
  intro s
  rw [after, getSplitters_apply]
  cases unset : s.splitters with
  | some splitters => exact .of_eq rfl rfl rfl
  | none =>
    cases hquotes : buildSplitters s.quotes with
    | error e => exact .of_eq rfl rfl rfl
    | ok splitters => exact ⟨rfl, .inr ⟨unset, splitters, rfl, hquotes⟩⟩

theorem steady_preparesFrom : Steady (δ := δ) PreparesFrom where
  refl _ := .of_eq rfl rfl rfl
  trans := PreparesFrom.trans
  prepare := preparesFrom_getSplitters
  note _ _ := .of_eq rfl rfl rfl
  print _ _ := .of_eq rfl rfl rfl
  store _ _ := .of_eq rfl rfl rfl
  fold _ _ := .of_eq rfl rfl rfl
  append _ _ := .of_eq rfl rfl rfl
  register _ := .of_eq rfl rfl rfl
  record _ _ := .of_eq rfl rfl rfl
  history _ _ := .of_eq rfl rfl rfl
  files _ _ := .of_eq rfl rfl rfl
  output _ _ := .of_eq rfl rfl rfl
  editor _ _ := .of_eq rfl rfl rfl

structure Unbuildable (m : String) (s : Session δ) : Prop where
  unset : s.Unequipped
  fails : buildSplitters s.quotes = .error (.initialization m)

namespace Unbuildable

theorem getSplitters_eq (h : Unbuildable m s) :
    getSplitters s = .error (.shell (.initialization m)) s := by
  rw [getSplitters_apply, h.unset.splitters_eq]
  simp only [h.fails]

theorem getLineSplitter_eq (h : Unbuildable m s) :
    getLineSplitter s = .error (.shell (.initialization m)) s := by
  have asked := getLineSplitter_equipped_none s
  rwa [h.unset.equipped_eq, h.fails] at asked

theorem prepare_eq (h : Unbuildable m s) :
    prepare s = .error (.shell (.initialization m)) s := by
  rw [prepare, discard_eq, h.getSplitters_eq]

theorem executeAt_eq (h : Unbuildable m s) (depth : Nat) (line : String) :
    executeAt depth line s = .error (.shell (.initialization m)) s := by
  rw [Session.executeAt_eq, executeLineWith, bind_apply, h.getLineSplitter_eq]

theorem dispatch_eq (h : Unbuildable m s) (nested : Nested δ) (first : String)
    (rest : List String) :
    dispatch nested (first :: rest) s = .error (.shell (.initialization m)) s := by
  rw [dispatch, bind_apply, h.getLineSplitter_eq]

theorem of_prepares (h : Unbuildable m s) (prepares : PreparesFrom s t) : Unbuildable m t where
  unset := by
    rcases prepares.splitters with ⟨line, argument⟩ | ⟨-, splitters, -, built⟩
    · exact ⟨line.trans h.unset.1, argument.trans h.unset.2⟩
    · rw [h.fails] at built
      cases built
  fails := by rw [prepares.quotes, h.fails]

theorem exists_loop_eq (h : Unbuildable m s) (script : EditorScript) :
    ∃ t, loop script s = .ok .notPrepared t ∧
      LoggedOnly (showing (s.output.printLine (Text.paint [.red] ("Error initializing cli: " ++ m)))
        s.invocations s) t := by
  have hattempt : attempt prepare s = .ok (.error (.shell (.initialization m))) s := by
    rw [attempt, h.prepare_eq]
  have logged := (loggedOnly_note (.debug sessionChannel [.filled m]) s).showing
    (s.output.printLine (Text.paint [.red] ("Error initializing cli: " ++ m))) s.invocations
  refine ⟨_, ?_, logged⟩
  rw [loop, bind_apply, begin, bind_apply, hattempt]
  rfl

end Unbuildable

theorem ensuring_of_error {α : Type} {last : SessionM δ Unit} {x : SessionM δ α} {u : Session δ}
    {r : Except Raised α} {e : Raised} (hx : x s = ofExcept r t) (hlast : last t = .error e u) :
    ensuring last x s = .error e u := by
  have hattempt : attempt x s = .ok r t := by
    rw [attempt, hx]
    cases r <;> rfl
  rw [ensuring, bind_apply, hattempt]
  dsimp only
  rw [bind_apply, hlast]

theorem conclude_ne_notPrepared (stop : Stop) (u : Session δ) :
    conclude stop.result t ≠ .ok .notPrepared u := by
  obtain ⟨v, stopped, -⟩ := interruptible_eq stop t
  cases saved : saveHistory v with
  | ok _ w =>
    obtain ⟨z, heq, -⟩ := conclude_eq stopped saved
    rw [heq]
    rw [stop.outcome_eq]
    split <;> (intro h; cases h)
  | error e w =>
    have hsave : ensuring saveHistory (interruptible (ofExcept stop.result)) t =
        ofExcept (.error e) w := ensuring_of_error stopped saved
    have hrelease : release w = .ok () (released w) := rfl
    rw [conclude, bind_apply, ensuring_eq hsave hrelease]
    intro h
    cases h

theorem loop_ne_notPrepared (sound : ∃ quotes, buildSplitters quotes = .ok splitters)
    (built : s.splitters = some splitters) (script : EditorScript) (u : Session δ) :
    loop script s ≠ .ok .notPrepared u := by
  obtain ⟨quotes, hquotes⟩ := sound
  have hbegin : begin s = (do loadHistory; pure true) s := by
    have accepts : Accepts splitters s := ⟨⟨quotes, hquotes⟩, .inl built⟩
    rw [begin_of_accepts accepts, withSplitters_eq_self built]
  rw [loop, bind_apply, hbegin, bind_apply]
  cases loaded : loadHistory s with
  | error e b =>
    intro h
    cases h
  | ok _ b =>
    have kept : b.splitters = some splitters := by
      have prepared := steady_preparesFrom.interactive.loadHistory s
      rw [after_of_ok loaded] at prepared
      exact prepared.splitters_eq_some built
    obtain ⟨turns, stop, t, took⟩ := exists_took hquotes script kept
    have hattempt : attempt (interact script) b = .ok stop.result t := by
      rw [attempt, took.interact_eq kept]
      cases stop.result <;> rfl
    change (attempt (interact script) >>= conclude) b ≠ _
    rw [bind_apply, hattempt]
    exact conclude_ne_notPrepared stop u

structure Refuses (m : String) (s : Session δ) : Prop where
  prepare : prepare s = .error (.shell (.initialization m)) s
  execute (depth : Nat) (line : String) :
    executeAt depth line s = .error (.shell (.initialization m)) s
  dispatch (nested : Nested δ) (first : String) (rest : List String) :
    dispatch nested (first :: rest) s = .error (.shell (.initialization m)) s
  loop (script : EditorScript) : ∃ t, loop script s = .ok .notPrepared t ∧
    LoggedOnly (showing (s.output.printLine (Text.paint [.red] ("Error initializing cli: " ++ m)))
      s.invocations s) t

theorem Unbuildable.refuses (h : Unbuildable m s) : Refuses m s :=
  ⟨h.prepare_eq, h.executeAt_eq, h.dispatch_eq, h.exists_loop_eq⟩

structure Serves (splitters : Splitters) (s : Session δ) : Prop where
  prepare : prepare s = .ok () (s.withSplitters splitters)
  execute (depth : Nat) (line : String) :
    executeAt depth line s = executeAt depth line (s.withSplitters splitters) ∧
      ∀ e t, executeAt depth line s = .error e t →
        Leaks (nestedAt depth) splitters (s.withSplitters splitters) (Statement.split line) e
  dispatch (nested : Nested δ) (first : String) (rest : List String) :
    dispatch nested (first :: rest) s =
      dispatch nested (first :: rest) (s.withSplitters splitters)
  loop (script : EditorScript) :
    loop script s = loop script (s.withSplitters splitters) ∧
      ∀ t, loop script s ≠ .ok .notPrepared t

theorem Accepts.of_prepares (accepts : Accepts splitters s) (prepares : PreparesFrom s t) :
    Accepts splitters t where
  sound := accepts.sound
  built := by
    rcases accepts.built with built | ⟨unset, hquotes⟩
    · exact .inl (prepares.splitters_eq_some built)
    · rcases prepares.splitters with ⟨line, argument⟩ | ⟨-, others, built, hothers⟩
      · refine .inr ⟨⟨line.trans unset.1, argument.trans unset.2⟩, ?_⟩
        rw [prepares.quotes, hquotes]
      · rw [hquotes] at hothers
        cases hothers
        exact .inl built

theorem Accepts.leaks (accepts : Accepts splitters s) {depth : Nat} {line : String}
    {e : Raised} (raised : executeAt depth line s = .error e t) :
    Leaks (nestedAt depth) splitters (s.withSplitters splitters) (Statement.split line) e := by
  obtain ⟨quotes, hquotes⟩ := accepts.sound
  obtain ⟨failures, result, u, runs⟩ := exists_runs hquotes (nestedAt depth)
    (s.withSplitters splitters) (Statement.split line)
  rw [accepts.executeAt_eq, runs.executeAt_eq (splitters_withSplitters splitters s)] at raised
  cases result with
  | ok ended => cases raised
  | error e =>
    cases raised
    exact runs.leaks rfl

theorem Accepts.serves (accepts : Accepts splitters s) : Serves splitters s where
  prepare := by rw [Session.prepare, discard_eq, accepts.getSplitters_eq]
  execute depth line := ⟨accepts.executeAt_eq depth line, fun _ _ => accepts.leaks⟩
  dispatch := accepts.dispatch_eq
  loop script := by
    refine ⟨accepts.loop_eq script, ?_⟩
    rw [accepts.loop_eq script]
    exact loop_ne_notPrepared accepts.sound (splitters_withSplitters splitters s) script

/-- Whether the splitters can be built is decided by the quotes, once for all. However a session is
used, its two splitters are both missing or are both those for its first quotes. If one of them
cannot be built, everything that needs them is refused with the same message before anything is run;
if both can, nothing is ever refused for the lack of them. -/
theorem performAll_prepares (unset : s.lineSplitter = none ∧ s.argumentSplitter = none) :
    (∀ ops, let t := after (performAll ops) s
      t.quotes = s.quotes ∧
        (t.lineSplitter = none ∧ t.argumentSplitter = none ∨
          ∃ line argument, t.lineSplitter = some line ∧ t.argumentSplitter = some argument ∧
            forLine s.quotes = .ok line ∧ forArgument s.quotes = .ok argument)) ∧
    ((∃ e, forLine s.quotes = .error e) ∨ (∃ e, forArgument s.quotes = .error e) →
      ∃ m, ∀ ops, Refuses m (after (performAll ops) s)) ∧
    ∀ line argument, forLine s.quotes = .ok line → forArgument s.quotes = .ok argument →
      ∀ ops, Serves ⟨line, argument⟩ (after (performAll ops) s) := by
  have prepared ops : PreparesFrom s (after (performAll ops) s) :=
    steady_preparesFrom.performAll ops s
  refine ⟨fun ops => ⟨(prepared ops).quotes, ?_⟩, fun fails => ?_, fun line argument hline
    hargument ops => ?_⟩
  · rcases (prepared ops).splitters with ⟨line, argument⟩ | ⟨-, splitters, built, hquotes⟩
    · exact .inl ⟨line.trans unset.1, argument.trans unset.2⟩
    · obtain ⟨line, argument⟩ := splitters_eq_some_iff.mp built
      obtain ⟨hline, hargument⟩ := buildSplitters_eq_ok.mp hquotes
      exact .inr ⟨_, _, line, argument, hline, hargument⟩
  · obtain ⟨m, hm⟩ := exists_buildSplitters_eq_error fails
    have unbuildable : Unbuildable m s := ⟨unset, hm⟩
    exact ⟨m, fun ops => (unbuildable.of_prepares (prepared ops)).refuses⟩
  · have hquotes : buildSplitters s.quotes = .ok ⟨line, argument⟩ :=
      buildSplitters_eq_ok.mpr ⟨hline, hargument⟩
    have accepts : Accepts ⟨line, argument⟩ s := ⟨⟨_, hquotes⟩, .inr ⟨unset, hquotes⟩⟩
    exact (accepts.of_prepares (prepared ops)).serves

theorem performAll_prepares_equals :
    let s : Session Unit := ready.equipped none
    let t : Session Unit := { s with quotes := ["="] }
    (∀ ops, Serves standardSplitters (after (performAll ops) s)) ∧
      (∃ line, forLine t.quotes = .ok line) ∧
      (∀ ops, (after (performAll ops) t).lineSplitter = none ∧
        (after (performAll ops) t).argumentSplitter = none) ∧
      ∃ m, ∀ ops, Refuses m (after (performAll ops) t) := by
  intro s t
  obtain ⟨-, -, serves⟩ := performAll_prepares (s := s) ⟨rfl, rfl⟩
  obtain ⟨hline, hargument⟩ := forLine_forArgument_of_build buildSplitters_defaultQuotes
  obtain ⟨keeps, refuses, -⟩ := performAll_prepares (s := t) ⟨rfl, rfl⟩
  have fails : ∃ e, forArgument t.quotes = .error e := ⟨_, rfl⟩
  refine ⟨serves _ _ hline hargument, ⟨_, rfl⟩, fun ops => ?_, refuses (.inr fails)⟩
  obtain ⟨-, unset | ⟨line, argument, -, -, -, hok⟩⟩ := keeps ops
  · exact unset
  · obtain ⟨e, he⟩ := fails
    rw [he] at hok
    cases hok

end CommandShell.Session
