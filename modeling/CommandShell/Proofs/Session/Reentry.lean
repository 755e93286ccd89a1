import CommandShell.Proofs.Session.Saved
import Mathlib.Data.List.Induction

/-! Loops that follow each other on one session. Each loads the file in front of what is still
remembered. Since the file then holds just what is remembered, all of it comes twice, and stays so
unless the store is small enough for the older copies to be pushed out. -/

namespace CommandShell

namespace History
open Text

/-- What a store holds after a loop that finds in the file what it holds already. -/
def reloaded (limit : Nat) (entries lines : List String) : List String :=
  newest limit (entries ++ entries ++ recorded lines)

/-- Entries that come twice are all kept unless the newer ones fill the store. -/
theorem newest_twice_iff {limit : Nat} {entries others : List String} :
    newest limit (entries ++ entries ++ others) = newest limit (entries ++ others) ↔
      entries = [] ∨ limit ≤ entries.length + others.length := by
  constructor
  · intro h
    have hlength := congrArg List.length h
    simp only [length_newest, List.length_append] at hlength
    by_cases hempty : entries = []
    · exact .inl hempty
    · have hpos := List.length_pos_iff.mpr hempty
      exact .inr (by omega)
  · rintro (rfl | hfull)
    · rfl
    · rw [List.append_assoc, newest_append limit entries, List.length_append,
        Nat.sub_eq_zero_of_le hfull, newest, Nat.sub_zero, List.drop_length, List.nil_append]

theorem recorded_flatten_append (earlier : List (List String)) (lines : List String) :
    recorded (earlier ++ [lines]).flatten = recorded earlier.flatten ++ recorded lines := by
  rw [List.flatten_append, recorded_append, List.flatten_singleton]

/-- Reloading keeps each record once exactly as long as every reload either finds nothing or fills
the store. -/
theorem reloaded_faithful_iff {limit : Nat} (records : List String) (rest : List (List String)) :
    let entries := fun earlier => List.foldl (reloaded limit) (newest limit records) earlier
    (∀ earlier later, rest = earlier ++ later →
        entries earlier = newest limit (records ++ recorded earlier.flatten)) ↔
      ∀ earlier lines later, rest = earlier ++ lines :: later →
        entries earlier = [] ∨ limit ≤ (entries earlier).length + (recorded lines).length := by
  intro entries
  have step (earlier : List (List String)) (lines : List String) :
      entries (earlier ++ [lines]) = reloaded limit (entries earlier) lines := by
    simp only [entries, List.foldl_append, List.foldl_cons, List.foldl_nil]
  have wanted (earlier : List (List String)) (lines : List String)
      (h : entries earlier = newest limit (records ++ recorded earlier.flatten)) :
      newest limit (records ++ recorded (earlier ++ [lines]).flatten) =
        newest limit (entries earlier ++ recorded lines) := by
    rw [h, newest_newest_append, recorded_flatten_append, List.append_assoc]
  constructor
  · rintro faithful earlier lines later rfl
    have now := faithful earlier (lines :: later) rfl
    have next := faithful (earlier ++ [lines]) later (by simp)
    rw [step, reloaded, wanted earlier lines now] at next
    exact newest_twice_iff.mp next
  · intro full earlier
    -- a reload is the last of those before it, so the induction is from the end
    induction earlier using List.reverseRecOn with
    | nil =>
      intro later _
      simp [entries, recorded]
    | append_singleton earlier lines ih =>
      intro later hrest
      have hlines : rest = earlier ++ lines :: later := by simpa using hrest
      rw [step, reloaded, wanted earlier lines (ih _ hlines)]
      exact newest_twice_iff.mpr (full earlier lines later hlines)

theorem readRecords_recorded {h : History} {fs : Files} {found : Option (List String)}
    (readable : h.readRecords fs = .ok found) :
    ∀ entry ∈ found.getD [], Unbroken entry ∧ isBlankText entry = false := by
  unfold readRecords at readable
  split at readable
  · split at readable
    · cases readable
      exact fun entry hentry => unbroken_of_mem_recordsOf hentry
    · cases readable
  · cases readable
    simp
  · cases readable
  · cases readable

end History

namespace Session
open Text

variable {δ : Type} {splitters : Splitters} {s t u : Session δ}

inductive Loops (splitters : Splitters) : Session δ → List (List Turn) → Session δ → Prop
  | done (s : Session δ) : Loops splitters s [] s
  | next {s t u v : Session δ} {script : EditorScript} {turns : List Turn} {stop : Stop}
      {exit : SessionExit} {rest : List (List Turn)}
      (took : Took script splitters (after begin s) turns stop v)
      (run : loop script s = .ok exit t) (others : Loops splitters t rest u) :
      Loops splitters s (turns :: rest) u

structure Between (splitters : Splitters) (s : Session δ) : Prop where
  accepts : Accepts splitters s
  can : s.CanSave
  sound : s.history.Sound
  unbroken : ∀ entry ∈ s.history.entries, Unbroken entry
  saved : s.files.read s.history.path = .ok (Utf8.encode s.history.content)

theorem Between.readRecords_eq (between : Between splitters s) :
    s.history.readRecords s.files = .ok (some s.history.entries) := by
  rw [History.readRecords, between.saved]
  simp only [Utf8.decode_encode, History.content, History.recordsOf_join,
    History.flatMap_recordsOf_eq_self between.sound.nonblank between.unbroken]

theorem between_of_loop {found : Option (List String)} {script : EditorScript} {v : Session δ}
    {turns : List Turn} {stop : Stop} {exit : SessionExit} (accepts : Accepts splitters s)
    (can : s.CanSave) (sound : s.history.Sound)
    (remembered : ∀ entry ∈ s.history.entries, Unbroken entry)
    (readable : s.history.readRecords s.files = .ok found)
    (took : Took script splitters (after begin s) turns stop v) (run : loop script s = .ok exit t)
    (unbroken : ∀ line ∈ Turn.entered turns, Unbroken line) :
    Between splitters t ∧ t.history = s.history.filled (found.getD []) (Turn.entered turns) ∧
      t.appended = s.appended ++ turns.flatMap Turn.appended := by
  obtain ⟨b, begun, loaded⟩ := exists_begin accepts sound.bounded readable
  rw [after_of_ok begun] at took
  obtain ⟨left, hloop, finished⟩ := took.exists_finished accepts.sound can begun loaded
  obtain rfl : left = t := by rw [← (returned_of_eq hloop).2, after_of_ok run]
  have kept : ∀ entry ∈ left.history.entries, Unbroken entry ∧ isBlankText entry = false := by
    intro entry hentry
    rw [finished.history] at hentry
    have hsource := newest_subset _ _ hentry
    rw [List.mem_append, List.mem_append, History.mem_recorded] at hsource
    rcases hsource with (hfound | hentry) | ⟨hline, hblank⟩
    · exact History.readRecords_recorded readable entry hfound
    · exact ⟨remembered entry hentry, sound.nonblank entry hentry⟩
    · exact ⟨unbroken entry hline, hblank⟩
  refine ⟨⟨finished.accepts, finished.can, ⟨?_, fun e he => (kept e he).2⟩,
    fun e he => (kept e he).1, ?_⟩, finished.history, finished.appended⟩
  · rw [finished.history]
    exact length_newest_le ..
  · rw [finished.history]
    exact finished.saved

theorem Between.loop {script : EditorScript} {v : Session δ} {turns : List Turn} {stop : Stop}
    {exit : SessionExit} (between : Between splitters s)
    (took : Took script splitters (after begin s) turns stop v)
    (run : Session.loop script s = .ok exit t)
    (unbroken : ∀ line ∈ Turn.entered turns, Unbroken line) :
    Between splitters t ∧ t.history = { s.history with
      entries := History.reloaded s.history.limit s.history.entries (Turn.entered turns) } ∧
      t.appended = s.appended ++ turns.flatMap Turn.appended :=
  between_of_loop between.accepts between.can between.sound between.unbroken
    between.readRecords_eq took run unbroken

theorem Between.loops {loops : List (List Turn)} (between : Between splitters s)
    (taken : Loops splitters s loops t)
    (unbroken : ∀ turns ∈ loops, ∀ line ∈ Turn.entered turns, Unbroken line) :
    Between splitters t ∧ t.history = { s.history with
      entries := (loops.map Turn.entered).foldl (History.reloaded s.history.limit)
        s.history.entries } ∧
      t.appended = s.appended ++ loops.flatten.flatMap Turn.appended := by
  induction taken with
  | done s => exact ⟨between, rfl, (List.append_nil _).symm⟩
  | next took run others ih =>
    obtain ⟨hturns, hrest⟩ := List.forall_mem_cons.mp unbroken
    obtain ⟨next, hnext, happended⟩ := between.loop took run hturns
    obtain ⟨last, hlast, hmore⟩ := ih next hrest
    refine ⟨last, ?_, ?_⟩
    · rw [hlast, hnext]
      rfl
    · rw [hmore, happended, List.append_assoc, ← List.flatMap_append, List.flatten_cons]

theorem Loops.saves (accepts : Accepts splitters s) (fresh : s.history.entries = [])
    {found : Option (List String)} (readable : s.history.readRecords s.files = .ok found)
    (can : s.CanSave) {first : List Turn} {rest : List (List Turn)}
    (loops : Loops splitters s (first :: rest) t)
    (unbroken : ∀ turns ∈ first :: rest, ∀ line ∈ Turn.entered turns, Unbroken line) :
    t.files.read s.history.path = .ok (Utf8.encode (String.join
        (((rest.map Turn.entered).foldl (History.reloaded s.history.limit)
          (newest s.history.limit (found.getD [] ++
            History.recorded (Turn.entered first)))).map (· ++ "\n")))) ∧
      t.appended = s.appended ++ (first :: rest).flatten.flatMap Turn.appended := by
  cases loops with
  | next took run others =>
    obtain ⟨hfirst, hrest⟩ := List.forall_mem_cons.mp unbroken
    have sound : s.history.Sound := ⟨by simp [fresh], by simp [fresh]⟩
    obtain ⟨next, hnext, happended⟩ :=
      between_of_loop accepts can sound (by simp [fresh]) readable took run hfirst
    obtain ⟨last, hlast, hmore⟩ := next.loops others hrest
    constructor
    · have hsaved := last.saved
      rw [hlast, hnext, History.content, History.filled, fresh, List.append_nil] at hsaved
      exact hsaved
    · rw [hmore, happended, List.append_assoc, ← List.flatMap_append, List.flatten_cons]

theorem exists_loop_of_course {found : Option (List String)} {script : EditorScript}
    {turns : List Turn} {stop : Stop} {exit : SessionExit} (accepts : Accepts splitters s)
    (can : s.CanSave) (bounded : s.history.entries.length ≤ s.history.limit)
    (readable : s.history.readRecords s.files = .ok found)
    (course : ∀ b : Session δ, b.splitters = some splitters → b.prompter = s.prompter →
      ∃ v, Took script splitters b turns stop v) (ends : stop.outcome = .ok exit) :
    ∃ t v, Took script splitters (after begin s) turns stop v ∧ loop script s = .ok exit t ∧
      t.prompter = s.prompter := by
  obtain ⟨b, begun, loaded⟩ := exists_begin accepts bounded readable
  obtain ⟨v, took⟩ := course b loaded.splitters loaded.prompter
  obtain ⟨left, hloop, finished⟩ := took.exists_finished accepts.sound can begun loaded
  rw [ends] at hloop
  exact ⟨left, v, after_of_ok begun ▸ took, hloop, finished.prompter⟩

theorem exists_loops_readyWith (limit : Nat) (pos : 0 < limit) (content : String) :
    let s := readyWith limit pos content
    ∃ t u, loop (.typing ["exit now"] "" false) s = .ok .cancelled t ∧
      loop (.typing [] "" false) t = .ok .endOfInput u ∧
      Loops standardSplitters s [[⟨"exit now", []⟩]] t ∧
      Loops standardSplitters s [[⟨"exit now", []⟩], []] u := by
  intro s
  have asks {b : Session Unit} (h : b.prompter = s.prompter) (view : View Unit) :
      ∃ prompt, b.prompter view = .ok prompt := ⟨_, by rw [h]; rfl⟩
  have leaving (b : Session Unit) (built : b.splitters = some standardSplitters)
      (h : b.prompter = s.prompter) :
      ∃ v, Took (.typing ["exit now"] "" false) standardSplitters b [⟨"exit now", []⟩] .exit v :=
    exists_took_exit built (asks h) (by decide) []
  have idle (b : Session Unit) (_ : b.splitters = some standardSplitters)
      (h : b.prompter = s.prompter) : ∃ v, Took (.typing [] "" false) standardSplitters b []
        (.reader (.fault (.endOfInput ""))) v := by
    obtain ⟨prompt, asked⟩ := asks h (handed b).view
    exact ⟨_, .went rfl (.exhausted asked)⟩
  have accepts := accepts_readyWith limit pos content
  have can := canSave_readyWith limit pos content
  have readable := readRecords_readyWith limit pos content
  have sound : s.history.Sound := ⟨Nat.zero_le _, fun _ h => by cases h⟩
  obtain ⟨t, v, took, run, hprompter⟩ :=
    exists_loop_of_course accepts can sound.bounded readable leaving rfl
  obtain ⟨between, -, -⟩ := between_of_loop accepts can sound (fun _ h => by cases h) readable took run
    (by decide)
  obtain ⟨u, w, took', run', -⟩ := exists_loop_of_course between.accepts between.can
    between.sound.bounded between.readRecords_eq (hprompter ▸ idle) rfl
  exact ⟨t, u, run, run', .next took run (.done t), .next took run (.next took' run' (.done u))⟩

/-- Every loop but the first puts the file in front of what is still remembered of it. The lines of
all loops are recorded once each exactly as long as every such loop either finds nothing in the file
or fills the store. These are the lines that are read, unless handlers add some. -/
theorem loops_reload (accepts : Accepts splitters s) (fresh : s.history.entries = [])
    {found : Option (List String)} (readable : s.history.readRecords s.files = .ok found)
    (can : s.CanSave) {first : List Turn} {rest : List (List Turn)}
    (loops : Loops splitters s (first :: rest) t)
    (unbroken : ∀ turns ∈ first :: rest, ∀ line ∈ Turn.entered turns, Unbroken line) :
    let limit := s.history.limit
    let records := found.getD [] ++ History.recorded (Turn.entered first)
    let others := rest.map Turn.entered
    let entries := fun earlier => List.foldl (History.reloaded limit) (newest limit records) earlier
    t.files.read s.history.path =
        .ok (Utf8.encode (String.join ((entries others).map (· ++ "\n")))) ∧
      ((∀ earlier later, others = earlier ++ later →
          entries earlier = newest limit (records ++ History.recorded earlier.flatten)) ↔
        ∀ earlier lines later, others = earlier ++ lines :: later → entries earlier = [] ∨
          limit ≤ (entries earlier).length + (History.recorded lines).length) ∧
      (t.appended = s.appended →
        ∀ turns ∈ first :: rest, Turn.entered turns = turns.map Turn.line) := by
  intro limit records others entries
  obtain ⟨file, added⟩ := loops.saves accepts fresh readable can unbroken
  refine ⟨file, History.reloaded_faithful_iff records others, fun same turns hturns => ?_⟩
  rw [same] at added
  have nothing := List.flatMap_eq_nil_iff.mp (List.self_eq_append_right.mp added)
  refine Turn.entered_of_flatMap_eq_nil (List.flatMap_eq_nil_iff.mpr fun t ht => nothing t ?_)
  exact List.mem_flatten.mpr ⟨turns, hturns, ht⟩

theorem loops_reload_full :
    let s := readyWith 2 (by decide) "one\n"
    ∃ t u, loop (.typing ["exit now"] "" false) s = .ok .cancelled t ∧
      loop (.typing [] "" false) t = .ok .endOfInput u ∧
      Loops standardSplitters s [[⟨"exit now", []⟩], []] u ∧
      u.files.read "/history" = .ok (Utf8.encode "one\nexit now\n") := by
  intro s
  obtain ⟨t, u, run, run', -, loops⟩ := exists_loops_readyWith 2 (by decide) "one\n"
  have all := loops_reload (accepts_readyWith 2 (by decide) "one\n") rfl
    (readRecords_readyWith 2 (by decide) "one\n") (canSave_readyWith 2 (by decide) "one\n") loops
    (by decide)
  exact ⟨t, u, run, run', loops, all.1⟩

/-- With room in the store every entry is there twice after a second loop. -/
theorem loops_reload_twice :
    let s := readyWith 5 (by decide) "one\n"
    ∃ t u, loop (.typing ["exit now"] "" false) s = .ok .cancelled t ∧
      t.files.read "/history" = .ok (Utf8.encode "one\nexit now\n") ∧
      loop (.typing [] "" false) t = .ok .endOfInput u ∧
      u.files.read "/history" = .ok (Utf8.encode "one\nexit now\none\nexit now\n") := by
  intro s
  obtain ⟨t, u, run, run', first, both⟩ := exists_loops_readyWith 5 (by decide) "one\n"
  have accepts := accepts_readyWith 5 (by decide) "one\n"
  have readable := readRecords_readyWith 5 (by decide) "one\n"
  have can := canSave_readyWith 5 (by decide) "one\n"
  exact ⟨t, u, run, (first.saves accepts rfl readable can (by decide)).1, run',
    (both.saves accepts rfl readable can (by decide)).1⟩

end Session
end CommandShell
