import CommandShell.Proofs.Log
import CommandShell.Proofs.Session.Dispatch
import CommandShell.Proofs.Session.Kept
import CommandShell.Proofs.Text.Utf8

/-! What dispatching adds to the log file. Before the handler of a command starts, each value beyond
its parameters is logged twice, once when it is found and once when it is warned of. The warning is
filled into its record, so that the file gets every escape sequence of the value along with it. -/

namespace CommandShell

theorem Text.Utf8.encode_append (s t : String) : encode (s ++ t) = encode s ++ encode t := by
  rw [encode_eq, encode_eq, encode_eq, String.toList_append, List.flatMap_append]

def Journal.lines (j : Journal) (records : List Log.Record) : String :=
  String.join (records.map (j.logger.inFile j.stamp))

theorem Journal.lines_append (j : Journal) (records others : List Log.Record) :
    j.lines (records ++ others) = j.lines records ++ j.lines others := by
  rw [lines, List.map_append, String.join_append, lines, lines]

theorem Journal.infix_lines (j : Journal) {r : Log.Record} {records : List Log.Record}
    (h : r ∈ records) : (j.logger.inFile j.stamp r).toList <:+: (j.lines records).toList := by
  obtain ⟨before, after, rfl⟩ := List.append_of_mem h
  rw [lines, List.map_append, List.map_cons, String.join_append, String.join_cons,
    String.toList_append, String.toList_append]
  exact ⟨_, _, List.append_assoc ..⟩

namespace Session

open Text (HoldsSequence stripEscapes)

variable {δ : Type} {s t u : Session δ} {records others : List Log.Record}

structure Logged (records : List Log.Record) (s t : Session δ) : Prop where
  logger : t.journal.logger = s.journal.logger
  stamp : t.journal.stamp = s.journal.stamp
  file : ∀ log old, s.journal.logger.file = some log → s.files.read log = .ok old →
    t.files.read log = .ok (old ++ Text.Utf8.encode (s.journal.lines records))

namespace Logged

theorem refl (s : Session δ) : Logged [] s s where
  logger := rfl
  stamp := rfl
  file log old _ found := by
    have none : Text.Utf8.encode (s.journal.lines []) = [] := Text.Utf8.encode_eq ""
    rw [found, none, List.append_nil]

theorem of_eq (h : Logged records s t) (journal : u.journal = t.journal)
    (files : u.files = t.files) : Logged records s u where
  logger := journal ▸ h.logger
  stamp := journal ▸ h.stamp
  file log old hlog found := files ▸ h.file log old hlog found

theorem trans (first : Logged records s t) (second : Logged others t u) :
    Logged (records ++ others) s u where
  logger := second.logger.trans first.logger
  stamp := second.stamp.trans first.stamp
  file log old hlog found := by
    have same : t.journal.lines others = s.journal.lines others := by
      rw [Journal.lines, first.logger, first.stamp, Journal.lines]
    rw [second.file log _ (first.logger ▸ hlog) (first.file log old hlog found), same,
      Journal.lines_append, Text.Utf8.encode_append, List.append_assoc]

theorem note (r : Log.Record) (s : Session δ) : Logged [r] s (after (note r) s) where
  logger := rfl
  stamp := rfl
  file log old hlog found := by
    have line : s.journal.lines [r] = s.journal.logger.inFile s.journal.stamp r := by
      rw [Journal.lines, List.map_singleton, String.join_cons]
      exact String.append_empty
    rw [line, Files.read_write (files_note_of_some r hlog found)]

theorem forM {α : Type} {f : α → SessionM δ Unit} {recordOf : α → Log.Record}
    (passes : ∀ a s, f a s = .ok () (after (f a) s))
    (step : ∀ a s, Logged [recordOf a] s (after (f a) s)) (xs : List α) (s : Session δ) :
    Logged (xs.map recordOf) s (after (xs.forM f) s) := by
  induction xs generalizing s with
  | nil => exact refl s
  | cons a xs ih =>
    rw [after_congr (forM_cons_apply passes a xs s)]
    exact (step a s).trans (ih (after (f a) s))

end Logged

def surplusRecord (value : String) : Log.Record :=
  .debug parserChannel [.fixed "Discarding extra argument ", .filled (Text.quoted value)]

def warningRecord (name value : String) : Log.Record :=
  .debug handlerChannel [.filled name, .fixed ": ", .filled (Binding.surplusMessage value)]

def callRecord (c : Call δ) : Log.Record :=
  .debug handlerChannel [.fixed "Dispatching ", .filled c.name, .fixed " with ",
    .filled (Text.quotedPairs c.arguments)]

/-- All that is logged of a call before its handler starts. -/
def recordsOf (c : Call δ) : List Log.Record :=
  c.binding.surplus.map surplusRecord ++ c.binding.surplus.map (warningRecord c.name) ++
    [callRecord c]

theorem logged_warnSurplus (name value : String) (s : Session δ) :
    Logged [warningRecord name value] s (after (warnSurplus name value) s) :=
  (Logged.note (warningRecord name value) s).of_eq rfl rfl

theorem logged_start (c : Call δ) (s : Session δ) : Logged (recordsOf c) s (c.start s) := by
  have found := Logged.forM noteSurplus_apply (fun value => Logged.note (surplusRecord value))
    c.binding.surplus s
  have warned := Logged.forM (warnSurplus_apply c.name) (logged_warnSurplus c.name)
    c.binding.surplus (discarding c.binding.surplus s)
  have called := Logged.note (callRecord c) (Session.warned c.name c.binding.surplus s)
  exact ((found.trans warned).trans called).of_eq rfl rfl

theorem holdsSequence_lines {j : Journal} (admits : j.logger.admits Log.debugLevel = true)
    {c : Call δ} {value : String} (surplus : value ∈ c.binding.surplus)
    (holds : HoldsSequence value.toList) : HoldsSequence (j.lines (recordsOf c)).toList := by
  have logged : warningRecord c.name value ∈ recordsOf c :=
    List.mem_append_left _ (List.mem_append_right _ (List.mem_map_of_mem surplus))
  have line : j.logger.inFile j.stamp (warningRecord c.name value) =
      Logger.fileLine j.stamp (warningRecord c.name value) := by
    have admitted : (j.logger.admits Log.debugLevel && decide (Logger.fileLevel ≤ Log.debugLevel)) =
        true := by rw [admits]; rfl
    exact if_pos admitted
  have warned : HoldsSequence (Binding.surplusMessage value).toList := by
    have message : (Binding.surplusMessage value).toList =
        "extra argument: ".toList ++ value.toList := String.toList_append
    exact holds.of_infix (message ▸ List.infix_append_right)
  have inLine : HoldsSequence (Logger.fileLine j.stamp (warningRecord c.name value)).toList :=
    Logger.holdsSequence_fileLine (by simp [warningRecord, Log.Record.debug]) warned
  exact inLine.of_infix (line ▸ j.infix_lines logged)

/-- The log file is freed of the escape sequences in the fixed parts of messages and of no others.
A line of it is the stripped line of its record just when the channel has no sequence, no part that
was filled in has one, and none begins in one part and ends in another; any sequence that was filled
in stands in the line. So when the handler of a command starts, the log file has got the lines that
the call made, with every sequence of the values that were too many. -/
theorem log_strips_fixed :
    (∀ (stamp : String) (r : Log.Record), Text.escape ∉ stamp.toList →
      (Logger.fileLine stamp r = stripEscapes (Logger.wholeLine stamp r) ↔
        ¬HoldsSequence r.channel.toList ∧ Log.SequencesFixed r.message) ∧
      ∀ text, .filled text ∈ r.message → HoldsSequence text.toList →
        HoldsSequence (Logger.fileLine stamp r).toList) ∧
    ∀ (nested : Nested δ) (splitters : Splitters) (s : Session δ) (tokens : List String)
      (c : Call δ) (log : String) (old : List UInt8), s.splitters = some splitters →
      callOf splitters s.commands tokens = .ok (some c) → s.journal.logger.file = some log →
      s.files.read log = .ok old →
      ∃ start, dispatch nested tokens s = settle c.name (c.answer nested start) ∧
        start.files.read log = .ok (old ++ Text.Utf8.encode (s.journal.lines (recordsOf c))) ∧
        (s.journal.logger.admits Log.debugLevel = true → ∀ value ∈ c.binding.surplus,
          HoldsSequence value.toList →
            HoldsSequence (s.journal.lines (recordsOf c)).toList) := by
  refine ⟨fun stamp r plain => ⟨Logger.fileLine_eq_iff plain r, fun text filled holds => ?_⟩, ?_⟩
  · exact Logger.holdsSequence_fileLine filled holds
  · intro nested splitters s tokens c log old built calls hlog found
    have dispatched := dispatch_of_callOf nested built tokens
    rw [calls] at dispatched
    refine ⟨c.start s, ?_, (logged_start c s).file log old hlog found, ?_⟩
    · rw [dispatched.2, handled_eq_settle]
    · exact fun admits value surplus holds => holdsSequence_lines admits surplus holds

/-- A session with an empty log file, which gets every record. -/
def logging : Session Unit :=
  { ready with
    files := ⟨[("/log", .file [])]⟩
    journal := ⟨⟨"shellkit", 10, false, none, some "/log"⟩, "", [], ""⟩ }

theorem log_strips_fixed_coloured :
    let r : Log.Record :=
      .debug historyChannel [.fixed "\x1b[1mLoaded\x1b[0m ", .filled "3", .fixed " entries\x1b["]
    let c : Call Unit :=
      ⟨"help", Help.command, ⟨[("command", "help")], 2, ["\x1b[31mred"]⟩⟩
    Logger.fileLine "" r = stripEscapes (Logger.wholeLine "" r) ∧
    ∃ start, dispatch (nestedAt 0) ["help", "help", "\x1b[31mred"] logging =
        settle "help" (c.answer (nestedAt 0) start) ∧
      start.files.read "/log" = .ok (Text.Utf8.encode (logging.journal.lines (recordsOf c))) ∧
      HoldsSequence (logging.journal.lines (recordsOf c)).toList := by
  intro r c
  obtain ⟨lines, dispatched⟩ := log_strips_fixed (δ := Unit)
  have fixed : Log.SequencesFixed r.message := by decide
  have channel : ¬HoldsSequence r.channel.toList := by decide
  have calls : callOf standardSplitters logging.commands ["help", "help", "\x1b[31mred"] =
      .ok (some c) := by rfl
  obtain ⟨start, heq, read, keeps⟩ :=
    dispatched (nestedAt 0) standardSplitters logging _ c "/log" [] rfl calls rfl rfl
  refine ⟨(lines "" r (by decide)).1.mpr ⟨channel, fixed⟩, start, heq, read, ?_⟩
  exact keeps rfl "\x1b[31mred" (by simp [c]) (by decide)

/-- The warning of a coloured value stands in the log file in colour. -/
theorem log_keeps_colour :
    let warned := warningRecord "help" "\x1b[31mred"
    Logger.fileLine "" warned =
        "[DEBUG] shellkit.interface.handler: help: extra argument: \x1b[31mred\n" ∧
      stripEscapes (Logger.wholeLine "" warned) =
        "[DEBUG] shellkit.interface.handler: help: extra argument: red\n" ∧
      (after (warnSurplus "help" "\x1b[31mred") logging).files.read "/log" =
        .ok (Text.Utf8.encode (Logger.fileLine "" warned)) ∧
      HoldsSequence (Logger.fileLine "" warned).toList := by
  intro warned
  have line : Logger.fileLine "" warned =
      "[DEBUG] shellkit.interface.handler: help: extra argument: \x1b[31mred\n" := by decide
  have logged := (logged_warnSurplus "help" "\x1b[31mred" logging).file "/log" [] rfl rfl
  have lines : logging.journal.lines [warned] = Logger.fileLine "" warned := by decide
  rw [lines, List.nil_append] at logged
  refine ⟨line, by decide, logged, ?_⟩
  rw [line]
  decide

end Session
end CommandShell
