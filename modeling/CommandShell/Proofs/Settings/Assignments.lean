import CommandShell.Proofs.History.Records
import CommandShell.Proofs.Settings.Sources
import CommandShell.Proofs.Statement

/-! Files of assignments, read back from how they are written. Whatever stands between two quotes,
and whatever stands there by itself without blanks around it, is the value that the name before the
equals sign gets; blank lines and comments assign nothing, and of several assignments to a name the
last one counts. Only a quote that is the whole value by itself is lost: it is taken for both ends
of a quoted text. -/

namespace CommandShell

namespace Text

theorem isBlank_of_isNameStart {c : Char} (h : isNameStart c = true) : isBlank c = false := by
  have code : 65 ≤ c.toNat ∧ c.toNat ≤ 122 := by
    rcases Bool.or_eq_true_iff.mp h with letter | line
    · rcases Bool.or_eq_true_iff.mp letter with upper | lower
      · obtain ⟨first, last⟩ := of_decide_eq_true upper
        exact ⟨first, le_trans last (by decide)⟩
      · obtain ⟨first, last⟩ := Bool.and_eq_true_iff.mp lower
        exact ⟨le_trans (by decide) (of_decide_eq_true first), of_decide_eq_true last⟩
    · rw [beq_iff_eq.mp line]
      decide
  simp [isBlank]
  omega

end Text

namespace Config.EnvFile

open Text (isBlank isPlainName trim trimRight)

structure Assignment where
  name : String
  quote : Option Char
  value : String
  deriving DecidableEq, Repr

namespace Assignment

def text (a : Assignment) : String :=
  match a.quote with
  | some quote => a.name ++ "=" ++ String.ofList (quote :: (a.value.toList ++ [quote]))
  | none => a.name ++ "=" ++ a.value

/-- Nothing but one quote is written behind the equals sign. -/
def IsLoneQuote (a : Assignment) : Prop := a.quote = none ∧ (a.value = "'" ∨ a.value = "\"")

instance (a : Assignment) : Decidable a.IsLoneQuote := inferInstanceAs (Decidable (_ ∧ _))

def stored (a : Assignment) : String := if a.IsLoneQuote then "" else a.value

theorem stored_eq_value_iff (a : Assignment) : a.stored = a.value ↔ ¬a.IsLoneQuote := by
  rw [stored]
  split
  · next lone =>
    refine iff_of_false ?_ (not_not_intro lone)
    rcases lone.2 with quote | quote <;> rw [quote] <;> decide
  · next other => exact iff_of_true rfl other

end Assignment

/-- A text that begins with a quote and ends with another one of the same kind. -/
def IsEnclosed (value : String) : Prop :=
  ∃ quote inner, isQuote quote = true ∧ value.toList = quote :: (inner ++ [quote])

theorem isEnclosed_iff {value : String} :
    IsEnclosed value ↔ value.toList.head?.any isQuote = true ∧
      value.toList.tail.getLast? = value.toList.head? := by
  constructor
  · rintro ⟨quote, inner, h, hvalue⟩
    simp [hvalue, h]
  · rintro ⟨h, last⟩
    obtain ⟨quote, first, h⟩ := (Option.any_eq_true ..).mp h
    obtain ⟨inner, hinner⟩ := List.getLast?_eq_some_iff.mp (last.trans first)
    refine ⟨quote, inner, h, ?_⟩
    rw [← hinner]
    exact List.eq_cons_of_mem_head? first

instance (value : String) : Decidable (IsEnclosed value) := decidable_of_iff _ isEnclosed_iff.symm

structure Assignment.WellFormed (a : Assignment) : Prop where
  name : isPlainName a.name.toList = true
  quote : ∀ quote ∈ a.quote, isQuote quote = true
  bare : a.quote = none → Text.strip a.value = a.value ∧ ¬IsEnclosed a.value

inductive Line
  | blank (space : String)
  | comment (space remark : String)
  | assignment (a : Assignment)
  deriving DecidableEq, Repr

namespace Line

def text : Line → String
  | blank space => space
  | comment space remark => space ++ "#" ++ remark
  | assignment a => a.text

inductive WellFormed : Line → Prop
  | blank {space : String} (h : Text.isBlankText space = true) : WellFormed (blank space)
  | comment {space : String} (h : Text.isBlankText space = true) (remark : String) :
      WellFormed (comment space remark)
  | assignment {a : Assignment} (h : a.WellFormed) : WellFormed (assignment a)

def assignment? : Line → Option Assignment
  | assignment a => some a
  | _ => none

end Line

theorem exists_of_isPlainName {cs : List Char} (h : isPlainName cs = true) :
    ∃ first rest, cs = first :: rest ∧ isBlank first = false ∧ ∀ c ∈ cs, isNameChar c = true := by
  cases cs with
  | nil => cases h
  | cons first rest =>
    obtain ⟨hfirst, hrest⟩ := Bool.and_eq_true_iff.mp h
    refine ⟨first, rest, rfl, Text.isBlank_of_isNameStart hfirst, ?_⟩
    refine List.forall_mem_cons.mpr ⟨?_, List.all_eq_true.mp hrest⟩
    rcases Bool.or_eq_true_iff.mp hfirst with letter | line
    · exact Bool.or_eq_true_iff.mpr (.inl (Bool.or_eq_true_iff.mpr (.inl letter)))
    · exact Bool.or_eq_true_iff.mpr (.inr line)

theorem assignment?_append {name : String} (plain : isPlainName name.toList = true)
    {value : List Char} (last : trimRight value = value) :
    EnvFile.assignment? (trim (name.toList ++ '=' :: value)) =
      some (name, String.ofList (unwrap (trim value))) := by
  obtain ⟨first, rest, hname, hfirst, chars⟩ := exists_of_isPlainName plain
  have trimmed : trim (name.toList ++ '=' :: value) = name.toList ++ '=' :: value := by
    have left : Text.trimLeft (name.toList ++ '=' :: value) = name.toList ++ '=' :: value :=
      Text.dropWhile_isBlank_eq_self (by simpa [hname] using hfirst)
    have whole : name.toList ++ '=' :: value = (name.toList ++ ['=']) ++ value := by simp
    have equals : ∀ c ∈ (name.toList ++ ['=']).getLast?, isBlank c = false := by
      simp only [List.getLast?_concat, Option.mem_some_iff, forall_eq']
      decide
    rw [trim, left, whole, Text.trimRight_append equals, last]
  have taken : (name.toList ++ '=' :: value).takeWhile isNameChar = name.toList := by
    rw [List.takeWhile_append_of_pos chars, List.takeWhile_cons_of_neg (by decide),
      List.append_nil]
  have left : (name.toList ++ '=' :: value).dropWhile isNameChar = '=' :: value := by
    rw [List.dropWhile_append_of_pos chars, List.dropWhile_cons_of_neg (by decide)]
  have equals : Text.trimLeft ('=' :: value) = '=' :: value :=
    List.dropWhile_cons_of_neg (by decide)
  rw [trimmed, EnvFile.assignment?, taken, left, equals]
  simp only [plain, if_true, String.ofList_toList]

theorem isBlank_of_isQuote {quote : Char} (h : isQuote quote = true) : isBlank quote = false := by
  rcases Bool.or_eq_true_iff.mp h with single | double
  · rw [beq_iff_eq.mp single]
    decide
  · rw [beq_iff_eq.mp double]
    decide

theorem unwrap_enclosed {quote : Char} (h : isQuote quote = true) (inner : List Char) :
    unwrap (quote :: (inner ++ [quote])) = inner := by
  have last : (quote :: (inner ++ [quote])).getLast? = some quote := by
    rw [← List.cons_append, List.getLast?_concat]
  simp only [unwrap, List.head?_cons, last, h, and_self, if_true, List.tail_cons,
    List.dropLast_concat]

theorem unwrap_of_not_isEnclosed {value : String} (bare : ¬IsEnclosed value) :
    String.ofList (unwrap value.toList) = if value = "'" ∨ value = "\"" then "" else value := by
  by_cases lone : value = "'" ∨ value = "\""
  · rw [if_pos lone]
    rcases lone with rfl | rfl <;> decide
  · have kept : unwrap value.toList = value.toList := by
      cases hvalue : value.toList with
      | nil => rfl
      | cons first rest =>
        rcases List.eq_nil_or_concat rest with rfl | ⟨inner, last, rfl⟩
        · have other : ¬isQuote first = true := by
            intro quote
            refine lone ((Bool.or_eq_true_iff.mp quote).imp ?_ ?_) <;>
              exact fun same => String.toList_injective (by rw [hvalue, beq_iff_eq.mp same]; rfl)
          simp [unwrap, other]
        · have differs : ¬(first = last ∧ isQuote first = true) := by
            rintro ⟨rfl, quote⟩
            exact bare ⟨first, inner, quote, by rw [hvalue, List.concat_eq_append]⟩
          rw [List.concat_eq_append, unwrap, List.head?_cons, ← List.cons_append,
            List.getLast?_concat]
          exact if_neg differs
    rw [if_neg lone, kept, String.ofList_toList]

theorem Assignment.assignment?_text {a : Assignment} (h : a.WellFormed) :
    EnvFile.assignment? (trim a.text.toList) = some (a.name, a.stored) := by
  cases hquote : a.quote with
  | some quote =>
    have quoted := h.quote quote hquote
    have last : ∀ c ∈ (quote :: (a.value.toList ++ [quote])).getLast?, isBlank c = false := by
      rw [← List.cons_append, List.getLast?_concat]
      simpa using isBlank_of_isQuote quoted
    have text : a.text.toList =
        a.name.toList ++ '=' :: (quote :: (a.value.toList ++ [quote])) := by
      simp [Assignment.text, hquote]
    have stored : a.stored = a.value :=
      a.stored_eq_value_iff.mpr fun lone => by simp [lone.1] at hquote
    rw [text, assignment?_append h.name (Text.trimRight_eq_self last),
      Text.trim_eq_self (by simpa using isBlank_of_isQuote quoted) last, unwrap_enclosed quoted,
      String.ofList_toList, stored]
  | none =>
    obtain ⟨unpadded, bare⟩ := h.bare hquote
    have trimmed : trim a.value.toList = a.value.toList := by
      simpa [Text.strip] using congrArg String.toList unpadded
    have last : trimRight a.value.toList = a.value.toList := by
      refine Text.trimRight_eq_self ?_
      rw [← trimmed]
      exact Text.isBlank_getLast?_trimRight _
    have text : a.text.toList = a.name.toList ++ '=' :: a.value.toList := by
      simp [Assignment.text, hquote]
    rw [text, assignment?_append h.name last, trimmed, unwrap_of_not_isEnclosed bare, stored]
    simp only [IsLoneQuote, hquote, true_and]

theorem Line.assignment?_text {line : Line} (h : line.WellFormed) :
    EnvFile.assignment? (trim line.text.toList) =
      line.assignment?.map fun a => (a.name, a.stored) := by
  cases h with
  | @blank space h =>
    have blanks : ∀ c ∈ space.toList, isBlank c = true := by simpa [Text.isBlankText] using h
    have nothing : trim space.toList = [] := by
      rw [trim, Text.trimLeft, List.dropWhile_eq_nil_iff.mpr blanks]
      rfl
    rw [text, nothing]
    rfl
  | @comment space h remark =>
    have blanks : ∀ c ∈ space.toList, isBlank c = true := by simpa [Text.isBlankText] using h
    have marked : trim (space ++ "#" ++ remark).toList = '#' :: trimRight remark.toList := by
      have left : Text.trimLeft (space ++ "#" ++ remark).toList = ['#'] ++ remark.toList := by
        rw [String.toList_append, String.toList_append, List.append_assoc, Text.trimLeft,
          List.dropWhile_append_of_pos blanks]
        exact List.dropWhile_cons_of_neg (by decide)
      have mark : ∀ c ∈ ['#'].getLast?, isBlank c = false := by
        rintro c ⟨⟩
        rfl
      rw [trim, left, Text.trimRight_append mark]
      rfl
    have unnamed : ('#' :: trimRight remark.toList).takeWhile isNameChar = [] :=
      List.takeWhile_cons_of_neg (by decide)
    rw [text, marked, EnvFile.assignment?, unnamed]
    rfl
  | assignment h => exact Assignment.assignment?_text h

def lastTo (name : String) (lines : List Line) : Option Assignment :=
  (lines.filterMap Line.assignment?).reverse.find? (·.name == name)

theorem find?_map_assignments {α : Type} (assignments : List Assignment) (f : Assignment → α)
    (name : String) :
    Entries.find? (assignments.map fun a => (a.name, f a)) name =
      (assignments.find? (·.name == name)).map f := by
  induction assignments with
  | nil => rfl
  | cons a rest ih =>
    rw [List.map_cons, Entries.find?_cons, List.find?_cons, ih]
    by_cases h : name = a.name
    · simp [h]
    · have other : (a.name == name) = false := beq_false_of_ne (Ne.symm h)
      rw [if_neg h, other]

theorem assignments_eq (text : String) :
    assignments text = (Text.splitLines text).filterMap fun line =>
      EnvFile.assignment? (trim line.toList) := by
  rw [Text.splitLines, List.filterMap_map, assignments]
  simp only [Function.comp_def, String.toList_ofList]

variable {lines : List Line} {text : String}

theorem assignments_of_lines (formed : ∀ line ∈ lines, line.WellFormed)
    (written : Text.splitLines text = lines.map Line.text) :
    assignments text =
      (lines.filterMap Line.assignment?).map fun a => (a.name, a.stored) := by
  rw [assignments_eq, written, List.filterMap_map, List.map_filterMap]
  exact List.filterMap_congr fun line hline => Line.assignment?_text (formed line hline)

theorem find?_read (formed : ∀ line ∈ lines, line.WellFormed)
    (written : Text.splitLines text = lines.map Line.text) (name : String) :
    Entries.find? (read text) name = (lastTo name lines).map Assignment.stored := by
  rw [read, Entries.find?_ofList, assignments_of_lines formed written, ← List.map_reverse,
    find?_map_assignments, lastTo]

/-- What is read from lines that are each blank, a comment or an assignment. Each name has the value
of the last assignment to it, unless that value is written as one quote and nothing else: then the
name has the empty value. Lines without line breaks in them can be written so, each ended by a line
feed; and a file of such a text is read to just these names and values. -/
theorem read_lines (formed : ∀ line ∈ lines, line.WellFormed) :
    ((∀ line ∈ lines, Text.Unbroken line.text) →
      Text.splitLines (String.join (lines.map (·.text ++ "\n"))) = lines.map Line.text) ∧
    ∀ text, Text.splitLines text = lines.map Line.text →
      (Entries.keys (read text)).Nodup ∧
      (∀ name,
        Entries.find? (read text) name = (lastTo name lines).map Assignment.stored ∧
        (Entries.find? (read text) name = (lastTo name lines).map Assignment.value ↔
          ∀ a ∈ lastTo name lines, ¬a.IsLoneQuote)) ∧
      ∀ fs path, Files.read fs path = .ok (Text.Utf8.encode text) →
        Sources.readAssignments fs path = .ok (Sources.upperKeys (Sources.texts (read text))) := by
  refine ⟨fun unbroken => ?_, fun text written => ⟨?_, fun name => ?_, fun fs path found => ?_⟩⟩
  · have lines' := Text.splitLines_join (List.forall_mem_map.mpr unbroken)
    rwa [List.map_map] at lines'
  · exact Entries.nodup_keys_ofList _
  · have found := find?_read formed written name
    refine ⟨found, ?_⟩
    rw [found]
    cases lastTo name lines with
    | none => simp
    | some a => simpa using a.stored_eq_value_iff
  · exact Sources.readAssignments_of_holds (.text found (Sources.decode_encode text))

theorem read_lines_quotes :
    let text := " # shell\nPROMPT='> '\n\nPATH_1=a=#b 'c\\\nPROMPT=\"\"\"\nMARK='>\""
    Entries.find? (read text) "PROMPT" = some "\"" ∧
      Entries.find? (read text) "PATH_1" = some "a=#b 'c\\" ∧
      Entries.find? (read text) "MARK" = some "'>\"" := by
  intro text
  let prompt : Assignment := ⟨"PROMPT", some '\'', "> "⟩
  let path : Assignment := ⟨"PATH_1", none, "a=#b 'c\\"⟩
  let quote : Assignment := ⟨"PROMPT", some '"', "\""⟩
  let mark : Assignment := ⟨"MARK", none, "'>\""⟩
  let lines : List Line := [.comment " " " shell", .assignment prompt, .blank "",
    .assignment path, .assignment quote, .assignment mark]
  have formed : ∀ line ∈ lines, line.WellFormed := by
    simp only [lines, List.forall_mem_cons, List.not_mem_nil, false_imp_iff, forall_true_iff,
      and_true]
    have single : ∀ quote ∈ some '\'', isQuote quote = true := by
      rintro _ ⟨⟩
      rfl
    have double : ∀ quote ∈ some '"', isQuote quote = true := by
      rintro _ ⟨⟩
      rfl
    exact ⟨.comment (by decide) _, .assignment ⟨by decide, single, nofun⟩, .blank (by decide),
      .assignment ⟨by decide, nofun, fun _ => by decide⟩,
      .assignment ⟨by decide, double, nofun⟩,
      .assignment ⟨by decide, nofun, fun _ => by decide⟩⟩
  have written : Text.splitLines text = lines.map Line.text := by decide
  obtain ⟨-, values, -⟩ := (read_lines formed).2 text written
  refine ⟨?_, ?_, ?_⟩
  · exact (values "PROMPT").2.mpr (by decide)
  · exact (values "PATH_1").2.mpr (by decide)
  · exact (values "MARK").2.mpr (by decide)

/-- A quote that is the whole value is read as no value. -/
theorem read_lone_quote :
    let line : Line := .assignment ⟨"X", none, "\""⟩
    line.WellFormed ∧ Text.splitLines "X=\"\n" = [line.text] ∧
      (lastTo "X" [line]).map Assignment.value = some "\"" ∧
      Entries.find? (read "X=\"\n") "X" = some "" := by
  refine ⟨.assignment ⟨by decide, nofun, fun _ => by decide⟩, ?_, ?_, ?_⟩ <;> decide

end Config.EnvFile
end CommandShell
