import CommandShell.Log
import CommandShell.Proofs.Text.Sequence

/-! What the log file is freed of. The fixed parts of a message are stripped, and stripped one by
one; what is filled in between them stays. So the message is that of the record stripped as a whole
just when its sequences stand in fixed parts: when none stands in a part that was filled in, and
none begins in one part and ends behind it. -/

namespace CommandShell

namespace Text

/-- A sequence begins in a text and ends in the one behind it. -/
def RunsOver (before after : List Char) : Prop :=
  ∃ front back, front ≠ [] ∧ back ≠ [] ∧ IsSequence (front ++ back) ∧
    front <:+ before ∧ back <+: after

theorem IsSequence.eq_nil_of_append {sequence more : List Char} (h : IsSequence sequence)
    (longer : IsSequence (sequence ++ more)) : more = [] := by
  obtain ⟨body, rfl⟩ := h.exists_eq_cons
  have short : sequenceAfter escape (body ++ more) = some body.length :=
    sequenceAfter_eq_some_iff.mpr ⟨body, more, rfl, rfl, h⟩
  have long : sequenceAfter escape (body ++ more) = some (body ++ more).length :=
    sequenceAfter_eq_some_iff.mpr ⟨body ++ more, [], (List.append_nil _).symm, rfl, longer⟩
  have lengths := Option.some.inj (short.symm.trans long)
  rw [List.length_append] at lengths
  exact List.length_eq_zero_iff.mp (by omega)

theorem IsSequence.escape_not_mem {body : List Char} (h : IsSequence (escape :: body)) :
    escape ∉ body := by
  obtain ⟨params, letter, heq, hparams, hletter⟩ := h
  obtain ⟨-, rfl⟩ := List.cons.inj heq
  rw [← List.cons_append, List.mem_append, not_or]
  refine ⟨escape_not_mem_of_params hparams, fun last => ?_⟩
  rw [← List.mem_singleton.mp last] at hletter
  exact absurd hletter (by decide)

theorem HoldsSequence.of_infix {part whole : List Char} (h : HoldsSequence part)
    (inside : part <:+: whole) : HoldsSequence whole := by
  obtain ⟨sequence, hs, hin⟩ := h
  exact ⟨sequence, hs, hin.trans inside⟩

theorem runsOver_sequence_append_iff {sequence : List Char} (h : IsSequence sequence)
    (before after : List Char) : RunsOver (sequence ++ before) after ↔ RunsOver before after := by
  constructor
  · rintro ⟨front, back, hfront, hback, hs, ⟨rest, hrest⟩, hafter⟩
    rcases List.append_eq_append_iff.mp hrest with ⟨middle, rfl, rfl⟩ | ⟨more, rfl, rfl⟩
    · cases middle with
      | nil => exact ⟨before, back, hfront, hback, hs, List.suffix_rfl, hafter⟩
      | cons c middle =>
        -- what begins within the sequence begins where it does, and ends where it does
        obtain ⟨body, heq⟩ := hs.exists_eq_cons
        obtain ⟨rfl, -⟩ := List.cons.inj heq
        cases rest with
        | cons d rest =>
          obtain ⟨body', heq'⟩ := h.exists_eq_cons
          obtain ⟨rfl, -⟩ := List.cons.inj heq'
          exact absurd (List.mem_append_right rest List.mem_cons_self) h.escape_not_mem
        | nil =>
          rw [List.append_assoc] at hs
          have none := IsSequence.eq_nil_of_append h hs
          exact absurd (List.append_eq_nil_iff.mp none).2 hback
    · exact ⟨front, back, hfront, hback, hs, List.suffix_append _ _, hafter⟩
  · rintro ⟨front, back, hfront, hback, hs, hbefore, hafter⟩
    exact ⟨front, back, hfront, hback, hs, hbefore.trans (List.suffix_append _ _), hafter⟩

theorem runsOver_cons_iff {c : Char} {before after : List Char}
    (unbegun : sequenceAfter c (before ++ after) = none) :
    RunsOver (c :: before) after ↔ RunsOver before after := by
  constructor
  · rintro ⟨front, back, hfront, hback, hs, hbefore, ⟨rest, rfl⟩⟩
    rcases List.suffix_cons_iff.mp hbefore with rfl | hbefore
    · have begun : sequenceAfter c (before ++ (back ++ rest)) = some (before ++ back).length :=
        sequenceAfter_eq_some_iff.mpr ⟨_, rest, (List.append_assoc ..).symm, rfl, hs⟩
      rw [unbegun] at begun
      cases begun
    · exact ⟨front, back, hfront, hback, hs, hbefore, List.prefix_append _ _⟩
  · rintro ⟨front, back, hfront, hback, hs, hbefore, hafter⟩
    exact ⟨front, back, hfront, hback, hs, hbefore.trans (List.suffix_cons _ _), hafter⟩

/-- Two texts are stripped together as they are one by one, unless a sequence runs over from one to
the other; then less is left. -/
theorem stripFrom_append_cases (before after : List Char) :
    ¬RunsOver before after ∧
        stripFrom 0 (before ++ after) = stripFrom 0 before ++ stripFrom 0 after ∨
      RunsOver before after ∧ (stripFrom 0 (before ++ after)).length <
        (stripFrom 0 before).length + (stripFrom 0 after).length := by
  induction before using sequence_induction with
  | nil =>
    refine .inl ⟨?_, rfl⟩
    rintro ⟨front, back, hfront, -, -, hbefore, -⟩
    exact hfront (List.suffix_nil.mp hbefore)
  | sequence sequence before h ih =>
    rwa [runsOver_sequence_append_iff h, List.append_assoc, stripFrom_sequence_append h,
      stripFrom_sequence_append h]
  | kept c before unbegun ih =>
    cases begun : sequenceAfter c (before ++ after) with
    | none =>
      rw [runsOver_cons_iff begun, List.cons_append, stripFrom_cons_of_none begun,
        stripFrom_cons_of_none unbegun, List.cons_append, List.cons.injEq]
      refine ih.imp (And.imp_right fun same => ⟨rfl, same⟩) (And.imp_right fun less => ?_)
      rw [List.length_cons, List.length_cons]
      omega
    | some n =>
      obtain ⟨body, rest, hbody, -, hs⟩ := sequenceAfter_eq_some_iff.mp begun
      rcases List.append_eq_append_iff.mp hbody with ⟨back, rfl, rfl⟩ | ⟨within, rfl, -⟩
      · have whole : IsSequence (c :: before ++ back) := hs
        have hback : back ≠ [] := by
          rintro rfl
          rw [List.append_nil] at hs
          rw [sequenceAfter_eq_some_iff.mpr ⟨before, [], (List.append_nil _).symm, rfl, hs⟩]
            at unbegun
          cases unbegun
        refine .inr ⟨⟨c :: before, back, List.cons_ne_nil _ _, hback, whole, List.suffix_rfl,
          List.prefix_append _ _⟩, ?_⟩
        obtain ⟨_, heq⟩ := hs.exists_eq_cons
        obtain ⟨rfl, -⟩ := List.cons.inj heq
        have plain : escape ∉ back := fun hmem =>
          hs.escape_not_mem (List.mem_append_right before hmem)
        rw [← List.append_assoc, stripFrom_sequence_append whole, stripFrom_cons_of_none unbegun,
          stripFrom_append_of_not_mem plain, List.length_cons, List.length_append]
        omega
      · rw [sequenceAfter_eq_some_iff.mpr ⟨body, within, rfl, rfl, hs⟩] at unbegun
        cases unbegun

end Text

namespace Log

open Text (RunsOver HoldsSequence stripFrom stripEscapes escape)

def Part.kept : Part → String
  | .fixed s => stripEscapes s
  | .filled s => s

theorem Record.plainText_eq (r : Record) : r.plainText = String.join (r.message.map Part.kept) := by
  refine congrArg String.join (List.map_congr_left fun p _ => ?_)
  cases p <;> rfl

def charsOf (message : List Part) : List Char := message.flatMap fun p => p.text.toList

def charsKept (message : List Part) : List Char := message.flatMap fun p => p.kept.toList

theorem Record.toList_text (r : Record) : r.text.toList = charsOf r.message := by
  rw [text, String.toList_join, List.flatMap_map, charsOf]

theorem Record.toList_plainText (r : Record) : r.plainText.toList = charsKept r.message := by
  rw [plainText_eq, String.toList_join, List.flatMap_map, charsKept]

structure SequencesFixed (message : List Part) : Prop where
  filled : ∀ s, .filled s ∈ message → ¬HoldsSequence s.toList
  seams : ∀ before p after, message = before ++ p :: after →
    ¬RunsOver p.text.toList (charsOf after)

theorem sequencesFixed_cons_iff {p : Part} {message : List Part} :
    SequencesFixed (p :: message) ↔ (∀ s, p = .filled s → ¬HoldsSequence s.toList) ∧
      ¬RunsOver p.text.toList (charsOf message) ∧ SequencesFixed message := by
  constructor
  · rintro ⟨filled, seams⟩
    refine ⟨fun s hs => filled s (hs ▸ List.mem_cons_self), seams [] p message rfl, ?_, ?_⟩
    · exact fun s hs => filled s (List.mem_cons_of_mem p hs)
    · exact fun before q after split => seams (p :: before) q after (by rw [split]; rfl)
  · rintro ⟨first, seam, filled, seams⟩
    constructor
    · intro s hs
      rcases List.mem_cons.mp hs with rfl | hs
      · exact first s rfl
      · exact filled s hs
    · intro before q after split
      cases before with
      | nil =>
        obtain ⟨rfl, rfl⟩ := List.cons.inj split
        exact seam
      | cons _ before =>
        obtain ⟨rfl, rfl⟩ := List.cons.inj split
        exact seams before q after rfl

theorem Part.kept_cases (p : Part) :
    (∀ s, p = .filled s → ¬HoldsSequence s.toList) ∧ stripFrom 0 p.text.toList = p.kept.toList ∨
      ¬(∀ s, p = .filled s → ¬HoldsSequence s.toList) ∧
        (stripFrom 0 p.text.toList).length < p.kept.toList.length := by
  cases p with
  | fixed s =>
    refine .inl ⟨fun t ht => ?_, String.toList_ofList.symm⟩
    cases ht
  | filled s =>
    by_cases holds : HoldsSequence s.toList
    · exact .inr ⟨fun free => free s rfl holds, Text.length_stripFrom_lt holds⟩
    · refine .inl ⟨fun t ht => ?_, Text.stripFrom_eq_self_iff.mpr holds⟩
      cases ht
      exact holds

theorem charsKept_cases (message : List Part) :
    SequencesFixed message ∧ stripFrom 0 (charsOf message) = charsKept message ∨
      ¬SequencesFixed message ∧
        (stripFrom 0 (charsOf message)).length < (charsKept message).length := by
  induction message with
  | nil => exact .inl ⟨⟨by simp, by simp⟩, rfl⟩
  | cons p message ih =>
    have chars : charsOf (p :: message) = p.text.toList ++ charsOf message := List.flatMap_cons
    have kept : charsKept (p :: message) = p.kept.toList ++ charsKept message := List.flatMap_cons
    rw [sequencesFixed_cons_iff, chars, kept, List.length_append]
    have seam := Text.stripFrom_append_cases p.text.toList (charsOf message)
    rcases seam with ⟨apart, whole⟩ | ⟨runs, less⟩
    · rw [whole, List.length_append]
      rcases p.kept_cases with ⟨first, hfirst⟩ | ⟨first, hfirst⟩ <;>
        rcases ih with ⟨rest, hrest⟩ | ⟨rest, hrest⟩
      · exact .inl ⟨⟨first, apart, rest⟩, by rw [hfirst, hrest]⟩
      · exact .inr ⟨fun h => rest h.2.2, by rw [hfirst]; omega⟩
      · exact .inr ⟨fun h => first h.1, by rw [hrest]; omega⟩
      · exact .inr ⟨fun h => first h.1, by omega⟩
    · have first : (stripFrom 0 p.text.toList).length ≤ p.kept.toList.length :=
        p.kept_cases.elim (fun h => (congrArg List.length h.2).le) fun h => h.2.le
      have rest : (stripFrom 0 (charsOf message)).length ≤ (charsKept message).length :=
        ih.elim (fun h => (congrArg List.length h.2).le) fun h => h.2.le
      exact .inr ⟨fun h => h.2.1 runs, by omega⟩

theorem sequencesFixed_iff {message : List Part} :
    SequencesFixed message ↔ stripFrom 0 (charsOf message) = charsKept message := by
  rcases charsKept_cases message with ⟨fixed, same⟩ | ⟨loose, less⟩
  · exact iff_of_true fixed same
  · exact iff_of_false loose fun same => Nat.ne_of_lt less (congrArg List.length same)

instance (message : List Part) : Decidable (SequencesFixed message) :=
  decidable_of_iff _ sequencesFixed_iff.symm

theorem escape_not_mem_repr (n : Nat) : escape ∉ n.repr.toList := by
  rw [Nat.toList_repr]
  intro h
  have digit : escape.isDigit = true := Nat.isDigit_of_mem_toDigits (by decide) (by decide) h
  exact absurd digit (by decide)

theorem escape_not_mem_levelName (level : Int) : escape ∉ (levelName level).toList := by
  have number : escape ∉ (toString level).toList := by
    cases level with
    | ofNat n => exact escape_not_mem_repr n
    | negSucc n =>
      change escape ∉ ("-" ++ (n + 1).repr).toList
      rw [String.toList_append, List.mem_append, not_or]
      exact ⟨by decide, escape_not_mem_repr (n + 1)⟩
  unfold levelName
  split_ifs
  case neg =>
    rw [String.toList_append, List.mem_append, not_or]
    exact ⟨by decide, number⟩
  all_goals decide

end Log

namespace Logger

open Log (charsOf charsKept charsKept_cases)
open Text (HoldsSequence stripFrom escape)

def wholeLine (stamp : String) (r : Log.Record) : String :=
  stamp ++ "[" ++ Log.levelName r.level ++ "] " ++ r.channel ++ ": " ++ r.text ++ "\n"

def lineStart (stamp : String) (level : Int) : List Char :=
  (stamp ++ "[" ++ Log.levelName level ++ "] ").toList

theorem toList_fileLine (stamp : String) (r : Log.Record) :
    (fileLine stamp r).toList = lineStart stamp r.level ++
      (r.channel.toList ++ ':' :: ' ' :: (charsKept r.message ++ ['\n'])) := by
  simp [fileLine, lineStart, ← Log.Record.toList_plainText]

theorem toList_wholeLine (stamp : String) (r : Log.Record) :
    (wholeLine stamp r).toList = lineStart stamp r.level ++
      (r.channel.toList ++ ':' :: ' ' :: (charsOf r.message ++ ['\n'])) := by
  simp [wholeLine, lineStart, ← Log.Record.toList_text]

theorem escape_not_mem_lineStart {stamp : String} (plain : escape ∉ stamp.toList) (level : Int) :
    escape ∉ lineStart stamp level := by
  simp only [lineStart, String.toList_append, List.mem_append, not_or]
  exact ⟨⟨⟨plain, by decide⟩, Log.escape_not_mem_levelName level⟩, by decide⟩

theorem stripFrom_wholeLine {stamp : String} (plain : escape ∉ stamp.toList) (r : Log.Record) :
    stripFrom 0 (wholeLine stamp r).toList = lineStart stamp r.level ++
      (stripFrom 0 r.channel.toList ++
        ':' :: ' ' :: (stripFrom 0 (charsOf r.message) ++ ['\n'])) := by
  rw [toList_wholeLine, Text.stripFrom_append_of_not_mem (escape_not_mem_lineStart plain r.level),
    Text.stripFrom_append_kept (by decide) (by decide), Text.stripFrom_cons_of_ne (by decide),
    Text.stripFrom_append_kept (by decide) (by decide)]
  rfl

theorem fileLine_eq_iff {stamp : String} (plain : escape ∉ stamp.toList) (r : Log.Record) :
    fileLine stamp r = Text.stripEscapes (wholeLine stamp r) ↔
      ¬HoldsSequence r.channel.toList ∧ Log.SequencesFixed r.message := by
  rw [← String.toList_inj, Text.stripEscapes, String.toList_ofList, toList_fileLine,
    stripFrom_wholeLine plain, List.append_right_inj]
  constructor
  · intro same
    have lengths := congrArg List.length same
    simp only [List.length_append, List.length_cons] at lengths
    have channel := Text.length_stripFrom_le r.channel.toList
    rcases charsKept_cases r.message with ⟨fixed, message⟩ | ⟨-, shorter⟩
    · refine ⟨fun holds => ?_, fixed⟩
      have := Text.length_stripFrom_lt holds
      rw [message] at lengths
      omega
    · omega
  · rintro ⟨channel, fixed⟩
    rw [Text.stripFrom_eq_self_iff.mpr channel, Log.sequencesFixed_iff.mp fixed]

theorem holdsSequence_fileLine {stamp s : String} {r : Log.Record} (filled : .filled s ∈ r.message)
    (holds : HoldsSequence s.toList) : HoldsSequence (fileLine stamp r).toList := by
  obtain ⟨before, after, split⟩ := List.append_of_mem filled
  have inside : s.toList <:+: charsKept r.message := by
    rw [split, charsKept, List.flatMap_append, List.flatMap_cons]
    exact ⟨_, _, List.append_assoc ..⟩
  refine holds.of_infix (inside.trans ?_)
  exact ⟨lineStart stamp r.level ++ (r.channel.toList ++ [':', ' ']), ['\n'],
    by simp [toList_fileLine]⟩

end Logger
end CommandShell
