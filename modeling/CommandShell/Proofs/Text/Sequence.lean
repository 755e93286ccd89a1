import CommandShell.Output
import CommandShell.Proofs.Text.Escape
import Mathlib.Data.List.Infix
import Mathlib.Tactic.Common

/-! What stripping leaves of a text. It takes out every complete escape sequence, and nothing else;
but what stood before a sequence and what stood behind it then come together, and they may be the
two parts of another one. So what is left holds a sequence just when the text holds one that has
others between its characters. -/

namespace CommandShell.Text

/-- An escape character, a bracket, digits and semicolons, and a letter. -/
def IsSequence (cs : List Char) : Prop :=
  ∃ params letter, cs = escape :: '[' :: (params ++ [letter]) ∧
    (∀ c ∈ params, isParameterChar c = true) ∧ letter.isAlpha = true

def HoldsSequence (cs : List Char) : Prop := ∃ sequence, IsSequence sequence ∧ sequence <:+: cs

theorem isParameterChar_of_isAlpha {c : Char} (h : c.isAlpha = true) :
    isParameterChar c = false := by
  have place : 'A'.val ≤ c.val := by
    rcases Bool.or_eq_true_iff.mp h with upper | lower
    · exact (of_decide_eq_true upper).1
    · have small : 'a'.val ≤ c.val := of_decide_eq_true (Bool.and_eq_true_iff.mp lower).1
      exact UInt32.le_trans (by decide) small
  have digit : c.isDigit = false := by
    have above : ¬ c.val ≤ '9'.val :=
      UInt32.not_le.mpr (UInt32.lt_of_lt_of_le (by decide) place)
    exact Bool.and_eq_false_iff.mpr (.inr (decide_eq_false above))
  have semicolon : c ≠ ';' := by
    rintro rfl
    exact absurd h (by decide)
  simp [isParameterChar, digit, semicolon]

theorem parametersLength_of_params {params : List Char}
    (hparams : ∀ c ∈ params, isParameterChar c = true) {letter : Char}
    (hletter : letter.isAlpha = true) (rest : List Char) :
    parametersLength (params ++ letter :: rest) = some (params.length + 1) := by
  induction params with
  | nil => simp [parametersLength_cons, hletter, isParameterChar_of_isAlpha hletter]
  | cons c params ih =>
    rw [List.cons_append, parametersLength_cons, if_pos (hparams c List.mem_cons_self),
      ih fun c hc => hparams c (List.mem_cons_of_mem _ hc)]
    rfl

theorem exists_params {cs : List Char} {n : Nat} (h : parametersLength cs = some n) :
    ∃ params letter rest, cs = params ++ letter :: rest ∧ n = params.length + 1 ∧
      (∀ c ∈ params, isParameterChar c = true) ∧ letter.isAlpha = true := by
  induction cs generalizing n with
  | nil => cases h
  | cons c cs ih =>
    rw [parametersLength_cons] at h
    split at h
    · next hc =>
      obtain ⟨m, hm, rfl⟩ := Option.map_eq_some_iff.mp h
      obtain ⟨params, letter, rest, rfl, rfl, hparams, hletter⟩ := ih hm
      refine ⟨c :: params, letter, rest, rfl, rfl, ?_, hletter⟩
      exact List.forall_mem_cons.mpr ⟨hc, hparams⟩
    · split at h
      · next hc =>
        cases h
        exact ⟨[], c, cs, rfl, rfl, by simp, hc⟩
      · cases h

theorem sequenceAfter_eq_some_iff {c : Char} {cs : List Char} {n : Nat} :
    sequenceAfter c cs = some n ↔ ∃ body rest, cs = body ++ rest ∧ n = body.length ∧
      IsSequence (c :: body) := by
  constructor
  · intro h
    unfold sequenceAfter at h
    split at h
    · next more =>
      split at h
      · next hc =>
        obtain ⟨m, hm, rfl⟩ := Option.map_eq_some_iff.mp h
        obtain ⟨params, letter, rest, rfl, rfl, hparams, hletter⟩ := exists_params hm
        exact ⟨'[' :: (params ++ [letter]), rest, by simp, by simp,
          params, letter, by rw [hc], hparams, hletter⟩
      · cases h
    · cases h
  · rintro ⟨body, rest, rfl, rfl, params, letter, heq, hparams, hletter⟩
    obtain ⟨rfl, rfl⟩ := List.cons.inj heq
    simp [sequenceAfter, parametersLength_of_params hparams hletter]

theorem stripFrom_eq_drop (n : Nat) (cs : List Char) :
    stripFrom n cs = stripFrom 0 (cs.drop n) := by
  induction n generalizing cs with
  | zero => rw [List.drop_zero]
  | succ n ih =>
    cases cs with
    | nil => rfl
    | cons c cs => exact ih cs

theorem stripFrom_sequence_append {sequence : List Char} (h : IsSequence sequence)
    (rest : List Char) : stripFrom 0 (sequence ++ rest) = stripFrom 0 rest := by
  cases sequence with
  | nil =>
    obtain ⟨params, letter, heq, -⟩ := h
    cases heq
  | cons c body =>
    have begun : sequenceAfter c (body ++ rest) = some body.length :=
      sequenceAfter_eq_some_iff.mpr ⟨body, rest, rfl, rfl, h⟩
    rw [List.cons_append, stripFrom, begun]
    exact (stripFrom_eq_drop _ _).trans (by rw [List.drop_left])

theorem sequence_induction {P : List Char → Prop} (nil : P [])
    (sequence : ∀ sequence rest, IsSequence sequence → P rest → P (sequence ++ rest))
    (kept : ∀ c rest, sequenceAfter c rest = none → P rest → P (c :: rest)) (cs : List Char) :
    P cs := by
  induction h : cs.length using Nat.strong_induction_on generalizing cs with
  | _ n ih =>
    subst h
    cases cs with
    | nil => exact nil
    | cons c cs =>
      cases begun : sequenceAfter c cs with
      | none => exact kept c cs begun (ih _ (Nat.lt_succ_self _) cs rfl)
      | some n =>
        obtain ⟨body, rest, rfl, rfl, h⟩ := sequenceAfter_eq_some_iff.mp begun
        refine sequence (c :: body) rest h (ih _ ?_ rest rfl)
        rw [List.length_cons, List.length_append]
        omega

theorem stripFrom_cons_of_none {c : Char} {rest : List Char} (h : sequenceAfter c rest = none) :
    stripFrom 0 (c :: rest) = c :: stripFrom 0 rest := by
  rw [stripFrom, h]

theorem IsSequence.exists_eq_cons {sequence : List Char} (h : IsSequence sequence) :
    ∃ body, sequence = escape :: body := by
  obtain ⟨params, letter, rfl, -⟩ := h
  exact ⟨_, rfl⟩

theorem stripFrom_append_escape (before after : List Char) :
    stripFrom 0 (before ++ escape :: after) = stripFrom 0 before ++ stripFrom 0 (escape :: after) :=
  stripFrom_append_of_interrupts (by decide) (Nat.zero_le _) _

theorem stripFrom_append_sequence {sequence : List Char} (h : IsSequence sequence)
    (before after : List Char) :
    stripFrom 0 (before ++ (sequence ++ after)) = stripFrom 0 before ++ stripFrom 0 after := by
  have interrupted : stripFrom 0 (before ++ (sequence ++ after)) =
      stripFrom 0 before ++ stripFrom 0 (sequence ++ after) := by
    obtain ⟨body, rfl⟩ := h.exists_eq_cons
    exact stripFrom_append_escape before (body ++ after)
  rw [interrupted, stripFrom_sequence_append h]

theorem length_stripFrom_le (cs : List Char) : (stripFrom 0 cs).length ≤ cs.length := by
  induction cs using sequence_induction with
  | nil => exact Nat.le_refl _
  | sequence sequence rest h ih =>
    rw [stripFrom_sequence_append h, List.length_append]
    exact Nat.le_add_left_of_le ih
  | kept c rest begun ih =>
    rw [stripFrom_cons_of_none begun]
    exact Nat.succ_le_succ ih

theorem length_stripFrom_lt {cs : List Char} (h : HoldsSequence cs) :
    (stripFrom 0 cs).length < cs.length := by
  obtain ⟨sequence, hs, before, after, rfl⟩ := h
  have short := length_stripFrom_le before
  have short' := length_stripFrom_le after
  rw [List.append_assoc, stripFrom_append_sequence hs]
  obtain ⟨body, rfl⟩ := hs.exists_eq_cons
  simp only [List.length_append, List.length_cons]
  omega

theorem stripFrom_eq_self_iff {cs : List Char} : stripFrom 0 cs = cs ↔ ¬HoldsSequence cs := by
  constructor
  · intro same holds
    exact Nat.ne_of_lt (length_stripFrom_lt holds) (congrArg List.length same)
  · intro free
    induction cs using sequence_induction with
    | nil => rfl
    | sequence sequence rest h ih => exact absurd ⟨sequence, h, [], rest, rfl⟩ free
    | kept c rest begun ih =>
      rw [stripFrom_cons_of_none begun, ih]
      rintro ⟨sequence, h, inside⟩
      exact free ⟨sequence, h, List.infix_cons inside⟩

instance (cs : List Char) : Decidable (HoldsSequence cs) :=
  decidable_of_iff (¬stripFrom 0 cs = cs) (by rw [stripFrom_eq_self_iff, not_not])

theorem sequenceAfter_append_of_some {c : Char} {cs : List Char} {n : Nat}
    (h : sequenceAfter c cs = some n) (rest : List Char) :
    sequenceAfter c (cs ++ rest) = some n := by
  obtain ⟨body, more, rfl, rfl, hbody⟩ := sequenceAfter_eq_some_iff.mp h
  exact sequenceAfter_eq_some_iff.mpr ⟨body, more ++ rest, List.append_assoc .., rfl, hbody⟩

/-- Each character that is left stands in the text, where it begins no sequence; what is left before
it was left of what stands before it there, and what is left behind it of what stands behind it. -/
theorem exists_of_stripFrom_eq {cs before after : List Char} {c : Char}
    (h : stripFrom 0 cs = before ++ c :: after) :
    ∃ front back, cs = front ++ c :: back ∧ stripFrom 0 front = before ∧
      stripFrom 0 back = after ∧ sequenceAfter c back = none := by
  induction cs using sequence_induction generalizing before with
  | nil => simp [stripFrom] at h
  | sequence sequence rest hs ih =>
    rw [stripFrom_sequence_append hs] at h
    obtain ⟨front, back, rfl, hfront, hback, begun⟩ := ih h
    refine ⟨sequence ++ front, back, (List.append_assoc ..).symm, ?_, hback, begun⟩
    rw [stripFrom_sequence_append hs, hfront]
  | kept d rest begun ih =>
    rw [stripFrom_cons_of_none begun] at h
    cases before with
    | nil =>
      obtain ⟨rfl, rfl⟩ := List.cons.inj h
      exact ⟨[], rest, rfl, rfl, rfl, begun⟩
    | cons e before =>
      obtain ⟨rfl, tail⟩ := List.cons.inj h
      obtain ⟨front, back, rfl, hfront, hback, begun'⟩ := ih tail
      refine ⟨d :: front, back, rfl, ?_, hback, begun'⟩
      have unbegun : sequenceAfter d front = none := by
        cases some : sequenceAfter d front with
        | none => rfl
        | some n => rw [sequenceAfter_append_of_some some] at begun; cases begun
      rw [stripFrom_cons_of_none unbegun, hfront]

inductive Interspersed : List Char → List Char → Prop
  | nil : Interspersed [] []
  | char (c : Char) {text cs : List Char} (rest : Interspersed text cs) :
      Interspersed (c :: text) (c :: cs)
  | sequence {sequence text cs : List Char} (h : IsSequence sequence)
      (rest : Interspersed text cs) : Interspersed text (sequence ++ cs)

theorem interspersed_stripFrom (cs : List Char) : Interspersed (stripFrom 0 cs) cs := by
  induction cs using sequence_induction with
  | nil => exact .nil
  | sequence sequence rest h ih =>
    rw [stripFrom_sequence_append h]
    exact .sequence h ih
  | kept c rest begun ih =>
    rw [stripFrom_cons_of_none begun]
    exact .char c ih

namespace Interspersed

variable {text cs : List Char}

theorem stripFrom_append (h : Interspersed text cs) (plain : escape ∉ text) (rest : List Char) :
    stripFrom 0 (cs ++ rest) = text ++ stripFrom 0 rest := by
  induction h with
  | nil => rfl
  | char c _ ih =>
    obtain ⟨hc, htext⟩ := not_or.mp (mt List.mem_cons.mpr plain)
    rw [List.cons_append, stripFrom_cons_of_ne (Ne.symm hc), ih htext]
    rfl
  | sequence hs _ ih => rw [List.append_assoc, stripFrom_sequence_append hs, ih plain]

theorem eq_or_exists (h : Interspersed text cs) :
    cs = text ∨ ∃ front sequence back, cs = front ++ (sequence ++ back) ∧ front <+: text ∧
      IsSequence sequence := by
  induction h with
  | nil => exact .inl rfl
  | char c _ ih =>
    rcases ih with rfl | ⟨front, sequence, back, rfl, hfront, hs⟩
    · exact .inl rfl
    · exact .inr ⟨c :: front, sequence, back, rfl, List.cons_prefix_cons.mpr ⟨rfl, hfront⟩, hs⟩
  | sequence hs _ _ => exact .inr ⟨[], _, _, rfl, List.nil_prefix, hs⟩

end Interspersed

/-- A sequence with other sequences between its characters. -/
def IsNested (cs : List Char) : Prop :=
  ∃ params letter middle, cs = escape :: (middle ++ [letter]) ∧
    (∀ c ∈ params, isParameterChar c = true) ∧ letter.isAlpha = true ∧
    Interspersed ('[' :: params) middle ∧ middle ≠ '[' :: params

def HoldsNested (cs : List Char) : Prop := ∃ nested, IsNested nested ∧ nested <:+: cs

theorem escape_not_mem_of_params {params : List Char}
    (hparams : ∀ c ∈ params, isParameterChar c = true) : escape ∉ '[' :: params := by
  intro h
  rcases List.mem_cons.mp h with h | h
  · exact absurd h (by decide)
  · exact absurd (hparams _ h) (by decide)

theorem sequenceAfter_of_interspersed {params middle : List Char}
    (hparams : ∀ c ∈ params, isParameterChar c = true) (h : Interspersed ('[' :: params) middle)
    (nested : middle ≠ '[' :: params) (rest : List Char) :
    sequenceAfter escape (middle ++ rest) = none := by
  obtain ⟨front, sequence, back, rfl, hfront, hs⟩ := h.eq_or_exists.resolve_left nested
  obtain ⟨body, rfl⟩ := hs.exists_eq_cons
  have cut : front ++ (escape :: body ++ back) ++ rest =
      front ++ escape :: (body ++ (back ++ rest)) := by simp
  rw [cut, sequenceAfter_append (by decide)]
  cases begun : sequenceAfter escape front with
  | none => rfl
  | some n =>
    obtain ⟨body, more, rfl, -, others, letter, heq, -, hletter⟩ :=
      sequenceAfter_eq_some_iff.mp begun
    obtain ⟨-, rfl⟩ := List.cons.inj heq
    have inside : letter ∈ '[' :: params := hfront.subset (by simp)
    rcases List.mem_cons.mp inside with rfl | inside
    · exact absurd hletter (by decide)
    · have param := hparams letter inside
      rw [isParameterChar_of_isAlpha hletter] at param
      cases param

theorem IsNested.stripFrom_append {nested : List Char} (h : IsNested nested) (rest : List Char) :
    ∃ sequence, IsSequence sequence ∧
      stripFrom 0 (nested ++ rest) = sequence ++ stripFrom 0 rest := by
  obtain ⟨params, letter, middle, rfl, hparams, hletter, spread, inner⟩ := h
  refine ⟨escape :: '[' :: (params ++ [letter]), ⟨params, letter, rfl, hparams, hletter⟩, ?_⟩
  have hne : letter ≠ escape := by
    rintro rfl
    exact absurd hletter (by decide)
  have unbegun := sequenceAfter_of_interspersed hparams spread inner (letter :: rest)
  rw [List.cons_append, List.append_assoc, List.singleton_append,
    stripFrom_cons_of_none unbegun,
    spread.stripFrom_append (escape_not_mem_of_params hparams), stripFrom_cons_of_ne hne]
  simp

theorem holdsSequence_stripFrom_iff {cs : List Char} :
    HoldsSequence (stripFrom 0 cs) ↔ HoldsNested cs := by
  constructor
  · rintro ⟨_, ⟨params, letter, rfl, hparams, hletter⟩, before, after, left⟩
    -- the escape character that is left, and the letter, stand in the text as well
    have head : stripFrom 0 cs = before ++ escape :: ('[' :: params ++ letter :: after) := by
      rw [← left]
      simp
    obtain ⟨front, back, rfl, -, hback, begun⟩ := exists_of_stripFrom_eq head
    obtain ⟨middle, rest, rfl, hmiddle, -, -⟩ := exists_of_stripFrom_eq hback
    refine ⟨escape :: (middle ++ [letter]), ⟨params, letter, middle, rfl, hparams, hletter,
      hmiddle ▸ interspersed_stripFrom middle, ?_⟩, front, rest, by simp⟩
    rintro rfl
    have complete : IsSequence (escape :: ('[' :: (params ++ [letter]))) :=
      ⟨params, letter, rfl, hparams, hletter⟩
    rw [sequenceAfter_eq_some_iff.mpr ⟨_, rest, by simp, rfl, complete⟩] at begun
    cases begun
  · rintro ⟨nested, h, front, rest, rfl⟩
    obtain ⟨sequence, hs, left⟩ := h.stripFrom_append rest
    have cut : stripFrom 0 (front ++ (nested ++ rest)) =
        stripFrom 0 front ++ stripFrom 0 (nested ++ rest) := by
      obtain ⟨params, letter, middle, rfl, -⟩ := h
      exact stripFrom_append_escape front (middle ++ [letter] ++ rest)
    rw [List.append_assoc, cut, left]
    exact ⟨sequence, hs, stripFrom 0 front, stripFrom 0 rest, by simp⟩

theorem holdsSequence_line_iff {cs : List Char} :
    HoldsSequence (cs ++ ['\n']) ↔ HoldsSequence cs := by
  rw [← not_iff_not, ← stripFrom_eq_self_iff, ← stripFrom_eq_self_iff,
    stripFrom_append_kept (by decide) (by decide)]
  exact List.append_left_inj _

/-- Stripping takes nothing but whole sequences out of a text. What it leaves, and so what a line
brings to anything but a terminal, is free of sequences just when no sequence in the text has others
between its characters; and then, and only then, stripping again changes nothing. -/
theorem stripEscapes_free_iff (s before : String) :
    Interspersed (stripEscapes s).toList s.toList ∧
    (HoldsSequence (stripEscapes s).toList ↔ HoldsNested s.toList) ∧
    (stripEscapes (stripEscapes s) = stripEscapes s ↔ ¬HoldsNested s.toList) ∧
    ∃ line, (Output.printLine ⟨false, before⟩ s).written = before ++ line ∧
      (HoldsSequence line.toList ↔ HoldsNested s.toList) := by
  have left : (stripEscapes s).toList = stripFrom 0 s.toList := String.toList_ofList
  refine ⟨?_, ?_, ?_, stripEscapes s ++ "\n", String.append_assoc .., ?_⟩
  · rw [left]
    exact interspersed_stripFrom _
  · rw [left, holdsSequence_stripFrom_iff]
  · rw [← holdsSequence_stripFrom_iff, ← stripFrom_eq_self_iff, ← left, ← String.toList_inj]
    rw [stripEscapes, String.toList_ofList]
  · rw [String.toList_append, left]
    exact holdsSequence_line_iff.trans holdsSequence_stripFrom_iff

/-- A sequence that stands behind the bracket of another leaves that other one whole. -/
theorem stripEscapes_nested :
    HoldsSequence (stripEscapes "\x1b[\x1b[0m0m").toList ∧
      (Output.printLine ⟨false, ""⟩ "\x1b[\x1b[0m0m").written = "\x1b[0m\n" := by
  have left : stripEscapes "\x1b[\x1b[0m0m" = "\x1b[0m" := by decide
  refine ⟨?_, by decide⟩
  rw [left]
  exact ⟨_, ⟨['0'], 'm', rfl, List.forall_mem_singleton.mpr rfl, rfl⟩, [], [], rfl⟩

end CommandShell.Text
