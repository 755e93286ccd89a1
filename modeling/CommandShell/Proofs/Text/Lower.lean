import CommandShell.Text.Case
import Mathlib.Data.List.Basic
import Mathlib.Data.List.TakeWhile

/-! The lower case of a part of a text. Only a capital sigma looks around itself, so the beginning
of a text has the lower case it has within the whole, unless it breaks a word off behind a capital
sigma, which then stands at the end of a word and is mapped to another form. -/

namespace CommandShell.Text

/-- The lower case of characters that stand between others, of those before them the last one
first. -/
def lowerBetween (before : List Char) : List Char → List Char → List Char
  | [], _ => []
  | c :: rest, after => lowerAt before c (rest ++ after) ++ lowerBetween (c :: before) rest after

theorem lowerFrom_append (before cs rest : List Char) :
    lowerFrom before (cs ++ rest) =
      lowerBetween before cs rest ++ lowerFrom (cs.reverse ++ before) rest := by
  induction cs generalizing before with
  | nil => rfl
  | cons c cs ih =>
    rw [List.cons_append, lowerFrom, ih, lowerBetween, List.reverse_cons, List.append_assoc,
      List.append_assoc, List.singleton_append]

theorem lowerFrom_eq (before cs : List Char) : lowerFrom before cs = lowerBetween before cs [] := by
  have h := lowerFrom_append before cs []
  rwa [List.append_nil, lowerFrom, List.append_nil] at h

theorem length_lowerAt (before after before' after' : List Char) (c : Char) :
    (lowerAt before c after).length = (lowerAt before' c after').length := by
  unfold lowerAt
  split_ifs <;> rfl

theorem length_lowerBetween (before cs after after' : List Char) :
    (lowerBetween before cs after).length = (lowerBetween before cs after').length := by
  induction cs generalizing before with
  | nil => rfl
  | cons c cs ih =>
    rw [lowerBetween, lowerBetween, List.length_append, List.length_append, ih,
      length_lowerAt before _ before (cs ++ after')]

theorem lowerAt_eq_iff {before after after' : List Char} {c : Char} :
    lowerAt before c after = lowerAt before c after' ↔
      (c = 'Σ' → endsWord before after = endsWord before after') := by
  by_cases h : c = 'Σ'
  · subst h
    cases hafter : endsWord before after <;> cases hafter' : endsWord before after' <;>
      simp [lowerAt, hafter, hafter']
  · simp [lowerAt, h]

/-- What comes behind some characters changes their lower case only by the word that it makes of a
sigma among them. -/
theorem lowerBetween_eq_iff {before cs after after' : List Char} :
    lowerBetween before cs after = lowerBetween before cs after' ↔
      ∀ front back, cs = front ++ 'Σ' :: back →
        endsWord (front.reverse ++ before) (back ++ after) =
          endsWord (front.reverse ++ before) (back ++ after') := by
  induction cs generalizing before with
  | nil => simp [lowerBetween]
  | cons c cs ih =>
    have hlength := length_lowerAt before (cs ++ after) before (cs ++ after') c
    have hcons : lowerBetween before (c :: cs) after = lowerBetween before (c :: cs) after' ↔
        lowerAt before c (cs ++ after) = lowerAt before c (cs ++ after') ∧
          lowerBetween (c :: before) cs after = lowerBetween (c :: before) cs after' :=
      ⟨fun h => List.append_inj h hlength, fun h => congrArg₂ (· ++ ·) h.1 h.2⟩
    rw [hcons, lowerAt_eq_iff, ih]
    constructor
    · rintro ⟨hfirst, hrest⟩ front back hcut
      cases front with
      | nil =>
        obtain ⟨rfl, rfl⟩ := List.cons.inj hcut
        exact hfirst rfl
      | cons d front =>
        obtain ⟨rfl, rfl⟩ := List.cons.inj hcut
        simpa using hrest front back rfl
    · intro h
      refine ⟨fun hc => h [] cs (by rw [hc]; rfl), fun front back hcut => ?_⟩
      simpa using h (c :: front) back (by rw [hcut]; rfl)

/-- The next character that is not a mark is part of a word. -/
def continuesWord (cs : List Char) : Bool := (cs.dropWhile isCaseIgnorable).head?.any isCased

/-- A text ends, but for marks, in a capital sigma within a word, and the rest goes on with it. -/
def breaksWordAtSigma (cs rest : List Char) : Bool :=
  match cs.reverse.dropWhile isCaseIgnorable with
  | 'Σ' :: before => continuesWord before && continuesWord rest
  | _ => false

theorem isCaseIgnorable_sigma : isCaseIgnorable 'Σ' = false := by decide +kernel

theorem continuesWord_append_of_marks {marks : List Char}
    (h : ∀ c ∈ marks, isCaseIgnorable c = true) (rest : List Char) :
    continuesWord (marks ++ rest) = continuesWord rest := by
  rw [continuesWord, List.dropWhile_append_of_pos h, continuesWord]

theorem continuesWord_append_of_not {cs : List Char} (h : ¬ ∀ c ∈ cs, isCaseIgnorable c = true)
    (rest : List Char) : continuesWord (cs ++ rest) = continuesWord cs := by
  have hne : cs.dropWhile isCaseIgnorable ≠ [] := by rwa [ne_eq, List.dropWhile_eq_nil_iff]
  rw [continuesWord, List.dropWhile_append, if_neg (by rwa [List.isEmpty_iff]),
    List.head?_append_of_ne_nil _ hne, continuesWord]

/-- A longer text behind a sigma tells something else of it just when only marks stood there and
the word goes on behind them. -/
theorem endsWord_append_ne_iff {before cs rest : List Char} :
    endsWord before (cs ++ rest) ≠ endsWord before cs ↔
      continuesWord before = true ∧ (∀ c ∈ cs, isCaseIgnorable c = true) ∧
        continuesWord rest = true := by
  have hends (after : List Char) :
      endsWord before after = (continuesWord before && !continuesWord after) := rfl
  rw [hends, hends]
  by_cases marks : ∀ c ∈ cs, isCaseIgnorable c = true
  · have none : continuesWord cs = false := by
      simpa [continuesWord] using continuesWord_append_of_marks marks []
    rw [continuesWord_append_of_marks marks, none, and_iff_right marks]
    cases continuesWord before <;> cases continuesWord rest <;> decide
  · rw [continuesWord_append_of_not marks]
    simp [marks]

theorem breaksWordAtSigma_nil (cs : List Char) : breaksWordAtSigma cs [] = false := by
  unfold breaksWordAtSigma
  split
  · exact Bool.and_false _
  · rfl

theorem breaksWordAtSigma_iff {cs rest : List Char} :
    breaksWordAtSigma cs rest = true ↔ ∃ front back, cs = front ++ 'Σ' :: back ∧
      endsWord front.reverse (back ++ rest) ≠ endsWord front.reverse back := by
  constructor
  · intro h
    unfold breaksWordAtSigma at h
    split at h
    · next before hdrop =>
      obtain ⟨hbefore, hrest⟩ := Bool.and_eq_true_iff.mp h
      refine ⟨before.reverse, (cs.reverse.takeWhile isCaseIgnorable).reverse, ?_, ?_⟩
      · rw [← List.reverse_inj, List.reverse_append, List.reverse_cons, List.reverse_reverse,
          List.reverse_reverse, List.append_assoc, List.singleton_append, ← hdrop,
          List.takeWhile_append_dropWhile]
      · rw [List.reverse_reverse, endsWord_append_ne_iff]
        exact ⟨hbefore, fun c hc => List.mem_takeWhile_imp (List.mem_reverse.mp hc), hrest⟩
    · cases h
  · rintro ⟨front, back, rfl, hends⟩
    obtain ⟨hbefore, marks, hrest⟩ := endsWord_append_ne_iff.mp hends
    have hdrop : (front ++ 'Σ' :: back).reverse.dropWhile isCaseIgnorable =
        'Σ' :: front.reverse := by
      rw [List.reverse_append, List.reverse_cons, List.append_assoc, List.dropWhile_append_of_pos
        (fun c hc => marks c (List.mem_reverse.mp hc)), List.singleton_append,
        List.dropWhile_cons_of_neg (by rw [isCaseIgnorable_sigma]; decide)]
    rw [breaksWordAtSigma, hdrop]
    exact Bool.and_eq_true_iff.mpr ⟨hbefore, hrest⟩

theorem lower_prefix_iff {typed rest : String} :
    (lower typed).toList <+: (lower (typed ++ rest)).toList ↔
      breaksWordAtSigma typed.toList rest.toList = false := by
  have hwhole : (lower (typed ++ rest)).toList = lowerBetween [] typed.toList rest.toList ++
      lowerFrom (typed.toList.reverse ++ []) rest.toList := by
    rw [lower, String.toList_ofList, String.toList_append, lowerFrom_append]
  have hpart : (lower typed).toList = lowerBetween [] typed.toList [] := by
    rw [lower, String.toList_ofList, lowerFrom_eq]
  have hlength := length_lowerBetween [] typed.toList [] rest.toList
  rw [hwhole, hpart, List.prefix_iff_eq_take, List.take_left' hlength.symm, eq_comm,
    lowerBetween_eq_iff, ← Bool.not_eq_true, breaksWordAtSigma_iff]
  simp

end CommandShell.Text
