import CommandShell.Proofs.Atom.Reading
import Mathlib.Data.List.TakeWhile

/-! Pieces of a reading. A list of atoms is one piece, or a piece, a boundary and the pieces of the
rest; what holds of pieces is proved along this decomposition. The pieces of closed atoms are closed
themselves, so that each can be read again without its surroundings. -/

namespace CommandShell.Atom

variable {boundary : Char → Bool}

def Uncut (boundary : Char → Bool) (as : List Atom) : Prop :=
  ∀ c, bare c ∈ as → boundary c = false

theorem Uncut.nil : Uncut boundary [] := by
  intro c hc
  simp at hc

theorem Uncut.cons {a : Atom} {as : List Atom} (ha : ∀ c, a = bare c → boundary c = false)
    (h : Uncut boundary as) : Uncut boundary (a :: as) := by
  intro c hc
  rcases List.mem_cons.mp hc with rfl | hc
  · exact ha c rfl
  · exact h c hc

theorem cut_bare {c : Char} (h : boundary c = true) (rest : List Atom) :
    cut boundary (bare c :: rest) = [] :: cut boundary rest := by
  simp [cut, h]

theorem cut_cons {a : Atom} (h : ∀ c, a = bare c → boundary c = false) (rest : List Atom) :
    cut boundary (a :: rest) =
      (a :: (cut boundary rest).headD []) :: (cut boundary rest).tail := by
  cases a with
  | bare c => simp [cut, h c rfl]
  | _ => rfl

theorem cut_uncut_append {p : List Atom} (hp : Uncut boundary p) (rest : List Atom) :
    cut boundary (p ++ rest) = (p ++ (cut boundary rest).headD []) :: (cut boundary rest).tail := by
  induction p with
  | nil =>
    cases rest with
    | nil => rfl
    | cons a rest =>
      cases a with
      | bare c => by_cases h : boundary c = true <;> simp [cut, h]
      | _ => rfl
  | cons a p ih =>
    have ha : ∀ c, a = bare c → boundary c = false := fun c e => hp c (e ▸ List.mem_cons_self)
    have htail : Uncut boundary p := fun c hc => hp c (List.mem_cons_of_mem a hc)
    rw [List.cons_append, cut_cons ha, ih htail]
    rfl

theorem cut_uncut {p : List Atom} (hp : Uncut boundary p) : cut boundary p = [p] := by
  have := cut_uncut_append hp []
  rw [List.append_nil] at this
  simpa [cut] using this

theorem cut_uncut_append_bare {p : List Atom} {c : Char} (hp : Uncut boundary p)
    (hc : boundary c = true) (rest : List Atom) :
    cut boundary (p ++ bare c :: rest) = p :: cut boundary rest := by
  rw [cut_uncut_append hp, cut_bare hc]
  simp

theorem uncut_or_split (boundary : Char → Bool) (as : List Atom) :
    Uncut boundary as ∨ ∃ p c rest, as = p ++ bare c :: rest ∧ Uncut boundary p ∧
      boundary c = true := by
  induction as with
  | nil => exact .inl .nil
  | cons a as ih =>
    by_cases ha : ∀ c, a = bare c → boundary c = false
    · rcases ih with h | ⟨p, c, rest, rfl, hp, hc⟩
      · exact .inl (h.cons ha)
      · exact .inr ⟨a :: p, c, rest, rfl, hp.cons ha, hc⟩
    · simp only [Classical.not_forall, Bool.not_eq_false] at ha
      obtain ⟨c, rfl, hc⟩ := ha
      exact .inr ⟨[], c, as, rfl, .nil, hc⟩

theorem cut_induction (boundary : Char → Bool) {motive : List Atom → List (List Atom) → Prop}
    (last : ∀ p, Uncut boundary p → motive p [p])
    (piece : ∀ p c rest, Uncut boundary p → boundary c = true → motive rest (cut boundary rest) →
      motive (p ++ bare c :: rest) (p :: cut boundary rest))
    (as : List Atom) : motive as (cut boundary as) := by
  -- on the length, since the rest after a boundary is a tail at any distance
  induction h : as.length using Nat.strongRecOn generalizing as with
  | ind n ih =>
    rcases uncut_or_split boundary as with hu | ⟨p, c, rest, rfl, hp, hc⟩
    · rw [cut_uncut hu]
      exact last as hu
    · have hlt : rest.length < n := by
        simp only [List.length_append, List.length_cons] at h
        omega
      rw [cut_uncut_append_bare hp hc]
      exact piece p c rest hp hc (ih rest.length hlt rest rfl)

theorem cut_ne_nil (boundary : Char → Bool) (as : List Atom) : cut boundary as ≠ [] := by
  induction as using cut_induction boundary with
  | last | piece => exact List.cons_ne_nil _ _

theorem cut_append_bare {c : Char} (hc : boundary c = true) (as rest : List Atom) :
    cut boundary (as ++ bare c :: rest) = cut boundary as ++ cut boundary rest := by
  induction as using cut_induction boundary with
  | last p hp => exact cut_uncut_append_bare hp hc rest
  | piece p d more hp hd ih =>
    rw [List.append_assoc, List.cons_append, cut_uncut_append_bare hp hd, ih]
    rfl

theorem mem_of_mem_cut {as p : List Atom} {a : Atom} (hp : p ∈ cut boundary as) (ha : a ∈ p) :
    a ∈ as := by
  induction as using cut_induction boundary with
  | last q hq =>
    obtain rfl := List.mem_singleton.mp hp
    exact ha
  | piece q c rest hq hc ih =>
    rcases List.mem_cons.mp hp with rfl | hp
    · exact List.mem_append_left _ ha
    · exact List.mem_append_right _ (List.mem_cons_of_mem _ (ih hp))

theorem uncut_of_mem_cut {as p : List Atom} (h : p ∈ cut boundary as) : Uncut boundary p := by
  induction as using cut_induction boundary with
  | last q hq =>
    obtain rfl := List.mem_singleton.mp h
    exact hq
  | piece q c rest hq hc ih =>
    rcases List.mem_cons.mp h with rfl | h
    · exact hq
    · exact ih h

theorem Legible.of_mem_cut {quotes : List Char} {as p : List Atom}
    (h : Legible quotes none as none) (hp : p ∈ cut boundary as) : Legible quotes none p none := by
  induction as using cut_induction boundary with
  | last q hq =>
    obtain rfl := List.mem_singleton.mp hp
    exact h
  | piece q c rest hq hc ih =>
    obtain ⟨between, hleft, hright⟩ := h.of_append
    cases hright with
    | bare plain alone tail =>
      rcases List.mem_cons.mp hp with rfl | hp
      · exact hleft
      · exact ih tail hp

def text (keepQuotes : Bool) (as : List Atom) : List Char :=
  (as.flatMap (marks keepQuotes)).map (·.1)

theorem text_append (keepQuotes : Bool) (as bs : List Atom) :
    text keepQuotes (as ++ bs) = text keepQuotes as ++ text keepQuotes bs := by
  simp [text]

theorem text_true (as : List Atom) : text true as = sourceOf as := by
  induction as with
  | nil => rfl
  | cons a as ih =>
    have ha : (marks true a).map (·.1) = a.source := by cases a <;> rfl
    rw [sourceOf_cons, ← ih, ← ha]
    simp [text]

theorem intercalate_text_cut (keepQuotes : Bool) (d : Char) (as : List Atom) :
    [d].intercalate ((cut (· == d) as).map (text keepQuotes)) = text keepQuotes as := by
  induction as using cut_induction (· == d) with
  | last p hp => simp
  | piece p c rest hp hc ih =>
    obtain rfl : c = d := by simpa using hc
    have hne : (cut (· == c) rest).map (text keepQuotes) ≠ [] := by
      simpa using cut_ne_nil _ rest
    rw [List.map_cons, List.intercalate_cons_of_ne_nil hne, ih, text_append]
    simp [text, marks]

theorem Legible.eq_nil {quotes : List Char} {as : List Atom} {opened : Option Char}
    (h : Legible quotes none as opened) (ht : text false as = []) (hq : as.any isOpening = false) :
    as = [] := by
  cases h with
  | nil => rfl
  | escaped quote tail => simp [text, marks] at ht
  | opening quote alone tail => simp [isOpening] at hq
  | bare plain alone tail => simp [text, marks] at ht

end CommandShell.Atom

namespace CommandShell
open Atom

theorem mem_marks {keepQuotes : Bool} {a : Atom} {m : Mark} (h : m ∈ marks keepQuotes a) :
    m.2 = true ∨ a = bare m.1 := by
  cases a with
  | bare c =>
    obtain rfl : m = (c, false) := List.mem_singleton.mp h
    exact .inr rfl
  | _ => cases keepQuotes <;> grind [marks]

theorem isTrimmable_of_uncut {as : List Atom} (h : Uncut Text.isBlank as) (keepQuotes : Bool)
    {m : Mark} (hm : m ∈ as.flatMap (marks keepQuotes)) : isTrimmable m = false := by
  obtain ⟨a, ha, hm⟩ := List.mem_flatMap.mp hm
  rcases mem_marks hm with literal | rfl
  · simp [isTrimmable, literal]
  · simp [isTrimmable, h m.1 ha]

theorem trimMarks_eq_self {ms : List Mark} (h : ∀ m ∈ ms, isTrimmable m = false) :
    trimMarks ms = ms := by
  have hkept : ∀ l : List Mark, (∀ m ∈ l, m ∈ ms) → l.dropWhile isTrimmable = l := by
    intro l hl
    rw [List.dropWhile_eq_self_iff]
    intro hpos
    simp [h _ (hl _ (List.getElem_mem hpos))]
  rw [trimMarks, hkept ms fun _ => id, hkept ms.reverse fun _ => List.mem_reverse.mp,
    List.reverse_reverse]

theorem map_trimMarks_of_uncut {as : List Atom} (h : Uncut Text.isBlank as) (keepQuotes : Bool) :
    (trimMarks (as.flatMap (marks keepQuotes))).map (·.1) = text keepQuotes as := by
  rw [trimMarks_eq_self fun m hm => isTrimmable_of_uncut h keepQuotes hm, text]

end CommandShell
