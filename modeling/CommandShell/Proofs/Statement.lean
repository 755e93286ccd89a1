import CommandShell.Statement
import Mathlib.Data.List.TakeWhile

/-! The statements of a line. A semicolon between two lines separates their statements, and a line
without one that is not padded is its only statement. -/

namespace CommandShell

namespace Text

theorem cutAt_of_not_mem {separator : Char} {cs : List Char} (h : separator ∉ cs) :
    cutAt separator cs = [cs] := by
  induction cs with
  | nil => rfl
  | cons c rest ih =>
    have hc : c ≠ separator := fun e => h (e ▸ List.mem_cons_self)
    have hrest := ih fun hm => h (List.mem_cons_of_mem c hm)
    simp [cutAt, hc, hrest]

theorem dropWhile_isBlank_eq_self {cs : List Char} (h : ∀ c ∈ cs.head?, isBlank c = false) :
    cs.dropWhile isBlank = cs := by
  rw [List.dropWhile_eq_self_iff]
  intro hl
  simp [h cs[0] (by simp [List.head?_eq_getElem?, hl])]

theorem trim_eq_self {cs : List Char} (first : ∀ c ∈ cs.head?, isBlank c = false)
    (last : ∀ c ∈ cs.getLast?, isBlank c = false) : trim cs = cs := by
  rw [← List.head?_reverse] at last
  rw [trim, trimLeft, trimRight, dropWhile_isBlank_eq_self first, dropWhile_isBlank_eq_self last,
    List.reverse_reverse]

def stripRight (s : String) : String := String.ofList (trimRight s.toList)

theorem trimRight_append {before : List Char} (last : ∀ c ∈ before.getLast?, isBlank c = false)
    (after : List Char) : trimRight (before ++ after) = before ++ trimRight after := by
  have hbefore : before.reverse.dropWhile isBlank = before.reverse :=
    dropWhile_isBlank_eq_self (by simpa [List.head?_reverse] using last)
  rw [trimRight, trimRight, List.reverse_append, List.dropWhile_append, hbefore]
  split
  · next h => simp [List.isEmpty_iff.mp h]
  · simp

theorem trimRight_eq_self {cs : List Char} (last : ∀ c ∈ cs.getLast?, isBlank c = false) :
    trimRight cs = cs := by
  have h := trimRight_append last []
  rw [List.append_nil] at h
  exact h.trans (List.append_nil cs)

theorem isBlank_getLast?_trimRight (cs : List Char) :
    ∀ c ∈ (trimRight cs).getLast?, isBlank c = false := by
  intro c hc
  rw [trimRight, List.getLast?_reverse] at hc
  have last := List.head?_dropWhile_not isBlank cs.reverse
  rwa [hc] at last

theorem trimRight_prefix (cs : List Char) : trimRight cs <+: cs := by
  have h := List.dropWhile_suffix (l := cs.reverse) isBlank
  rwa [← List.reverse_prefix, List.reverse_reverse] at h

end Text

namespace Statement

theorem split_append (a b : String) : split (a ++ ";" ++ b) = split a ++ split b := by
  have h : (a ++ ";" ++ b).toList = a.toList ++ separator :: b.toList := by
    simp [String.toList_append, separator]
  simp only [split, h, Text.cutAt_append, List.map_append, List.filter_append]

structure Solid (text : String) : Prop where
  whole : separator ∉ text.toList
  first : ∃ c, text.toList.head? = some c ∧ Text.isBlank c = false
  last : ∃ c, text.toList.getLast? = some c ∧ Text.isBlank c = false

namespace Solid

theorem split_eq {line : String} (h : Solid line) : split line = [line] := by
  obtain ⟨c, hfirst, hc⟩ := h.first
  obtain ⟨d, hlast, hd⟩ := h.last
  have htrim : Text.trim line.toList = line.toList :=
    Text.trim_eq_self (by simpa [hfirst] using hc) (by simpa [hlast] using hd)
  have hne : line.toList ≠ [] := fun hnil => by simp [hnil] at hfirst
  simp [split, Text.cutAt_of_not_mem h.whole, htrim, hne]

theorem append {before after : String} (hbefore : Solid before) (hafter : Solid after)
    {between : String} (h : separator ∉ between.toList) : Solid (before ++ between ++ after) := by
  obtain ⟨c, hfirst, hc⟩ := hbefore.first
  obtain ⟨d, hlast, hd⟩ := hafter.last
  constructor
  · simp [String.toList_append, hbefore.whole, h, hafter.whole]
  · exact ⟨c, by simp [String.toList_append, List.head?_append, hfirst], hc⟩
  · exact ⟨d, by simp [String.toList_append, List.getLast?_append, hlast], hd⟩

theorem intercalate {tokens : List String} (hne : tokens ≠ []) (h : ∀ t ∈ tokens, Solid t) :
    Solid (" ".intercalate tokens) := by
  induction tokens with
  | nil => exact absurd rfl hne
  | cons token rest ih =>
    have htoken := h token List.mem_cons_self
    cases rest with
    | nil => rwa [String.intercalate_singleton]
    | cons next rest =>
      have hrest := ih (List.cons_ne_nil next rest) fun t ht => h t (List.mem_cons_of_mem token ht)
      rw [String.intercalate_cons_cons]
      exact htoken.append hrest (by decide)

end Solid

theorem split_solid_append {text rest : String} (solid : Solid text)
    (whole : separator ∉ rest.toList) :
    split (text ++ rest) = [text ++ Text.stripRight rest] := by
  obtain ⟨c, hfirst, hc⟩ := solid.first
  obtain ⟨d, hlast, hd⟩ := solid.last
  have hwhole : separator ∉ (text ++ rest).toList := by
    simp [String.toList_append, solid.whole, whole]
  have htrim : Text.trim (text ++ rest).toList = text.toList ++ Text.trimRight rest.toList := by
    have hleft : Text.trimLeft (text ++ rest).toList = text.toList ++ rest.toList := by
      rw [String.toList_append]
      exact Text.dropWhile_isBlank_eq_self (by simp [List.head?_append, hfirst, hc])
    rw [Text.trim, hleft, Text.trimRight_append (by simpa [hlast] using hd)]
  have hne : (!(text.toList ++ Text.trimRight rest.toList).isEmpty) = true := by
    cases htext : text.toList with
    | nil => simp [htext] at hfirst
    | cons => rfl
  have hline : String.ofList (text.toList ++ Text.trimRight rest.toList) =
      text ++ Text.stripRight rest := by
    apply String.toList_injective
    simp [Text.stripRight, String.toList_append]
  simp only [split, Text.cutAt_of_not_mem hwhole, List.map_singleton, htrim, List.filter_cons, hne,
    if_true, List.filter_nil, hline]

end Statement
end CommandShell
