import CommandShell.Proofs.Splitter.Token
import Mathlib.Data.List.DropRight

/-! Writing arbitrary text as a token. A text is put between double quotes with its quotes escaped;
the backslashes at its end go behind the closing quote, since a backslash cannot be escaped. Reading
a written token, alone or with others, gives the text back. -/

namespace CommandShell

namespace Atom

def enclosedChar (c : Char) : Atom := if c = '"' ∨ c = '\'' then escaped c else quoted c

def enclosed (v : List Char) : List Atom :=
  opening '"' :: ((v.rdropWhile (· = backslash)).map enclosedChar ++
    closing '"' :: (v.rtakeWhile (· = backslash)).map bare)

end Atom

namespace Splitter
open Atom

def escapeChar (c : Char) : List Char := if c = '"' ∨ c = '\'' then [backslash, c] else [c]

def escapeQuotes (cs : List Char) : List Char := cs.flatMap escapeChar

def enclose (v : String) : String :=
  "\"" ++ String.ofList (escapeQuotes (v.toList.rdropWhile (· = backslash))) ++ "\"" ++
    String.ofList (v.toList.rtakeWhile (· = backslash))

end Splitter

namespace Atom

abbrev standardQuotes : List Char := ['"', '\'']

theorem sourceOf_map_enclosedChar (cs : List Char) :
    sourceOf (cs.map enclosedChar) = Splitter.escapeQuotes cs := by
  induction cs with
  | nil => rfl
  | cons c cs ih =>
    have hc : (enclosedChar c).source = Splitter.escapeChar c := by
      unfold enclosedChar Splitter.escapeChar
      split <;> rfl
    rw [List.map_cons, sourceOf_cons, ih, hc]
    rfl

theorem sourceOf_map_bare (cs : List Char) : sourceOf (cs.map bare) = cs := by
  induction cs with
  | nil => rfl
  | cons c cs ih => rw [List.map_cons, sourceOf_cons, ih, source, List.singleton_append]

theorem sourceOf_enclosed (v : String) :
    sourceOf (enclosed v.toList) = (Splitter.enclose v).toList := by
  simp [enclosed, Splitter.enclose, source, sourceOf_map_enclosedChar, sourceOf_map_bare]

theorem legible_map_bare {cs : List Char} (h : ∀ c ∈ cs, c = backslash) :
    Legible standardQuotes none (cs.map bare) none := by
  induction cs with
  | nil => exact .nil none
  | cons c cs ih =>
    have hc : c = backslash := h c List.mem_cons_self
    have hrest : ∀ d ∈ cs, d = backslash := fun d hd => h d (List.mem_cons_of_mem c hd)
    refine .bare (by rw [hc]; decide) ?_ (ih hrest)
    rw [sourceOf_map_bare]
    intro _ q hq
    rw [hrest q (List.mem_of_mem_head? hq)]
    decide

/-- Between the quotes every backslash that is not written for an escape stands before one that
is, or before a character that is no quote. -/
theorem Legible.map_enclosedChar_append {cs : List Char} {rest : List Atom}
    {opened : Option Char} (h : ∀ hne : cs ≠ [], cs.getLast hne ≠ backslash)
    (hrest : Legible standardQuotes (some '"') rest opened) :
    Legible standardQuotes (some '"') (cs.map enclosedChar ++ rest) opened := by
  induction cs with
  | nil => exact hrest
  | cons c cs ih =>
    have htail := ih fun hne => by
      have := h (List.cons_ne_nil c cs)
      rwa [List.getLast_cons hne] at this
    rw [List.map_cons, List.cons_append, enclosedChar]
    split
    · next hc => exact .escaped (by simpa using hc) htail
    · next hc =>
      refine .quoted (fun e => hc (.inl e)) ?_ htail
      -- a backslash is not the last character, and what is written for the next one is no quote
      rintro rfl q hq
      cases cs with
      | nil => exact absurd rfl (h (List.cons_ne_nil _ _))
      | cons d cs =>
        by_cases hd : d = '"' ∨ d = '\''
        · have : q = backslash := by simpa [enclosedChar, hd, source] using hq.symm
          rw [this]
          decide
        · have : q = d := by simpa [enclosedChar, hd, source] using hq.symm
          rw [this]
          simpa using hd

theorem legible_enclosed (v : List Char) : Legible standardQuotes none (enclosed v) none := by
  have hb : ∀ c ∈ v.rtakeWhile (· = backslash), c = backslash := by
    intro c hc
    simpa using List.mem_rtakeWhile_imp hc
  have hu : ∀ hne : v.rdropWhile (· = backslash) ≠ [],
      (v.rdropWhile (· = backslash)).getLast hne ≠ backslash := by
    intro hne
    simpa using List.rdropWhile_last_not (· = backslash) v hne
  refine .opening (by decide) (.of_ne (by decide) _) ?_
  refine .map_enclosedChar_append hu ?_
  exact .closing (.of_ne (by decide) _) (legible_map_bare hb)

theorem text_map {f : Char → Atom} (h : ∀ c, (marks false (f c)).map (·.1) = [c])
    (cs : List Char) : text false (cs.map f) = cs := by
  induction cs with
  | nil => rfl
  | cons c cs ih =>
    have hc : text false [f c] = [c] := by rw [text, List.flatMap_singleton, h]
    rw [List.map_cons, ← List.singleton_append, text_append, ih, hc, List.singleton_append]

theorem text_enclosed (v : List Char) : text false (enclosed v) = v := by
  have hbody : ∀ c, (marks false (enclosedChar c)).map (·.1) = [c] := by
    intro c
    unfold enclosedChar
    split <;> rfl
  have hquote : ∀ a as, marks false a = [] → text false (a :: as) = text false as := by
    intro a as ha
    simp [text, ha]
  rw [enclosed, hquote _ _ rfl, text_append, text_map hbody, hquote _ _ rfl, text_map fun _ => rfl,
    List.rdropWhile_append_rtakeWhile]

theorem eq_backslash_of_mem_enclosed {v : List Char} {c : Char} (h : bare c ∈ enclosed v) :
    c = backslash := by
  have hu : ∀ d, bare c ≠ enclosedChar d := by
    intro d
    unfold enclosedChar
    split <;> simp
  simp only [enclosed, List.mem_cons, List.mem_append, List.mem_map, reduceCtorEq, false_or] at h
  rcases h with ⟨d, -, hd⟩ | ⟨d, hd, he⟩
  · exact absurd hd.symm (hu d)
  · obtain rfl : d = c := by simpa using he
    simpa using List.mem_rtakeWhile_imp hd

theorem uncut_enclosed {boundary : Char → Bool} (h : boundary backslash = false) (v : List Char) :
    Uncut boundary (enclosed v) := by
  intro c hc
  rw [eq_backslash_of_mem_enclosed hc, h]

def enclosedPair (k v : List Char) : List Atom := enclosed k ++ bare '=' :: enclosed v

theorem legible_enclosedPair (k v : List Char) :
    Legible standardQuotes none (enclosedPair k v) none := by
  refine (legible_enclosed k).append (.bare (by decide) (.of_ne (by decide) _)
    (legible_enclosed v)) ?_
  simp [source, standardQuotes]

theorem isToken_enclosed (v : List Char) : Splitter.IsToken standardQuotes (enclosed v) where
  legible := legible_enclosed v
  uncut := uncut_enclosed (by decide) v
  ne_nil := by simp [enclosed]

theorem isToken_enclosedPair (k v : List Char) :
    Splitter.IsToken standardQuotes (enclosedPair k v) where
  legible := legible_enclosedPair k v
  uncut := by
    intro c hc
    rcases List.mem_append.mp hc with hc | hc
    · exact uncut_enclosed (by decide) k c hc
    · rcases List.mem_cons.mp hc with hc | hc
      · obtain rfl : c = '=' := by simpa using hc
        decide
      · exact uncut_enclosed (by decide) v c hc
  ne_nil := by simp [enclosedPair]

end Atom

namespace Splitter
open Atom

def enclosePair (p : String × String) : String := enclose p.1 ++ "=" ++ enclose p.2

theorem ofList_sourceOf_enclosed (v : String) :
    String.ofList (sourceOf (enclosed v.toList)) = enclose v := by
  rw [sourceOf_enclosed, String.ofList_toList]

theorem ofList_sourceOf_enclosedPair (p : String × String) :
    String.ofList (sourceOf (enclosedPair p.1.toList p.2.toList)) = enclosePair p := by
  rw [enclosedPair, sourceOf_append, sourceOf_cons, sourceOf_enclosed, sourceOf_enclosed,
    enclosePair]
  apply String.toList_injective
  simp [source]

theorem unquote_enclose (v : String) : commandWords.unquote (enclose v) = .ok v := by
  have htoken := isToken_enclosed v.toList
  have h : commandWords.unquote _ = _ := unquote_sourceOf htoken.legible htoken.uncut
  rwa [ofList_sourceOf_enclosed, text_enclosed, String.ofList_toList] at h

theorem split_fields_enclose (v : String) : fields.split (enclose v) = .ok [v] := by
  have htoken := isToken_enclosed v.toList
  have h := split_forArgument_single forArgument_defaultQuotes htoken.legible htoken.uncut
    htoken.ne_nil fun hb => absurd (eq_backslash_of_mem_enclosed hb) (by decide)
  rwa [ofList_sourceOf_enclosed, text_enclosed, String.ofList_toList] at h

theorem split_fields_enclosePair (p : String × String) :
    fields.split (enclosePair p) = .ok [p.1, p.2] := by
  have huncut (v : String) : Uncut fields.isBoundary (enclosed v.toList) :=
    uncut_enclosed (by decide) v.toList
  have hcut : cut fields.isBoundary (enclosedPair p.1.toList p.2.toList) =
      [enclosed p.1.toList, enclosed p.2.toList] := by
    rw [enclosedPair, cut_uncut_append_bare (huncut p.1) (by decide), cut_uncut (huncut p.2)]
  have hempty (v : String) : (fields.piece (enclosed v.toList)).isEmpty = false := by
    have htoken := isToken_enclosed v.toList
    rw [piece_isEmpty htoken.legible htoken.uncut]
    simpa using htoken.ne_nil
  have htext (v : String) : (fields.piece (enclosed v.toList)).text = v.toList := by
    rw [piece_text (isToken_enclosed v.toList).uncut]
    exact text_enclosed v.toList
  have hatoms : fields.atoms _ = _ := atoms_sourceOf (legible_enclosedPair p.1.toList p.2.toList)
  rw [ofList_sourceOf_enclosedPair] at hatoms
  have hkept : fields.ignoreEmpties = false := rfl
  simp [split, hatoms, Except.map, hcut, select, hkept, dropOuterEmpties, hempty, htext]

/-- A line that calls a command with values and with keys given values. -/
def commandLine (name : String) (values : List String) (pairs : List (String × String)) : String :=
  " ".intercalate (enclose name :: (values.map enclose ++ pairs.map enclosePair))

theorem split_commandLine (name : String) (values : List String) (pairs : List (String × String)) :
    commandWords.split (commandLine name values pairs) =
      .ok (enclose name :: (values.map enclose ++ pairs.map enclosePair)) := by
  have htokens : ∀ p ∈ enclosed name.toList :: (values.map (fun v => enclosed v.toList) ++
      pairs.map fun p => enclosedPair p.1.toList p.2.toList), IsToken commandWords.quotes p := by
    intro p hp
    simp only [List.mem_cons, List.mem_append, List.mem_map] at hp
    rcases hp with rfl | ⟨v, -, rfl⟩ | ⟨p, -, rfl⟩
    · exact isToken_enclosed _
    · exact isToken_enclosed _
    · exact isToken_enclosedPair _ _
  have h := split_intercalate forLine_defaultQuotes htokens
  simp only [List.map_cons, List.map_append, List.map_map, Function.comp_def,
    ofList_sourceOf_enclosed, ofList_sourceOf_enclosedPair] at h
  exact h

end Splitter
end CommandShell
