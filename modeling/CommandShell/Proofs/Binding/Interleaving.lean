import CommandShell.Proofs.Binding
import CommandShell.Proofs.Entries
import Mathlib.Data.List.Basic

/-! Where named values stand among bare ones. A bare value is bound by its place among the bare
values alone, so that a row of tokens binds the same wherever its pairs stand, as long as no pair
names a parameter that a bare value binds. Whether a row can be bound at all does not depend on its
order. -/

namespace CommandShell.Binding

variable {sp : Splitter} {parameters : List Parameter} {tokens values pairs : List String}

/-- The keys and values of the tokens of two fields, in order. -/
def namedValues (sp : Splitter) (tokens : List String) : Entries String :=
  tokens.filterMap fun token => match sp.split token with
    | .ok [key, value] => some (key, value)
    | _ => none

theorem namedValues_cons_pair {token key value : String}
    (split : sp.split token = .ok [key, value]) (rest : List String) :
    namedValues sp (token :: rest) = (key, value) :: namedValues sp rest := by
  simp only [namedValues, List.filterMap_cons, split]

theorem namedValues_cons_single {token value : String} (split : sp.split token = .ok [value])
    (rest : List String) : namedValues sp (token :: rest) = namedValues sp rest := by
  simp only [namedValues, List.filterMap_cons, split]

theorem namedValues_append (sp : Splitter) (before after : List String) :
    namedValues sp (before ++ after) = namedValues sp before ++ namedValues sp after :=
  List.filterMap_append

def placedValues (parameters : List Parameter) (values : List String) : Entries String :=
  parameters.zipWith (fun p value => (p.name, value)) values

theorem placedValues_append_singleton (parameters : List Parameter) (values : List String)
    (value : String) :
    placedValues parameters (values ++ [value]) = placedValues parameters values ++
      (parameters[values.length]?.map fun p => (p.name, value)).toList := by
  induction values generalizing parameters with
  | nil => cases parameters <;> simp [placedValues]
  | cons first values ih =>
    cases parameters with
    | nil => rfl
    | cons p parameters => exact congrArg _ (ih parameters)

/-- The keys given by name are distinct, and none of those that so many bare values bind by their
places. -/
def Apart (parameters : List Parameter) (count : Nat) (named : Entries String) : Prop :=
  (Entries.keys named).Nodup ∧ ∀ p ∈ parameters.take count, p.name ∉ Entries.keys named

theorem Apart.of_perm {count : Nat} {named others : Entries String}
    (h : Apart parameters count named) (perm : named.Perm others) :
    Apart parameters count others := by
  have hkeys : (Entries.keys named).Perm (Entries.keys others) := perm.map _
  exact ⟨hkeys.nodup_iff.mp h.1, fun p hp hkey => h.2 p hp (hkeys.mem_iff.mpr hkey)⟩

theorem Apart.of_append {count fewer : Nat} {named others : Entries String}
    (h : Apart parameters count (named ++ others)) (le : fewer ≤ count) :
    Apart parameters fewer named := by
  obtain ⟨nodup, unplaced⟩ := h
  rw [Entries.keys, List.map_append] at nodup
  refine ⟨(List.nodup_append.mp nodup).1, fun p hp hkey => ?_⟩
  refine unplaced p (List.take_subset_take_left parameters le hp) ?_
  rw [Entries.keys, List.map_append]
  exact List.mem_append_left _ hkey

/-- What a key is bound to: the value that names it, or else one in its place. -/
def argumentFor (parameters : List Parameter) (named : Entries String) (values : List String)
    (key : String) : Option String :=
  (Entries.find? named key).or (Entries.find? (placedValues parameters values).reverse key)

theorem argumentFor_append_named {named : Entries String} {name value : String}
    (nodup : (Entries.keys (named ++ [(name, value)])).Nodup) (values : List String)
    (key : String) :
    argumentFor parameters (named ++ [(name, value)]) values key =
      if key = name then some value else argumentFor parameters named values key := by
  have hnamed : (Entries.keys named).Nodup := by
    rw [Entries.keys, List.map_append] at nodup
    exact (List.nodup_append.mp nodup).1
  -- among distinct keys the last one is found as well as the first
  rw [argumentFor, argumentFor, ← Entries.find?_reverse nodup, List.reverse_append,
    List.reverse_singleton, List.singleton_append, Entries.find?_cons, Entries.find?_reverse hnamed]
  split <;> rfl

theorem argumentFor_append_value {named : Entries String} {values : List String}
    (apart : Apart parameters (values.length + 1) named) (value key : String) :
    argumentFor parameters named (values ++ [value]) key =
      if parameters[values.length]?.map (·.name) = some key then some value
      else argumentFor parameters named values key := by
  rw [argumentFor, argumentFor, placedValues_append_singleton, List.reverse_append]
  cases place : parameters[values.length]? with
  | none => rfl
  | some p =>
    rw [Option.map_some, Option.map_some, Option.toList_some, List.reverse_singleton,
      List.singleton_append, Entries.find?_cons]
    by_cases hkey : key = p.name
    · have hp : p ∈ parameters.take (values.length + 1) := by
        refine List.mem_of_getElem? (i := values.length) ?_
        rw [List.getElem?_take_of_lt (Nat.lt_succ_self _), place]
      have unnamed : Entries.find? named key = none := by
        rw [← Option.not_isSome_iff_eq_none, Entries.find?_isSome_iff, hkey]
        exact apart.2 p hp
      rw [if_pos hkey, if_pos (congrArg some hkey.symm), unnamed, Option.none_or]
    · have hname : some p.name ≠ some key := fun e => hkey (Option.some.inj e).symm
      rw [if_neg hkey, if_neg hname]

theorem find?_ofTokens_of_apart (fits : ∀ t ∈ tokens, Fits sp t)
    (apart : Apart parameters (bareValues sp tokens).length (namedValues sp tokens))
    (key : String) :
    Entries.find? (ofTokens sp parameters tokens).1.arguments key =
      argumentFor parameters (namedValues sp tokens) (bareValues sp tokens) key := by
  induction tokens using List.reverseRecOn with
  | nil => cases parameters <;> rfl
  | append_singleton before token ih =>
    have hbefore : ∀ t ∈ before, Fits sp t := fun t ht => fits t (List.mem_append_left _ ht)
    obtain ⟨fields, split, two⟩ := fits token (by simp)
    obtain ⟨next, added⟩ := exists_add_eq_some two (ofTokens sp parameters before).1 parameters
    rw [ofTokens_append_singleton hbefore split added, arguments_of_add added,
      position_ofTokens hbefore]
    rw [bareValues_append, namedValues_append] at apart ⊢
    have ih := ih hbefore (apart.of_append (by simp))
    rcases two with one | two
    · obtain ⟨value, rfl⟩ := List.length_eq_one_iff.mp one
      have hbare : bareValues sp [token] = [value] := bareValues_cons_single split []
      have hnamed : namedValues sp [token] = [] := namedValues_cons_single split []
      rw [hbare, hnamed, List.append_nil] at apart ⊢
      rw [argumentFor_append_value (by simpa using apart), ← ih]
      cases place : parameters[(bareValues sp before).length]? with
      | none => simp [bound?, place]
      | some p =>
        have hname : key = p.name ↔ some p.name = some key := by
          rw [Option.some_inj, eq_comm]
        simp only [bound?, place, Option.map_some, Entries.find?_put, hname]
    · obtain ⟨name, value, rfl⟩ := List.length_eq_two.mp two
      have hbare : bareValues sp [token] = [] := bareValues_cons_pair split []
      have hnamed : namedValues sp [token] = [(name, value)] := namedValues_cons_pair split []
      rw [hbare, hnamed, List.append_nil] at apart ⊢
      rw [argumentFor_append_named apart.1, ← ih]
      exact Entries.find?_put ..

inductive Interleaves {α : Type} : List α → List α → List α → Prop
  | nil : Interleaves [] [] []
  | left {a : α} {first second whole : List α} (rest : Interleaves first second whole) :
      Interleaves (a :: first) second (a :: whole)
  | right {a : α} {first second whole : List α} (rest : Interleaves first second whole) :
      Interleaves first (a :: second) (a :: whole)

namespace Interleaves

variable {α β : Type} {first second whole : List α}

theorem swap (h : Interleaves first second whole) : Interleaves second first whole := by
  induction h with
  | nil => exact .nil
  | left _ ih => exact .right ih
  | right _ ih => exact .left ih

theorem mem_or (h : Interleaves first second whole) {a : α} (mem : a ∈ whole) :
    a ∈ first ∨ a ∈ second := by
  induction h with
  | nil => exact .inl mem
  | left _ ih =>
    rcases List.mem_cons.mp mem with rfl | mem
    · exact .inl List.mem_cons_self
    · exact (ih mem).imp_left (List.mem_cons_of_mem _)
  | right _ ih =>
    rcases List.mem_cons.mp mem with rfl | mem
    · exact .inr List.mem_cons_self
    · exact (ih mem).imp_right (List.mem_cons_of_mem _)

theorem filterMap_eq {f : α → Option β} (h : Interleaves first second whole)
    (none : ∀ a ∈ second, f a = none) : whole.filterMap f = first.filterMap f := by
  induction h with
  | nil => rfl
  | @left a first second whole _ ih =>
    rw [List.filterMap_cons, List.filterMap_cons, ih none]
  | right _ ih =>
    rw [List.forall_mem_cons] at none
    rw [List.filterMap_cons_none none.1, ih none.2]

end Interleaves

def IsValue (sp : Splitter) (token : String) : Prop := ∃ value, sp.split token = .ok [value]

def IsPair (sp : Splitter) (token : String) : Prop :=
  ∃ key value, sp.split token = .ok [key, value]

theorem IsValue.fits {token : String} (h : IsValue sp token) : Fits sp token := by
  obtain ⟨value, split⟩ := h
  exact ⟨[value], split, .inl rfl⟩

theorem IsPair.fits {token : String} (h : IsPair sp token) : Fits sp token := by
  obtain ⟨key, value, split⟩ := h
  exact ⟨[key, value], split, .inr rfl⟩

theorem length_bareValues (h : ∀ t ∈ values, IsValue sp t) :
    (bareValues sp values).length = values.length := by
  induction values with
  | nil => rfl
  | cons token values ih =>
    obtain ⟨value, split⟩ := h token List.mem_cons_self
    rw [bareValues_cons_single split, List.length_cons, List.length_cons,
      ih fun t ht => h t (List.mem_cons_of_mem token ht)]

namespace Interleaves

theorem bareValues_eq (h : Interleaves values pairs tokens) (hpairs : ∀ t ∈ pairs, IsPair sp t) :
    bareValues sp tokens = bareValues sp values := by
  refine h.filterMap_eq fun t ht => ?_
  obtain ⟨key, value, split⟩ := hpairs t ht
  rw [split]

theorem namedValues_eq (h : Interleaves values pairs tokens)
    (hvalues : ∀ t ∈ values, IsValue sp t) : namedValues sp tokens = namedValues sp pairs := by
  refine h.swap.filterMap_eq fun t ht => ?_
  obtain ⟨value, split⟩ := hvalues t ht
  rw [split]

/-- What an interleaved row binds is settled by its bare values and its pairs alone. -/
theorem exists_ofTokens_eq (h : Interleaves values pairs tokens)
    (hvalues : ∀ t ∈ values, IsValue sp t) (hpairs : ∀ t ∈ pairs, IsPair sp t)
    (apart : Apart parameters values.length (namedValues sp pairs)) :
    ∃ b, ofTokens sp parameters tokens = (b, none) ∧
      (∀ key, Entries.find? b.arguments key =
        argumentFor parameters (namedValues sp pairs) (bareValues sp values) key) ∧
      b.surplus = (bareValues sp values).drop parameters.length := by
  have fits : ∀ t ∈ tokens, Fits sp t := fun t ht =>
    (h.mem_or ht).elim (fun hv => (hvalues t hv).fits) fun hp => (hpairs t hp).fits
  have bound : ofTokens sp parameters tokens = _ := ofTokens_of_fits fits
  have surplus := surplus_of_addAll bound
  have hbare := h.bareValues_eq hpairs
  have hnamed := h.namedValues_eq hvalues
  refine ⟨_, bound, fun key => ?_, ?_⟩
  · rw [← hnamed, ← hbare]
    refine find?_ofTokens_of_apart fits ?_ key
    rwa [hbare, hnamed, length_bareValues hvalues]
  · simpa [empty, hbare] using surplus

end Interleaves

theorem ofTokens_eq_none_iff :
    (ofTokens sp parameters tokens).2 = none ↔ ∀ t ∈ tokens, Fits sp t := by
  constructor
  · intro bound
    by_contra misfits
    obtain ⟨before, token, after, rfl, fits, misfit⟩ := Session.exists_first_misfit misfits
    cases split : sp.split token with
    | error e =>
      rw [ofTokens_of_unreadable fits split] at bound
      cases bound
    | ok fields =>
      have hlength : ¬(fields.length = 1 ∨ fields.length = 2) := fun two =>
        misfit ⟨fields, split, two⟩
      rw [ofTokens_of_misfit fits split hlength] at bound
      cases bound
  · intro fits
    rw [ofTokens_of_fits fits]

/-- Where the pairs stand does not matter. Rows that hold the same bare values in the same order and
the same pairs in any order and at any places bind the same map and have the same surplus, if the
pairs name distinct keys and none that the bare values bind. Whether a row fails does not depend on
its order at all. -/
theorem ofTokens_interleaved (sp : Splitter) (parameters : List Parameter) :
    (∀ values pairs pairs' tokens tokens' : List String,
      (∀ t ∈ values, IsValue sp t) → (∀ t ∈ pairs, IsPair sp t) →
      Apart parameters values.length (namedValues sp pairs) → pairs.Perm pairs' →
      Interleaves values pairs tokens → Interleaves values pairs' tokens' →
      ∃ b b', ofTokens sp parameters tokens = (b, none) ∧
        ofTokens sp parameters tokens' = (b', none) ∧
        (∀ key, Entries.find? b.arguments key = Entries.find? b'.arguments key) ∧
        b.surplus = b'.surplus) ∧
    ∀ tokens tokens' : List String, tokens.Perm tokens' →
      ((ofTokens sp parameters tokens).2 = none ↔ (ofTokens sp parameters tokens').2 = none) := by
  constructor
  · intro values pairs pairs' tokens tokens' hvalues hpairs apart perm row row'
    have hnamed : (namedValues sp pairs).Perm (namedValues sp pairs') := perm.filterMap _
    have hpairs' : ∀ t ∈ pairs', IsPair sp t := fun t ht => hpairs t (perm.mem_iff.mpr ht)
    obtain ⟨b, bound, arguments, surplus⟩ := row.exists_ofTokens_eq hvalues hpairs apart
    obtain ⟨b', bound', arguments', surplus'⟩ :=
      row'.exists_ofTokens_eq hvalues hpairs' (apart.of_perm hnamed)
    refine ⟨b, b', bound, bound', fun key => ?_, surplus.trans surplus'.symm⟩
    rw [arguments, arguments', argumentFor, argumentFor, Entries.find?_eq_of_perm apart.1 hnamed]
  · intro tokens tokens' perm
    simp only [ofTokens_eq_none_iff, perm.mem_iff]

theorem ofTokens_interleaved_named :
    let parameters : List Parameter := [⟨"a", "", ""⟩, ⟨"b", "", ""⟩, ⟨"c", "", ""⟩]
    let tokens := ["c=3", "'1=1'", "k=v", "x="]
    let tokens' := ["'1=1'", "x=", "k=v", "c=3"]
    Interleaves ["'1=1'", "x="] ["c=3", "k=v"] tokens ∧
      Interleaves ["'1=1'", "x="] ["k=v", "c=3"] tokens' ∧
      (∃ b b', ofTokens Splitter.fields parameters tokens = (b, none) ∧
        ofTokens Splitter.fields parameters tokens' = (b', none) ∧
        (∀ key, Entries.find? b.arguments key = Entries.find? b'.arguments key) ∧
        b.surplus = b'.surplus) ∧
      ((ofTokens Splitter.fields parameters ["1", "a=b=c"]).2 = none ↔
        (ofTokens Splitter.fields parameters ["a=b=c", "1"]).2 = none) := by
  intro parameters tokens tokens'
  have row : Interleaves ["'1=1'", "x="] ["c=3", "k=v"] tokens :=
    .right (.left (.right (.left .nil)))
  have row' : Interleaves ["'1=1'", "x="] ["k=v", "c=3"] tokens' :=
    .left (.left (.right (.right .nil)))
  have values : ∀ t ∈ ["'1=1'", "x="], IsValue Splitter.fields t := by
    simp only [List.forall_mem_cons]
    exact ⟨⟨"1=1", by decide⟩, ⟨"x", by decide⟩, by simp⟩
  have pairs : ∀ t ∈ ["c=3", "k=v"], IsPair Splitter.fields t := by
    simp only [List.forall_mem_cons]
    exact ⟨⟨"c", "3", by decide⟩, ⟨"k", "v", by decide⟩, by simp⟩
  have apart : Apart parameters 2 (namedValues Splitter.fields ["c=3", "k=v"]) := by
    unfold Apart
    decide
  obtain ⟨same, reordered⟩ := ofTokens_interleaved Splitter.fields parameters
  exact ⟨row, row', same _ _ _ _ _ values pairs apart (.swap ..) row row',
    reordered _ _ (.swap ..)⟩

end CommandShell.Binding
