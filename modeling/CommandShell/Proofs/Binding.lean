import CommandShell.Proofs.Session.Dispatch
import Mathlib.Data.List.Induction

/-! What a row of tokens binds. A token of two fields binds its key, and a bare value binds the
parameter in whose place it stands among the bare values; of the tokens that bind a key the last one
counts, and bare values without a parameter are surplus. A row with any other token is refused for
the first such token. -/

namespace CommandShell

namespace Binding

variable {sp : Splitter} {parameters : List Parameter} {tokens : List String} {b last : Binding}
  {key value : String}

/-- What the fields of a token bind, `position` being the number of bare values before it. -/
def bound? (parameters : List Parameter) (position : Nat) : List String → Option (String × String)
  | [value] => parameters[position]?.map fun p => (p.name, value)
  | [key, value] => some (key, value)
  | _ => none

def BoundAt (sp : Splitter) (parameters : List Parameter) (tokens : List String) (i : Nat)
    (key value : String) : Prop :=
  ∃ token fields, tokens[i]? = some token ∧ sp.split token = .ok fields ∧
    bound? parameters (bareValues sp (tokens.take i)).length fields = some (key, value)

theorem bareValues_append (sp : Splitter) (before after : List String) :
    bareValues sp (before ++ after) = bareValues sp before ++ bareValues sp after :=
  List.filterMap_append

theorem arguments_of_add {fields : List String} {next : Binding}
    (added : b.add parameters fields = some next) :
    next.arguments = match bound? parameters b.position fields with
      | some (key, value) => Entries.put b.arguments key value
      | none => b.arguments := by
  match fields with
  | [] | _ :: _ :: _ :: _ => cases added
  | [key, value] =>
    cases added
    rfl
  | [value] =>
    simp only [add] at added
    cases hp : parameters[b.position]? with
    | none =>
      rw [hp] at added
      cases added
      simp [bound?, hp]
    | some p =>
      rw [hp] at added
      cases added
      simp [bound?, hp]

theorem position_of_add {fields : List String} {next : Binding} {token : String}
    (split : sp.split token = .ok fields) (added : b.add parameters fields = some next) :
    next.position = b.position + (bareValues sp [token]).length := by
  match fields with
  | [] | _ :: _ :: _ :: _ => cases added
  | [key, value] =>
    cases added
    rw [bareValues_cons_pair split]
    rfl
  | [value] =>
    rw [bareValues_cons_single split]
    simp only [add] at added
    split at added <;> cases added <;> rfl

theorem ofTokens_append_singleton {token : String} {fields : List String} {next : Binding}
    (fits : ∀ t ∈ tokens, Fits sp t) (split : sp.split token = .ok fields)
    (added : (ofTokens sp parameters tokens).1.add parameters fields = some next) :
    ofTokens sp parameters (tokens ++ [token]) = (next, none) := by
  rw [ofTokens, addAll_append_of_fits fits, addAll, split, ← ofTokens]
  simp only [added, addAll]

theorem position_ofTokens (fits : ∀ t ∈ tokens, Fits sp t) :
    (ofTokens sp parameters tokens).1.position = (bareValues sp tokens).length := by
  induction tokens using List.reverseRecOn with
  | nil => rfl
  | append_singleton before token ih =>
    have hbefore : ∀ t ∈ before, Fits sp t := fun t ht => fits t (List.mem_append_left _ ht)
    obtain ⟨fields, split, two⟩ := fits token (by simp)
    obtain ⟨next, added⟩ := exists_add_eq_some two (ofTokens sp parameters before).1 parameters
    rw [ofTokens_append_singleton hbefore split added, position_of_add split added, ih hbefore,
      bareValues_append, List.length_append]

/-- Of the tokens that bind a key the last one binds it to a value. -/
def LastBound (sp : Splitter) (parameters : List Parameter) (tokens : List String)
    (key value : String) : Prop :=
  ∃ i, BoundAt sp parameters tokens i key value ∧
    ∀ j other, i < j → ¬BoundAt sp parameters tokens j key other

namespace BoundAt

variable {i : Nat}

theorem lt_length (h : BoundAt sp parameters tokens i key value) : i < tokens.length := by
  obtain ⟨token, fields, place, -⟩ := h
  exact (List.getElem?_eq_some_iff.mp place).1

theorem append_iff (within : i < tokens.length) (rest : List String) :
    BoundAt sp parameters (tokens ++ rest) i key value ↔
      BoundAt sp parameters tokens i key value := by
  simp only [BoundAt, List.getElem?_append_left within, List.take_append_of_le_length within.le]

theorem last_iff {token : String} {fields : List String} (split : sp.split token = .ok fields) :
    BoundAt sp parameters (tokens ++ [token]) tokens.length key value ↔
      bound? parameters (bareValues sp tokens).length fields = some (key, value) := by
  constructor
  · rintro ⟨token', fields', place, split', bound⟩
    obtain rfl : token = token' := by simpa using place
    obtain rfl : fields = fields' := by
      rw [split] at split'
      exact Except.ok.inj split'
    simpa using bound
  · intro bound
    exact ⟨token, fields, by simp, split, by simpa using bound⟩

end BoundAt

namespace LastBound

variable {token : String}

theorem append_singleton_of_not
    (unbound : ∀ other, ¬BoundAt sp parameters (tokens ++ [token]) tokens.length key other) :
    LastBound sp parameters (tokens ++ [token]) key value ↔
      LastBound sp parameters tokens key value := by
  have within {j : Nat} {other : String}
      (h : BoundAt sp parameters (tokens ++ [token]) j key other) : j < tokens.length := by
    have hlength := h.lt_length
    rw [List.length_append, List.length_singleton] at hlength
    have hne : j ≠ tokens.length := fun e => unbound other (e ▸ h)
    omega
  constructor
  · rintro ⟨i, bound, later⟩
    refine ⟨i, (BoundAt.append_iff (within bound) [token]).mp bound, fun j other hj h => ?_⟩
    exact later j other hj ((BoundAt.append_iff h.lt_length [token]).mpr h)
  · rintro ⟨i, bound, later⟩
    refine ⟨i, (BoundAt.append_iff bound.lt_length [token]).mpr bound, fun j other hj h => ?_⟩
    exact later j other hj ((BoundAt.append_iff (within h) [token]).mp h)

theorem append_singleton_of_bound {fields : List String} {bound : String}
    (split : sp.split token = .ok fields)
    (hbound : bound? parameters (bareValues sp tokens).length fields = some (key, bound)) :
    LastBound sp parameters (tokens ++ [token]) key value ↔ value = bound := by
  have last : BoundAt sp parameters (tokens ++ [token]) tokens.length key bound :=
    (BoundAt.last_iff split).mpr hbound
  constructor
  · rintro ⟨i, binds, later⟩
    have hlength := binds.lt_length
    rw [List.length_append, List.length_singleton] at hlength
    have hi : i = tokens.length := by
      by_contra hne
      exact later _ _ (by omega) last
    rw [hi, BoundAt.last_iff split, hbound] at binds
    exact (congrArg Prod.snd (Option.some.inj binds)).symm
  · rintro rfl
    refine ⟨tokens.length, last, fun j other hj h => ?_⟩
    have hlength := h.lt_length
    rw [List.length_append, List.length_singleton] at hlength
    omega

end LastBound

theorem find?_ofTokens (fits : ∀ t ∈ tokens, Fits sp t) :
    Entries.find? (ofTokens sp parameters tokens).1.arguments key = some value ↔
      LastBound sp parameters tokens key value := by
  induction tokens using List.reverseRecOn with
  | nil =>
    constructor
    · intro h
      cases h
    · rintro ⟨i, bound, -⟩
      exact absurd bound.lt_length (Nat.not_lt_zero i)
  | append_singleton before token ih =>
    have hbefore : ∀ t ∈ before, Fits sp t := fun t ht => fits t (List.mem_append_left _ ht)
    obtain ⟨fields, split, two⟩ := fits token (by simp)
    obtain ⟨next, added⟩ := exists_add_eq_some two (ofTokens sp parameters before).1 parameters
    rw [ofTokens_append_singleton hbefore split added, arguments_of_add added,
      position_ofTokens hbefore]
    cases hbound : bound? parameters (bareValues sp before).length fields with
    | none =>
      rw [LastBound.append_singleton_of_not, ← ih hbefore]
      intro other h
      rw [BoundAt.last_iff split, hbound] at h
      cases h
    | some bound =>
      obtain ⟨key', value'⟩ := bound
      dsimp only
      rw [Entries.find?_put]
      by_cases hkey : key = key'
      · subst hkey
        rw [if_pos rfl, LastBound.append_singleton_of_bound split hbound, Option.some_inj]
        exact eq_comm
      · rw [if_neg hkey, LastBound.append_singleton_of_not, ← ih hbefore]
        intro other h
        rw [BoundAt.last_iff split, hbound] at h
        exact hkey (congrArg Prod.fst (Option.some.inj h)).symm

theorem exists_lastBound_iff :
    (∃ value, LastBound sp parameters tokens key value) ↔
      ∃ i value, BoundAt sp parameters tokens i key value := by
  constructor
  · rintro ⟨value, i, bound, -⟩
    exact ⟨i, value, bound⟩
  · rintro ⟨i, value, bound⟩
    -- on the number of places after the token
    induction hn : tokens.length - i using Nat.strong_induction_on generalizing i value with
    | _ n ih =>
      by_cases later : ∃ j other, i < j ∧ BoundAt sp parameters tokens j key other
      · obtain ⟨j, other, hj, h⟩ := later
        have hlength := h.lt_length
        exact ih (tokens.length - j) (by omega) j other h rfl
      · exact ⟨value, i, bound, fun j other hj h => later ⟨j, other, hj, h⟩⟩

theorem nodup_keys_ofTokens (fits : ∀ t ∈ tokens, Fits sp t) :
    (Entries.keys (ofTokens sp parameters tokens).1.arguments).Nodup := by
  induction tokens using List.reverseRecOn with
  | nil => exact List.nodup_nil
  | append_singleton before token ih =>
    have hbefore : ∀ t ∈ before, Fits sp t := fun t ht => fits t (List.mem_append_left _ ht)
    obtain ⟨fields, split, two⟩ := fits token (by simp)
    obtain ⟨next, added⟩ := exists_add_eq_some two (ofTokens sp parameters before).1 parameters
    rw [ofTokens_append_singleton hbefore split added, arguments_of_add added]
    split
    · exact Entries.nodup_keys_put (ih hbefore) _ _
    · exact ih hbefore

theorem ofTokens_of_unreadable {before after : List String} {token : String} {e : OpenQuote}
    (fits : ∀ t ∈ before, Fits sp t) (split : sp.split token = .error e) :
    ofTokens sp parameters (before ++ token :: after) =
      ((ofTokens sp parameters before).1, some (.tokenize token e.reason)) := by
  rw [ofTokens, addAll_append_of_fits fits, addAll, split, ← ofTokens]
  simp only [Splitter.text_of_split_error split]

/-- What a row of tokens means. If each token has one or two fields, a key is bound if a token binds
it, to what the last such token says, and the bare values beyond the parameters are surplus. Else
the row fails for the first token that is not so, whether it cannot be read or has another number of
fields. -/
theorem ofTokens_meaning (sp : Splitter) (parameters : List Parameter) (tokens : List String) :
    ((∀ t ∈ tokens, Fits sp t) → ∃ b, ofTokens sp parameters tokens = (b, none) ∧
      (Entries.keys b.arguments).Nodup ∧
      (∀ key value, Entries.find? b.arguments key = some value ↔
        LastBound sp parameters tokens key value) ∧
      (∀ key, key ∈ Entries.keys b.arguments ↔
        ∃ i value, BoundAt sp parameters tokens i key value) ∧
      b.surplus = (bareValues sp tokens).drop parameters.length) ∧
    ((¬∀ t ∈ tokens, Fits sp t) → ∃ before token after, tokens = before ++ token :: after ∧
      (∀ t ∈ before, Fits sp t) ∧
      match sp.split token with
      | .error e => (ofTokens sp parameters tokens).2 = some (.tokenize token e.reason)
      | .ok fields => (fields.length = 0 ∨ 3 ≤ fields.length) ∧
        (ofTokens sp parameters tokens).2 = some (.invalidArgument token)) := by
  constructor
  · intro fits
    have bound : ofTokens sp parameters tokens = _ := ofTokens_of_fits fits
    have surplus := surplus_of_addAll bound
    refine ⟨_, bound, nodup_keys_ofTokens fits, fun _ _ => find?_ofTokens fits, fun key => ?_, ?_⟩
    · rw [← Entries.find?_isSome_iff, Option.isSome_iff_exists, ← exists_lastBound_iff]
      exact exists_congr fun _ => find?_ofTokens fits
    · simpa [empty] using surplus
  · intro misfits
    obtain ⟨before, token, after, rfl, fits, misfit⟩ := Session.exists_first_misfit misfits
    refine ⟨before, token, after, rfl, fits, ?_⟩
    cases split : sp.split token with
    | error e => rw [ofTokens_of_unreadable fits split]
    | ok fields =>
      have hlength : ¬(fields.length = 1 ∨ fields.length = 2) := fun two =>
        misfit ⟨fields, split, two⟩
      rw [ofTokens_of_misfit fits split hlength]
      exact ⟨by omega, rfl⟩

theorem ofTokens_meaning_mixed :
    let parameters : List Parameter := [⟨"a", "", ""⟩, ⟨"b", "", ""⟩]
    let tokens := ["b=6", "1", "a=5", "2", "'x=1'"]
    LastBound Splitter.fields parameters tokens "a" "5" ∧
      LastBound Splitter.fields parameters tokens "b" "2" ∧
      (bareValues Splitter.fields tokens).drop parameters.length = ["x=1"] := by
  intro parameters tokens
  have fits : ∀ t ∈ tokens, Fits Splitter.fields t := by
    simp only [tokens, List.forall_mem_cons]
    exact ⟨⟨["b", "6"], by decide, .inr rfl⟩, ⟨["1"], by decide, .inl rfl⟩,
      ⟨["a", "5"], by decide, .inr rfl⟩, ⟨["2"], by decide, .inl rfl⟩,
      ⟨["x=1"], by decide, .inl rfl⟩, by simp⟩
  have bound : ofTokens Splitter.fields parameters tokens =
      (⟨[("b", "2"), ("a", "5")], 3, ["x=1"]⟩, none) := by decide
  obtain ⟨b, heq, -, last, -, surplus⟩ :=
    (ofTokens_meaning Splitter.fields parameters tokens).1 fits
  rw [bound] at heq
  cases heq
  exact ⟨(last "a" "5").mp rfl, (last "b" "2").mp rfl, surplus.symm⟩

end Binding
end CommandShell
