import CommandShell.Proofs.Entries
import Mathlib.Data.List.Induction

/-! A registry under any row of registrations and changes of case folding. What stands under a
registered name is what was last accepted for exactly that name, whichever spellings came and went
in between, and no registration touches the names that differ from its own in more than case. -/

namespace CommandShell.Registry

variable {α : Type} {r : Registry α}

theorem find?_insert (r : Registry α) (name : String) (value : α) (query : String) :
    Entries.find? (r.insert name value).entries query =
      if query = name then some value
      else if r.folding = true ∧ Text.lower query = Text.lower name then none
      else Entries.find? r.entries query := by
  rw [insert, Entries.find?_put]
  by_cases folding : r.folding = true
  · rw [if_pos folding, Entries.find?_filter r.entries fun n => !Text.sameFolded n name]
    by_cases same : Text.lower query = Text.lower name <;>
      simp [folding, Text.sameFolded, same]
  · simp [folding]

theorem nodup_names_insert (nodup : r.names.Nodup) (name : String) (value : α) :
    (r.insert name value).names.Nodup := by
  refine Entries.nodup_keys_put ?_ name value
  split
  · exact Entries.nodup_keys_filter nodup _
  · exact nodup

theorem filter_entries_insert (r : Registry α) (name : String) (value : α) :
    (r.insert name value).entries.filter (fun p => !Text.sameFolded p.1 name) =
      r.entries.filter fun p => !Text.sameFolded p.1 name := by
  have fresh : (!Text.sameFolded name name) = false := by simp [Text.sameFolded]
  rw [insert, Entries.filter_put_of_not (p := fun n => !Text.sameFolded n name) _ fresh]
  split
  · rw [List.filter_filter]
    simp
  · rfl

inductive Change (α : Type)
  | register (name : String) (offered : Export α)
  | refold (folding : Bool)

/-- The name and the command of a registration that is not refused. -/
def Change.accepted? : Change α → Option (String × α)
  | .register name (.command value) => if checkName name = none then some (name, value) else none
  | _ => none

/-- A refused registration leaves the registry as it is. -/
def change (r : Registry α) : Change α → Registry α
  | .register name offered =>
    match r.register name offered with
    | .ok r' => r'
    | .error _ => r
  | .refold folding => { r with folding := folding }

def changeAll (r : Registry α) (changes : List (Change α)) : Registry α := changes.foldl change r

def accepted (changes : List (Change α)) : List (String × α) := changes.filterMap Change.accepted?

theorem register_eq_ok_iff {name : String} {offered : Export α} {r' : Registry α} :
    r.register name offered = .ok r' ↔ ∃ value,
      (Change.register name offered).accepted? = some (name, value) ∧ r' = r.insert name value := by
  cases offered <;> cases h : checkName name <;>
    simp [register, Change.accepted?, h, eq_comm]

theorem change_register_cases (r : Registry α) (name : String) (offered : Export α) :
    (∃ value, accepted [.register name offered] = [(name, value)] ∧ checkName name = none ∧
      r.change (.register name offered) = r.insert name value) ∨
    accepted [.register name offered] = [] ∧ r.change (.register name offered) = r := by
  cases h : r.register name offered with
  | ok r' =>
    obtain ⟨value, haccepted, rfl⟩ := register_eq_ok_iff.mp h
    exact .inl ⟨value, by simp [accepted, haccepted], (register_eq_ok h).1,
      by simp only [change, h]⟩
  | error e =>
    refine .inr ⟨?_, by simp only [change, h]⟩
    cases offered <;> cases hn : checkName name <;>
      simp_all [register, accepted, Change.accepted?]

theorem accepted_append (before after : List (Change α)) :
    accepted (before ++ after) = accepted before ++ accepted after :=
  List.filterMap_append

theorem changeAll_induction {P : Registry α → List (String × α) → Prop} {changes : List (Change α)}
    (step : ∀ c ∈ changes, ∀ r log, P r log → P (r.change c) (log ++ accepted [c]))
    {log : List (String × α)} (start : P r log) :
    P (r.changeAll changes) (log ++ accepted changes) := by
  induction changes generalizing r log with
  | nil => simpa [accepted, changeAll] using start
  | cons c changes ih =>
    rw [← List.singleton_append, accepted_append, ← List.append_assoc]
    exact ih (fun c hc => step c (List.mem_cons_of_mem _ hc))
      (step c List.mem_cons_self r log start)

structure Records (r : Registry α) (log : List (String × α)) : Prop where
  distinct : r.names.Nodup
  checked : ∀ n ∈ r.names, checkName n = none
  latest : ∀ n ∈ r.names, Entries.find? r.entries n = Entries.find? log.reverse n

namespace Records

variable {log : List (String × α)}

theorem empty (folding : Bool) : (empty folding : Registry α).Records [] where
  distinct := List.nodup_nil
  checked := by simp [names, Registry.empty, Entries.keys]
  latest := by simp [names, Registry.empty, Entries.keys]

theorem insert (h : r.Records log) {name : String} (checked : checkName name = none) (value : α) :
    (r.insert name value).Records (log ++ [(name, value)]) where
  distinct := nodup_names_insert h.distinct name value
  checked n hn := by
    rcases mem_names_of_mem_names_insert hn with rfl | hn
    · exact checked
    · exact h.checked n hn
  latest n hn := by
    rw [names, ← Entries.find?_isSome_iff] at hn
    rw [List.reverse_concat, Entries.find?_cons]
    rw [find?_insert] at hn ⊢
    by_cases hname : n = name
    · rw [if_pos hname, if_pos hname]
    · rw [if_neg hname] at hn ⊢
      rw [if_neg hname]
      split at hn
      · cases hn
      · next apart =>
        rw [if_neg apart]
        exact h.latest n ((Entries.find?_isSome_iff _ n).mp hn)

theorem change (h : r.Records log) (c : Change α) :
    (r.change c).Records (log ++ accepted [c]) := by
  cases c with
  | refold folding =>
    rw [accepted, List.filterMap_cons_none rfl, List.filterMap_nil, List.append_nil]
    exact ⟨h.distinct, h.checked, h.latest⟩
  | register name offered =>
    rcases r.change_register_cases name offered with ⟨value, hlog, checked, heq⟩ | ⟨hlog, heq⟩
    · rw [heq, hlog]
      exact h.insert checked value
    · rwa [heq, hlog, List.append_nil]

theorem changeAll (h : r.Records log) (changes : List (Change α)) :
    (r.changeAll changes).Records (log ++ accepted changes) :=
  changeAll_induction (fun c _ _ _ h => h.change c) h

end Records

theorem isReserved_iff {name : String} :
    isReserved name = true ↔ name = "exit" ∨ name = "quit" := by
  simp [isReserved, reservedNames]

theorem checkName_eq_none_iff {name : String} :
    checkName name = none ↔
      name ≠ "" ∧ Text.strip name = name ∧ name ≠ "exit" ∧ name ≠ "quit" := by
  unfold checkName
  split_ifs with malformed reserved
  · exact iff_of_false (by simp) fun h => malformed.elim h.1 fun padded => padded h.2.1
  · exact iff_of_false (by simp) fun h => (isReserved_iff.mp reserved).elim h.2.2.1 h.2.2.2
  · rw [not_or, not_not] at malformed
    rw [isReserved_iff, not_or] at reserved
    exact iff_of_true rfl ⟨malformed.1, malformed.2, reserved⟩

theorem get?_of_mem {name : String} (registered : name ∈ r.names) :
    r.get? name = Entries.find? r.entries name := by
  rw [get?, resolve_of_mem registered]
  rfl

theorem find?_insert_self (r : Registry α) (name : String) (value : α) :
    Entries.find? (r.insert name value).entries name = some value := by
  rw [find?_insert, if_pos rfl]

theorem mem_names_insert (r : Registry α) (name : String) (value : α) :
    name ∈ (r.insert name value).names := by
  rw [names, ← Entries.find?_isSome_iff, find?_insert_self]
  rfl

theorem get?_insert (r : Registry α) (name : String) (value : α) :
    (r.insert name value).get? name = some value := by
  rw [get?_of_mem (mem_names_insert r name value), find?_insert_self]

theorem get?_insert_of_folding (folding : r.folding = true) (name : String) (value : α)
    {word : String} (spelled : Text.lower word = Text.lower name) :
    (r.insert name value).get? word = some value := by
  have only : ∀ n ∈ (r.insert name value).names, Text.lower n = Text.lower name → n = name := by
    intro n hn same
    rcases mem_names_insert_of_folding folding hn with h | ⟨-, apart⟩
    · exact h
    · exact absurd same apart
  have resolved : (r.insert name value).resolve word = some name :=
    resolve_of_only (r := r.insert name value) folding (mem_names_insert r name value) only spelled
  rw [get?, resolved]
  exact find?_insert_self r name value

/-- What holds of a registry after any row of registrations and changes of case folding. Its names
are distinct and have passed the checks; each is found under itself, with or without folding, with
what was last accepted for exactly that name. A change of folding moves no entry and a refused
registration changes nothing; an accepted one is found under its name at once, and in a folding
registry under every spelling of it, while what differs from it in more than case stays in place. -/
theorem changeAll_invariant (folding : Bool) (changes : List (Change α)) :
    let r := (empty folding).changeAll changes
    r.names.Nodup ∧
    (∀ n ∈ r.names, n ≠ "" ∧ Text.strip n = n ∧ n ≠ "exit" ∧ n ≠ "quit") ∧
    (∀ n ∈ r.names, ∀ flag, (r.change (.refold flag)).resolve n = some n ∧
      ∃ value, (r.change (.refold flag)).get? n = some value ∧
        Entries.find? (accepted changes).reverse n = some value) ∧
    (∀ flag, (r.change (.refold flag)).entries = r.entries) ∧
    (∀ name offered e, r.register name offered = .error e →
      r.change (.register name offered) = r) ∧
    ∀ name offered r', r.register name offered = .ok r' →
      r.change (.register name offered) = r' ∧
      ∃ value, offered = .command value ∧ r'.get? name = some value ∧
        (r.folding = true → ∀ word, Text.lower word = Text.lower name →
          r'.get? word = some value) ∧
        r'.entries.filter (fun p => !Text.sameFolded p.1 name) =
          r.entries.filter fun p => !Text.sameFolded p.1 name := by
  intro r
  have records : r.Records (accepted changes) := (Records.empty folding).changeAll changes
  refine ⟨records.distinct, fun n hn => checkName_eq_none_iff.mp (records.checked n hn),
    fun n hn flag => ?_, fun _ => rfl, fun name offered e refused => ?_,
    fun name offered r' accepts => ?_⟩
  · have registered : n ∈ (r.change (.refold flag)).names := hn
    refine ⟨resolve_of_mem registered, ?_⟩
    obtain ⟨value, found⟩ := Option.isSome_iff_exists.mp ((Entries.find?_isSome_iff _ n).mpr hn)
    exact ⟨value, (get?_of_mem registered).trans found, (records.latest n hn).symm.trans found⟩
  · simp only [change, refused]
  · obtain ⟨-, value, hoffered, rfl⟩ := register_eq_ok accepts
    refine ⟨by simp only [change, accepts], value, hoffered, get?_insert r name value, ?_,
      filter_entries_insert r name value⟩
    intro hfolding word spelled
    exact get?_insert_of_folding hfolding name value spelled

theorem changeAll_invariant_spellings :
    let changes := [.register "Foo" (.command 1), .register "foo" (.command 2), .refold true,
      .register "FOO" (.command 3), .refold false, .register "Foo" (.command 4)]
    let r := (empty false : Registry Nat).changeAll changes
    r.names = ["FOO", "Foo"] ∧ (r.change (.refold true)).get? "FOO" = some 3 ∧
      (r.change (.refold true)).get? "Foo" = some 4 := by
  intro changes r
  have listed : r.names = ["FOO", "Foo"] := by decide
  obtain ⟨-, -, own, -⟩ := changeAll_invariant false changes
  obtain ⟨-, value, upper, last⟩ := own "FOO" (by rw [listed]; decide) true
  obtain ⟨-, value', capital, last'⟩ := own "Foo" (by rw [listed]; decide) true
  have hvalue : Entries.find? (accepted changes).reverse "FOO" = some 3 := by decide
  have hvalue' : Entries.find? (accepted changes).reverse "Foo" = some 4 := by decide
  exact ⟨listed, upper.trans (last.symm.trans hvalue), capital.trans (last'.symm.trans hvalue')⟩

end CommandShell.Registry
