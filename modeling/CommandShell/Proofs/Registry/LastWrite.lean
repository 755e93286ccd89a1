import CommandShell.Proofs.Registry.Changes
import Mathlib.Data.Finset.Card

/-! A folding registry as a map. While case does not count, the entries are the last accepted
registrations of each name, a name being known by its lower-case form, and every query is answered
from the last registration of one of its spellings. -/

namespace CommandShell.Registry

variable {α : Type} {r : Registry α} {log : List (String × α)}

/-- The last entry of a log whose name is a spelling of a word. -/
def lastSpelled (log : List (String × α)) (word : String) : Option (String × α) :=
  log.reverse.find? fun p => Text.sameFolded p.1 word

theorem lastSpelled_concat (log : List (String × α)) (name : String) (value : α) (word : String) :
    lastSpelled (log ++ [(name, value)]) word =
      if Text.lower name = Text.lower word then some (name, value) else lastSpelled log word := by
  rw [lastSpelled, lastSpelled, List.reverse_concat]
  by_cases h : Text.lower name = Text.lower word
  · simp [h, sameFolded_iff.mpr h]
  · simp [h, Bool.eq_false_iff.mpr (mt sameFolded_iff.mp h)]

theorem lastSpelled_congr {a b : String} (same : Text.lower a = Text.lower b) :
    lastSpelled log a = lastSpelled log b := by
  simp only [lastSpelled, Text.sameFolded, same]

theorem lower_of_lastSpelled {word : String} {p : String × α}
    (h : lastSpelled log word = some p) : Text.lower p.1 = Text.lower word := by
  have hit := List.find?_some h
  exact sameFolded_iff.mp hit

theorem mem_of_lastSpelled {word : String} {p : String × α} (h : lastSpelled log word = some p) :
    p ∈ log :=
  List.mem_reverse.mp (List.mem_of_find?_eq_some h)

theorem exists_lastSpelled {p : String × α} (h : p ∈ log) : ∃ q, lastSpelled log p.1 = some q := by
  rw [← Option.isSome_iff_exists, lastSpelled, List.find?_isSome]
  exact ⟨p, List.mem_reverse.mpr h, sameFolded_iff.mpr rfl⟩

theorem entries_insert_of_folding (folding : r.folding = true) (name : String) (value : α) :
    (r.insert name value).entries =
      (r.entries.filter fun p => !Text.sameFolded p.1 name) ++ [(name, value)] := by
  have fresh : name ∉ Entries.keys (r.entries.filter fun p => !Text.sameFolded p.1 name) := by
    intro h
    obtain ⟨p, hp, rfl⟩ := List.mem_map.mp h
    have apart := (List.mem_filter.mp hp).2
    simp [Text.sameFolded] at apart
  rw [insert, if_pos folding, Entries.put_of_not_mem fresh]

structure LastWins (r : Registry α) (log : List (String × α)) : Prop extends Records r log where
  folding : r.folding = true
  mem_iff : ∀ p, p ∈ r.entries ↔ lastSpelled log p.1 = some p

namespace LastWins

theorem empty : (empty true : Registry α).LastWins [] where
  toRecords := .empty true
  folding := rfl
  mem_iff p := by simp [Registry.empty, lastSpelled]

theorem insert (h : r.LastWins log) {name : String} (checked : checkName name = none) (value : α) :
    (r.insert name value).LastWins (log ++ [(name, value)]) where
  toRecords := h.toRecords.insert checked value
  folding := h.folding
  mem_iff p := by
    rw [entries_insert_of_folding h.folding, lastSpelled_concat, List.mem_append, List.mem_filter,
      h.mem_iff, List.mem_singleton]
    by_cases same : Text.lower name = Text.lower p.1
    · simp [Text.sameFolded, same, eq_comm]
    · have hne : p ≠ (name, value) := by
        rintro rfl
        exact same rfl
      simp [Text.sameFolded, same, Ne.symm same, hne]

theorem register (h : r.LastWins log) (name : String) (offered : Export α) :
    (r.change (.register name offered)).LastWins (log ++ accepted [.register name offered]) := by
  rcases r.change_register_cases name offered with ⟨value, hlog, checked, heq⟩ | ⟨hlog, heq⟩
  · rw [heq, hlog]
    exact h.insert checked value
  · rwa [heq, hlog, List.append_nil]

theorem eq_of_lower_eq (h : r.LastWins log) {p q : String × α} (hp : p ∈ r.entries)
    (hq : q ∈ r.entries) (same : Text.lower p.1 = Text.lower q.1) : p = q := by
  rw [h.mem_iff] at hp hq
  rw [lastSpelled_congr same, hq] at hp
  exact (Option.some.inj hp).symm

theorem resolve_eq (h : r.LastWins log) (word : String) :
    r.resolve word = (lastSpelled log word).map (·.1) := by
  cases last : lastSpelled log word with
  | none =>
    have unspelled : ∀ n ∈ r.names, Text.lower n ≠ Text.lower word := by
      intro n hn same
      obtain ⟨p, hp, rfl⟩ := List.mem_map.mp hn
      rw [h.mem_iff, lastSpelled_congr same, last] at hp
      cases hp
    have absent : word ∉ r.names := fun hw => unspelled word hw rfl
    rw [resolve, if_neg absent, if_pos h.folding, Option.map_none, List.find?_eq_none]
    exact fun n hn hit => unspelled n hn (sameFolded_iff.mp hit)
  | some p =>
    have spelled := lower_of_lastSpelled last
    have hp : p ∈ r.entries := by rw [h.mem_iff, lastSpelled_congr spelled, last]
    refine resolve_of_only h.folding (List.mem_map_of_mem hp) ?_ spelled.symm
    intro n hn same
    obtain ⟨q, hq, rfl⟩ := List.mem_map.mp hn
    exact congrArg Prod.fst (h.eq_of_lower_eq hq hp same)

theorem get?_eq (h : r.LastWins log) (word : String) :
    r.get? word = (lastSpelled log word).map (·.2) := by
  rw [get?, h.resolve_eq]
  cases last : lastSpelled log word with
  | none => rfl
  | some p =>
    have hp : p ∈ r.entries := by
      rw [h.mem_iff, lastSpelled_congr (lower_of_lastSpelled last), last]
    exact (Entries.find?_eq_some_iff h.distinct).mpr hp

theorem nodup_lower (h : r.LastWins log) : (r.names.map Text.lower).Nodup := by
  refine h.distinct.map_on ?_
  intro a ha b hb same
  obtain ⟨p, hp, rfl⟩ := List.mem_map.mp ha
  obtain ⟨q, hq, rfl⟩ := List.mem_map.mp hb
  exact congrArg Prod.fst (h.eq_of_lower_eq hp hq same)

theorem length_names (h : r.LastWins log) :
    r.names.length = (log.map fun p => Text.lower p.1).toFinset.card := by
  have forms : (r.names.map Text.lower).toFinset =
      (log.map fun p => Text.lower p.1).toFinset := by
    ext form
    simp only [List.mem_toFinset, List.mem_map, names, Entries.keys, exists_exists_and_eq_and]
    constructor
    · rintro ⟨p, hp, rfl⟩
      exact ⟨p, mem_of_lastSpelled ((h.mem_iff p).mp hp), rfl⟩
    · rintro ⟨p, hp, rfl⟩
      obtain ⟨q, last⟩ := exists_lastSpelled hp
      have spelled := lower_of_lastSpelled last
      exact ⟨q, (h.mem_iff q).mpr (lastSpelled_congr spelled ▸ last), spelled⟩
  rw [← forms, List.toFinset_card_of_nodup h.nodup_lower, List.length_map]

end LastWins

/-- A folding registry after a row of registrations, some of which may be refused. -/
def registerAll (calls : List (String × Export α)) : Registry α :=
  (empty true).changeAll (calls.map fun call => .register call.1 call.2)

def acceptedCalls (calls : List (String × Export α)) : List (String × α) :=
  accepted (calls.map fun call => .register call.1 call.2)

theorem lastWins_registerAll (calls : List (String × Export α)) :
    (registerAll calls).LastWins (acceptedCalls calls) := by
  have keeps : ∀ c ∈ calls.map fun call => Change.register call.1 call.2, ∀ r log,
      LastWins r log → (r.change c).LastWins (log ++ accepted [c]) := by
    intro c hc r log h
    obtain ⟨call, -, rfl⟩ := List.mem_map.mp hc
    exact h.register call.1 call.2
  exact changeAll_induction keeps LastWins.empty

/-- A folding registry is a map on folded names in which the last write wins. Its names have
different lower-case forms; a query is answered by the last accepted registration of one of its
spellings, or not at all if there is none; and there are as many names as lower-case forms that were
ever accepted. -/
theorem registerAll_lastWrite (calls : List (String × Export α)) :
    ((registerAll calls).names.map Text.lower).Nodup ∧
    (∀ query,
      (registerAll calls).get? query = (lastSpelled (acceptedCalls calls) query).map (·.2) ∧
      (registerAll calls).resolve query = (lastSpelled (acceptedCalls calls) query).map (·.1) ∧
      (registerAll calls).contains query = (lastSpelled (acceptedCalls calls) query).isSome) ∧
    (registerAll calls).names.length =
      ((acceptedCalls calls).map fun p => Text.lower p.1).toFinset.card := by
  have h := lastWins_registerAll calls
  refine ⟨h.nodup_lower, fun query => ⟨h.get?_eq query, h.resolve_eq query, ?_⟩, h.length_names⟩
  rw [contains, h.resolve_eq, Option.isSome_map]

theorem registerAll_lastWrite_dotted :
    let calls := [("İ", Export.command 1), ("exit", .command 2), ("i\u0307", .command 3)]
    (registerAll calls).get? "İ" = some 3 ∧ (registerAll calls).resolve "İ" = some "i\u0307" ∧
      (registerAll calls).contains "I" = false ∧ (registerAll calls).names.length = 1 := by
  intro calls
  have log : acceptedCalls calls = [("İ", 1), ("i\u0307", 3)] := by decide
  have last : lastSpelled (acceptedCalls calls) "İ" = some ("i\u0307", 3) := by
    rw [log]
    decide
  have none : lastSpelled (acceptedCalls calls) "I" = none := by
    rw [log]
    decide
  obtain ⟨-, answers, length⟩ := registerAll_lastWrite calls
  obtain ⟨found, resolved, -⟩ := answers "İ"
  obtain ⟨-, -, missing⟩ := answers "I"
  refine ⟨by rw [found, last]; rfl, by rw [resolved, last]; rfl, by rw [missing, none]; rfl, ?_⟩
  rw [length, log]
  decide

end CommandShell.Registry
