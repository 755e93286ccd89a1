import CommandShell.Command.Lookup

/-! What a registry finds, and which registries there are. Every name it resolves is registered, and
every registered name is resolved to itself and has passed the checks. -/

namespace CommandShell

namespace Entries

variable {α : Type}

theorem find?_isSome_iff (entries : Entries α) (key : String) :
    (find? entries key).isSome ↔ key ∈ keys entries := by
  induction entries with
  | nil => simp [find?_nil, keys]
  | cons p rest ih =>
    rw [find?_cons]
    by_cases h : key = p.1
    · simp [h, keys]
    · simpa [h, keys] using ih

theorem mem_keys_of_find? {entries : Entries α} {key : String} {value : α}
    (h : find? entries key = some value) : key ∈ keys entries := by
  rw [← find?_isSome_iff, h]
  rfl

end Entries

namespace Registry

variable {α : Type} {r : Registry α}

theorem mem_names_of_resolve {name registered : String} (h : r.resolve name = some registered) :
    registered ∈ r.names := by
  unfold resolve at h
  split at h
  · cases h
    assumption
  · split at h
    · exact List.mem_of_find?_eq_some h
    · cases h

theorem resolve_of_mem {name : String} (registered : name ∈ r.names) :
    r.resolve name = some name := by
  rw [resolve, if_pos registered]

theorem lookup_of_resolve {name registered : String} (h : r.resolve name = some registered) :
    ∃ value, r.lookup name = .ok (registered, value) := by
  have hmem := mem_names_of_resolve h
  rw [names, ← Entries.find?_isSome_iff, Option.isSome_iff_exists] at hmem
  obtain ⟨value, hvalue⟩ := hmem
  exact ⟨value, by simp only [lookup, h, hvalue]⟩

theorem lookup_of_resolve_none {name : String} (h : r.resolve name = none) :
    r.lookup name = .error (r.unknown name) := by
  simp only [lookup, h]

theorem lookup_of_find? {name : String} {value : α}
    (h : Entries.find? r.entries name = some value) : r.lookup name = .ok (name, value) := by
  have hmem : name ∈ r.names := Entries.mem_keys_of_find? h
  simp only [lookup, resolve_of_mem hmem, h]

inductive Built : Registry α → Prop
  | empty (folding : Bool) : Built (empty folding)
  | register {r r' : Registry α} {name : String} {offered : Export α} (before : Built r)
      (accepted : r.register name offered = .ok r') : Built r'
  | refold {r : Registry α} (before : Built r) (folding : Bool) :
      Built { r with folding := folding }

theorem register_eq_ok {r' : Registry α} {name : String} {offered : Export α}
    (h : r.register name offered = .ok r') :
    checkName name = none ∧ ∃ value, offered = .command value ∧ r' = r.insert name value := by
  unfold register at h
  split at h
  · cases h
  · next hname =>
    split at h
    · cases h
    · next value =>
      cases h
      exact ⟨hname, value, rfl, rfl⟩

theorem mem_names_of_mem_names_insert {name other : String} {value : α}
    (h : other ∈ (r.insert name value).names) : other = name ∨ other ∈ r.names := by
  have hput : ∀ entries : Entries α, other ∈ Entries.keys (Entries.put entries name value) →
      other = name ∨ other ∈ Entries.keys entries := by
    intro entries hmem
    rw [Entries.keys_put] at hmem
    split at hmem
    · exact .inr hmem
    · simpa [or_comm] using hmem
  rcases hput _ h with rfl | hkept
  · exact .inl rfl
  · split at hkept
    · refine .inr ?_
      obtain ⟨p, hp, rfl⟩ := List.mem_map.mp hkept
      exact List.mem_map_of_mem (List.mem_filter.mp hp).1
    · exact .inr hkept

theorem Built.checkName_eq_none (built : r.Built) {name : String} (h : name ∈ r.names) :
    checkName name = none := by
  induction built with
  | empty folding => simp [names, Registry.empty, Entries.keys] at h
  | register before accepted ih =>
    obtain ⟨hname, value, -, rfl⟩ := register_eq_ok accepted
    rcases mem_names_of_mem_names_insert h with rfl | h
    · exact hname
    · exact ih h
  | refold before folding ih => exact ih h

theorem Built.isReserved_eq_false (built : r.Built) {name : String} (h : name ∈ r.names) :
    isReserved name = false := by
  have hname := built.checkName_eq_none h
  unfold checkName at hname
  split at hname
  · cases hname
  · split at hname
    · cases hname
    · next hfree => simpa using hfree

inductive Folding : Registry α → Prop
  | empty : Folding (empty true)
  | register {r r' : Registry α} {name : String} {offered : Export α} (before : Folding r)
      (accepted : r.register name offered = .ok r') : Folding r'

theorem sameFolded_iff {a b : String} : Text.sameFolded a b = true ↔ Text.lower a = Text.lower b :=
  beq_iff_eq

theorem resolve_of_only (folding : r.folding = true) {name word : String}
    (registered : name ∈ r.names)
    (only : ∀ n ∈ r.names, Text.lower n = Text.lower name → n = name)
    (spelled : Text.lower word = Text.lower name) : r.resolve word = some name := by
  by_cases exact : word ∈ r.names
  · rw [resolve, if_pos exact, only word exact spelled]
  · rw [resolve, if_neg exact, if_pos folding]
    cases found : r.names.find? fun n => Text.sameFolded n word with
    | none =>
      have := List.find?_eq_none.mp found name registered
      exact absurd (sameFolded_iff.mpr spelled.symm) this
    | some other =>
      have hit := List.find?_some found
      have same := sameFolded_iff.mp hit
      rw [only other (List.mem_of_find?_eq_some found) (same.trans spelled)]

theorem mem_names_insert_of_folding (folding : r.folding = true) {name other : String} {value : α}
    (h : other ∈ (r.insert name value).names) :
    other = name ∨ other ∈ r.names ∧ Text.lower other ≠ Text.lower name := by
  have hput : other ∈ Entries.keys (Entries.put
      (r.entries.filter fun p => !Text.sameFolded p.1 name) name value) := by
    simpa [insert, folding, names] using h
  rw [Entries.keys_put] at hput
  have kept : other ∈ Entries.keys (r.entries.filter fun p => !Text.sameFolded p.1 name) →
      other ∈ r.names ∧ Text.lower other ≠ Text.lower name := by
    intro hmem
    obtain ⟨p, hp, rfl⟩ := List.mem_map.mp hmem
    obtain ⟨hentry, hother⟩ := List.mem_filter.mp hp
    refine ⟨List.mem_map_of_mem hentry, fun e => ?_⟩
    rw [sameFolded_iff.mpr e] at hother
    cases hother
  split at hput
  · exact .inr (kept hput)
  · rcases List.mem_append.mp hput with hmem | hmem
    · exact .inr (kept hmem)
    · exact .inl (List.mem_singleton.mp hmem)

namespace Folding

theorem folding_eq (h : r.Folding) : r.folding = true := by
  induction h with
  | empty => rfl
  | register before accepted ih =>
    obtain ⟨-, value, -, rfl⟩ := register_eq_ok accepted
    exact ih

theorem built (h : r.Folding) : r.Built := by
  induction h with
  | empty => exact .empty true
  | register before accepted ih => exact .register ih accepted

theorem eq_of_lower_eq (h : r.Folding) {a b : String} (ha : a ∈ r.names) (hb : b ∈ r.names)
    (same : Text.lower a = Text.lower b) : a = b := by
  induction h with
  | empty => cases ha
  | register before accepted ih =>
    obtain ⟨-, value, -, rfl⟩ := register_eq_ok accepted
    rcases mem_names_insert_of_folding before.folding_eq ha with rfl | ⟨ha, hother⟩
    · rcases mem_names_insert_of_folding before.folding_eq hb with rfl | ⟨-, hother⟩
      · rfl
      · exact absurd same.symm hother
    · rcases mem_names_insert_of_folding before.folding_eq hb with rfl | ⟨hb, -⟩
      · exact absurd same hother
      · exact ih ha hb

theorem resolve_eq (h : r.Folding) {name word : String} (registered : name ∈ r.names)
    (spelled : Text.lower word = Text.lower name) : r.resolve word = some name :=
  resolve_of_only h.folding_eq registered (fun _ hn same => h.eq_of_lower_eq hn registered same)
    spelled

theorem exists_lookup_eq (h : r.Folding) {name : String} (registered : name ∈ r.names) :
    ∃ value, Entries.find? r.entries name = some value ∧
      ∀ word, Text.lower word = Text.lower name → r.lookup word = .ok (name, value) := by
  have hsome := registered
  rw [names, ← Entries.find?_isSome_iff, Option.isSome_iff_exists] at hsome
  obtain ⟨value, hvalue⟩ := hsome
  refine ⟨value, hvalue, fun word spelled => ?_⟩
  simp only [lookup, h.resolve_eq registered spelled, hvalue]

end Folding

end Registry
end CommandShell
