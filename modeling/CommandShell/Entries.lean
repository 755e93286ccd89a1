/-! Mappings from names that keep the order in which their keys first came: writing a key that is
there replaces its value in place. -/

namespace CommandShell

abbrev Entries (α : Type) := List (String × α)

namespace Entries

variable {α β : Type}

def find? (entries : Entries α) (key : String) : Option α := entries.lookup key

def keys (entries : Entries α) : List String := entries.map (·.1)

def put : Entries α → String → α → Entries α
  | [], key, value => [(key, value)]
  | (k, v) :: rest, key, value =>
    if k = key then (key, value) :: rest else (k, v) :: put rest key value

def erase (entries : Entries α) (key : String) : Entries α := entries.filter (·.1 != key)

/-- Writes the entries of `new` one after the other, so that the last one of a key stays. -/
def merge (entries new : Entries α) : Entries α := new.foldl (fun e p => put e p.1 p.2) entries

def ofList (pairs : List (String × α)) : Entries α := merge [] pairs

def sorted (entries : Entries α) : Entries α := entries.mergeSort fun a b => a.1 ≤ b.1

theorem find?_nil (key : String) : find? ([] : Entries α) key = none := rfl

theorem find?_cons (p : String × α) (rest : Entries α) (key : String) :
    find? (p :: rest) key = if key = p.1 then some p.2 else find? rest key := by
  obtain ⟨k, v⟩ := p
  by_cases h : key = k
  · simp [find?, h]
  · have hb : (key == k) = false := by simpa using h
    simp [find?, List.lookup_cons, hb, h]

theorem find?_put (entries : Entries α) (key : String) (value : α) (query : String) :
    find? (put entries key value) query =
      if query = key then some value else find? entries query := by
  induction entries with
  | nil => simp [put, find?_cons, find?_nil]
  | cons p rest ih =>
    obtain ⟨k, v⟩ := p
    by_cases h : k = key
    · subst h
      by_cases hq : query = k <;> simp [put, find?_cons, hq]
    · by_cases hq : query = k
      · subst hq
        simp [put, h, find?_cons]
      · simp [put, h, find?_cons, hq, ih]

theorem find?_erase (entries : Entries α) (key query : String) :
    find? (erase entries key) query = if query = key then none else find? entries query := by
  induction entries with
  | nil => simp [erase, find?_nil]
  | cons p rest ih =>
    obtain ⟨k, v⟩ := p
    unfold erase at ih ⊢
    by_cases h : k = key
    · subst h
      by_cases hq : query = k <;> simp_all [find?_cons]
    · by_cases hq : query = k
      · subst hq
        simp [h, find?_cons]
      · simp [h, find?_cons, hq, ih]

theorem keys_put (entries : Entries α) (key : String) (value : α) :
    keys (put entries key value) =
      if key ∈ keys entries then keys entries else keys entries ++ [key] := by
  induction entries with
  | nil => simp [put, keys]
  | cons p rest ih =>
    obtain ⟨k, v⟩ := p
    by_cases h : k = key
    · subst h
      simp [put, keys]
    · have h' : ¬ key = k := fun e => h e.symm
      simp only [keys] at ih
      by_cases hm : key ∈ rest.map (·.1) <;> simp_all [put, keys]

theorem nodup_keys_put {entries : Entries α} (h : (keys entries).Nodup) (key : String) (value : α) :
    (keys (put entries key value)).Nodup := by
  rw [keys_put]
  split
  · exact h
  · next hm =>
    rw [List.nodup_append]
    refine ⟨h, by simp, ?_⟩
    intro a ha b hb hab
    simp only [List.mem_singleton] at hb
    exact hm (hb ▸ hab ▸ ha)

theorem find?_merge (entries new : Entries α) (query : String) :
    find? (merge entries new) query = (find? new.reverse query).or (find? entries query) := by
  induction new generalizing entries with
  | nil => simp [merge, find?_nil]
  | cons p rest ih =>
    have hm : merge entries (p :: rest) = merge (put entries p.1 p.2) rest := rfl
    have ha : ∀ (l : Entries α), find? (l ++ [p]) query =
        (find? l query).or (if query = p.1 then some p.2 else none) := by
      intro l
      induction l with
      | nil => simp [find?_cons, find?_nil]
      | cons q l ihl =>
        rw [List.cons_append, find?_cons, find?_cons, ihl]
        split <;> rfl
    rw [hm, ih, find?_put, List.reverse_cons, ha, Option.or_assoc]
    split <;> simp

end Entries
end CommandShell
