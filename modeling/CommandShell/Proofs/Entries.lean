import CommandShell.Proofs.Registry
import Mathlib.Data.List.Induction
import Mathlib.Data.List.Nodup
import Mathlib.Data.String.Basic
import Mathlib.Logic.Function.Basic

/-! Entries as maps. While no key stands twice, finding a key is membership, so that the order of
the entries does not count; every way of writing entries keeps it so. -/

namespace CommandShell.Entries

variable {α : Type} {entries : Entries α} {key : String}

theorem find?_eq_some_iff (nodup : (keys entries).Nodup) {value : α} :
    find? entries key = some value ↔ (key, value) ∈ entries := by
  induction entries with
  | nil => simp [find?_nil]
  | cons p rest ih =>
    obtain ⟨k, v⟩ := p
    obtain ⟨hk, hrest⟩ := List.nodup_cons.mp nodup
    rw [find?_cons, List.mem_cons, Prod.mk.injEq]
    by_cases h : key = k
    · have hmem : (k, value) ∉ rest := fun hm => hk (List.mem_map.mpr ⟨_, hm, rfl⟩)
      simp [h, hmem, eq_comm]
    · simp [h, ih hrest]

theorem find?_eq_of_perm {others : Entries α} (nodup : (keys entries).Nodup)
    (perm : entries.Perm others) : find? entries key = find? others key := by
  have hothers : (keys others).Nodup := (perm.map _).nodup_iff.mp nodup
  apply Option.ext
  intro value
  rw [find?_eq_some_iff nodup, find?_eq_some_iff hothers, perm.mem_iff]

theorem find?_reverse (nodup : (keys entries).Nodup) :
    find? entries.reverse key = find? entries key :=
  (find?_eq_of_perm nodup (List.reverse_perm entries).symm).symm

theorem find?_put_eq_update (entries : Entries α) (key : String) (value : α) :
    find? (put entries key value) = Function.update (find? entries) key (some value) := by
  funext query
  rw [find?_put, Function.update_apply]

theorem find?_erase_eq_update (entries : Entries α) (key : String) :
    find? (erase entries key) = Function.update (find? entries) key none := by
  funext query
  rw [find?_erase, Function.update_apply]

theorem nodup_keys_merge (nodup : (keys entries).Nodup) (new : Entries α) :
    (keys (merge entries new)).Nodup := by
  induction new generalizing entries with
  | nil => exact nodup
  | cons p rest ih => exact ih (nodup_keys_put nodup p.1 p.2)

theorem nodup_keys_ofList (pairs : List (String × α)) : (keys (ofList pairs)).Nodup := by
  have empty : (keys ([] : Entries α)).Nodup := List.nodup_nil
  exact nodup_keys_merge empty pairs

theorem find?_ofList (pairs : List (String × α)) :
    find? (ofList pairs) key = find? pairs.reverse key := by
  rw [ofList, find?_merge, find?_nil, Option.or_none]

theorem nodup_keys_filter (nodup : (keys entries).Nodup) (p : String × α → Bool) :
    (keys (entries.filter p)).Nodup :=
  nodup.sublist (List.filter_sublist.map _)

theorem find?_filter (entries : Entries α) (p : String → Bool) :
    find? (entries.filter fun e => p e.1) key = if p key then find? entries key else none := by
  induction entries with
  | nil => simp [find?_nil]
  | cons e rest ih =>
    by_cases h : key = e.1
    · subst h
      cases hp : p e.1 <;> simp_all [find?_cons]
    · cases hp : p e.1 <;> simp [find?_cons, hp, h, ih]

theorem filter_put_of_not (entries : Entries α) {p : String → Bool} (h : p key = false)
    (value : α) :
    (put entries key value).filter (fun e => p e.1) = entries.filter fun e => p e.1 := by
  induction entries with
  | nil => simp [put, h]
  | cons e rest ih =>
    by_cases he : e.1 = key
    · simp [put, he, h]
    · simp [put, he, ih, List.filter_cons]

theorem put_of_not_mem (fresh : key ∉ keys entries) (value : α) :
    put entries key value = entries ++ [(key, value)] := by
  induction entries with
  | nil => rfl
  | cons e rest ih =>
    rw [keys, List.map_cons, List.mem_cons, not_or] at fresh
    simp [put, Ne.symm fresh.1, ih fresh.2]

theorem put_put (entries : Entries α) (key : String) (old value : α) :
    put (put entries key old) key value = put entries key value := by
  induction entries with
  | nil => simp [put]
  | cons e rest ih =>
    by_cases he : e.1 = key
    · simp [put, he]
    · simp [put, he, ih]

/-- A key that is there keeps its place, so that another key may be written before or after it. -/
theorem put_comm_of_mem (mem : key ∈ keys entries) {other : String} (differ : other ≠ key)
    (value old : α) :
    put (put entries other old) key value = put (put entries key value) other old := by
  induction entries with
  | nil => cases mem
  | cons e rest ih =>
    by_cases hkey : e.1 = key
    · simp [put, hkey, Ne.symm differ]
    · have mem : key ∈ keys rest := (List.mem_cons.mp mem).resolve_left (Ne.symm hkey)
      by_cases hother : e.1 = other
      · simp [put, hother, differ]
      · simp [put, hkey, hother, ih mem]

theorem put_merge_of_mem {new : Entries α} (mem : key ∈ keys entries) (fresh : key ∉ keys new)
    (value : α) : put (merge entries new) key value = merge (put entries key value) new := by
  induction new generalizing entries with
  | nil => rfl
  | cons e rest ih =>
    rw [keys, List.map_cons, List.mem_cons, not_or] at fresh
    have kept : key ∈ keys (put entries e.1 e.2) := by
      rw [keys_put]
      split
      · exact mem
      · exact List.mem_append_left _ mem
    have first (entries : Entries α) :
        merge entries (e :: rest) = merge (put entries e.1 e.2) rest := rfl
    rw [first, first, ih kept fresh.2, put_comm_of_mem mem (Ne.symm fresh.1)]

theorem merge_put {new : Entries α} (nodup : (keys new).Nodup) (entries : Entries α) (key : String)
    (value : α) : merge entries (put new key value) = put (merge entries new) key value := by
  induction new generalizing entries with
  | nil => rfl
  | cons e rest ih =>
    obtain ⟨fresh, hrest⟩ := List.nodup_cons.mp nodup
    by_cases he : e.1 = key
    · subst he
      have there : e.1 ∈ keys (put entries e.1 e.2) := by
        rw [← find?_isSome_iff, find?_put, if_pos rfl]
        rfl
      have first : merge entries (e :: rest) = merge (put entries e.1 e.2) rest := rfl
      rw [put, if_pos rfl, first, put_merge_of_mem there fresh, put_put]
      rfl
    · rw [put, if_neg he]
      exact ih hrest (put entries e.1 e.2)

theorem merge_ofList (entries : Entries α) (pairs : List (String × α)) :
    merge entries (ofList pairs) = merge entries pairs := by
  induction pairs using List.reverseRecOn with
  | nil => rfl
  | append_singleton before p ih =>
    have last (entries : Entries α) :
        merge entries (before ++ [p]) = put (merge entries before) p.1 p.2 := by simp [merge]
    rw [ofList, last, last, ← ih]
    exact merge_put (nodup_keys_ofList before) entries p.1 p.2

theorem find?_merge_ofList (entries : Entries α) (pairs : List (String × α)) :
    find? (merge entries (ofList pairs)) key =
      (find? pairs.reverse key).or (find? entries key) := by
  rw [merge_ofList, find?_merge]

theorem nodup_keys_erase (nodup : (keys entries).Nodup) (key : String) :
    (keys (erase entries key)).Nodup :=
  nodup_keys_filter nodup _

theorem mem_sorted {e : String × α} : e ∈ sorted entries ↔ e ∈ entries :=
  (List.mergeSort_perm ..).mem_iff

theorem pairwise_sorted (nodup : (keys entries).Nodup) :
    (sorted entries).Pairwise fun a b => a.1 < b.1 := by
  have ordered : (sorted entries).Pairwise fun a b => decide (a.1 ≤ b.1) = true := by
    apply List.pairwise_mergeSort
    · intro a b c hab hbc
      simp only [decide_eq_true_eq] at hab hbc ⊢
      exact le_trans hab hbc
    · intro a b
      simpa using le_total a.1 b.1
  have distinct : (sorted entries).Pairwise fun a b => a.1 ≠ b.1 := by
    have hperm : (keys (sorted entries)).Perm (keys entries) := (List.mergeSort_perm ..).map _
    exact List.pairwise_map.mp (hperm.nodup_iff.mpr nodup)
  refine (ordered.and distinct).imp ?_
  rintro a b ⟨hle, hne⟩
  exact lt_of_le_of_ne (of_decide_eq_true hle) hne

section Filter

variable {new : Entries α} {p : String → Bool}

theorem mem_keys_merge {key : String} :
    key ∈ keys (merge entries new) ↔ key ∈ keys entries ∨ key ∈ keys new := by
  have hreverse : key ∈ keys new.reverse ↔ key ∈ keys new := by simp [keys]
  rw [← find?_isSome_iff, find?_merge, Option.isSome_or, Bool.or_eq_true, find?_isSome_iff,
    find?_isSome_iff, hreverse, or_comm]

theorem mem_put {key : String} {value : α} {e : String × α} (h : e ∈ put entries key value) :
    e = (key, value) ∨ e ∈ entries := by
  induction entries with
  | nil => exact .inl (List.mem_singleton.mp h)
  | cons first rest ih =>
    rw [put] at h
    split at h
    · exact (List.mem_cons.mp h).imp_right (List.mem_cons_of_mem first)
    · rcases List.mem_cons.mp h with rfl | h
      · exact .inr List.mem_cons_self
      · exact (ih h).imp_right (List.mem_cons_of_mem first)

theorem mem_merge {e : String × α} (h : e ∈ merge entries new) : e ∈ entries ∨ e ∈ new := by
  induction new generalizing entries with
  | nil => exact .inl h
  | cons first rest ih =>
    rcases ih h with h | h
    · rcases mem_put h with rfl | h
      · exact .inr List.mem_cons_self
      · exact .inl h
    · exact .inr (List.mem_cons_of_mem first h)

theorem filter_merge_of_none (h : ∀ e ∈ new, p e.1 = false) :
    (merge entries new).filter (fun e => p e.1) = entries.filter fun e => p e.1 := by
  induction new generalizing entries with
  | nil => rfl
  | cons e rest ih =>
    obtain ⟨he, hrest⟩ := List.forall_mem_cons.mp h
    exact (ih hrest).trans (filter_put_of_not entries he e.2)

theorem filter_merge_of_fresh (nodup : (keys new).Nodup) (h : ∀ e ∈ entries, p e.1 = false) :
    (merge entries new).filter (fun e => p e.1) = new.filter fun e => p e.1 := by
  induction new using List.reverseRecOn with
  | nil => simpa [merge] using h
  | append_singleton before e ih =>
    have hput : merge entries (before ++ [e]) = put (merge entries before) e.1 e.2 := by
      simp [merge]
    rw [keys, List.map_append, List.nodup_append] at nodup
    obtain ⟨hbefore, -, hdisjoint⟩ := nodup
    rw [hput, List.filter_append, ← ih hbefore]
    cases he : p e.1 with
    | false => simp [filter_put_of_not _ he, he]
    | true =>
      have fresh : e.1 ∉ keys (merge entries before) := by
        rw [mem_keys_merge, not_or]
        refine ⟨fun hmem => ?_, fun hmem => hdisjoint e.1 hmem e.1 (by simp) rfl⟩
        obtain ⟨old, hold, hkey⟩ := List.mem_map.mp hmem
        rw [← hkey, h old hold] at he
        cases he
      rw [put_of_not_mem fresh, List.filter_append]

theorem mem_keys_ofList {pairs : List (String × α)} {key : String} :
    key ∈ keys (ofList pairs) ↔ key ∈ keys pairs :=
  mem_keys_merge.trans (or_iff_right List.not_mem_nil)

theorem ofList_eq_self (nodup : (keys entries).Nodup) : ofList entries = entries := by
  have all := filter_merge_of_fresh (p := fun _ => true) nodup fun e (he : e ∈ []) => nomatch he
  rwa [List.filter_true, List.filter_true] at all

theorem filter_eq_singleton (nodup : (keys entries).Nodup) {e : String × α} (he : e ∈ entries)
    (hp : p e.1 = true) (only : ∀ other ∈ entries, p other.1 = true → other.1 = e.1) :
    entries.filter (fun other => p other.1) = [e] := by
  induction entries with
  | nil => cases he
  | cons first rest ih =>
    obtain ⟨hfirst, hrest⟩ := List.nodup_cons.mp nodup
    obtain ⟨onlyFirst, onlyRest⟩ := List.forall_mem_cons.mp only
    have apart : ∀ other ∈ rest, other.1 ≠ first.1 := fun other hother same =>
      hfirst (List.mem_map.mpr ⟨other, hother, same⟩)
    rcases List.mem_cons.mp he with rfl | he
    · have none : rest.filter (fun other => p other.1) = [] :=
        List.filter_eq_nil_iff.mpr fun other hother hpother =>
          apart other hother (onlyRest other hother hpother)
      rw [List.filter_cons, if_pos hp, none]
    · have hother : ¬ p first.1 = true := fun h => apart e he (onlyFirst h).symm
      rw [List.filter_cons, if_neg hother, ih hrest he onlyRest]

theorem find?_reverse_eq (entries : Entries α) (key : String) :
    find? entries.reverse key = ((entries.filter fun e => e.1 == key).getLast?).map (·.2) := by
  induction entries using List.reverseRecOn with
  | nil => rfl
  | append_singleton before e ih =>
    rw [List.reverse_concat, find?_cons, ih, List.filter_append]
    by_cases h : key = e.1
    · simp [h]
    · simp [h, Ne.symm h]

end Filter

end CommandShell.Entries
