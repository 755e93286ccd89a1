import CommandShell.Proofs.Files.Written
import CommandShell.Proofs.History.Records
import CommandShell.Proofs.Text.Utf8

/-! Saving and loading. A store keeps the newest of what it is given, and loading what was saved
gives the records that its entries are cut into: the entries themselves exactly if none of them has
a line break in it. -/

namespace CommandShell

section Newest

variable {α : Type} {n : Nat}

theorem newest_eq_self {xs : List α} (h : xs.length ≤ n) : newest n xs = xs := by
  rw [newest, Nat.sub_eq_zero_of_le h, List.drop_zero]

theorem length_newest (n : Nat) (xs : List α) : (newest n xs).length = min n xs.length := by
  rw [newest, List.length_drop]
  omega

theorem length_newest_le (n : Nat) (xs : List α) : (newest n xs).length ≤ n :=
  length_newest n xs ▸ Nat.min_le_left ..

theorem newest_subset (n : Nat) (xs : List α) : newest n xs ⊆ xs := List.drop_subset _ xs

theorem newest_append (n : Nat) (xs ys : List α) :
    newest n (xs ++ ys) = newest (n - ys.length) xs ++ newest n ys := by
  have hys : xs.length + ys.length - n - xs.length = ys.length - n := by omega
  have hxs : xs.drop (xs.length + ys.length - n) = xs.drop (xs.length - (n - ys.length)) := by
    by_cases h : n ≤ ys.length
    · rw [List.drop_eq_nil_of_le (by omega), List.drop_eq_nil_of_le (by omega)]
    · congr 1
      omega
  rw [newest, List.length_append, List.drop_append, hys, hxs, newest, newest]

theorem newest_newest (m : Nat) (xs : List α) : newest m (newest n xs) = newest (min m n) xs := by
  rw [newest, length_newest, newest, List.drop_drop, newest]
  congr 1
  omega

theorem newest_newest_append (xs ys : List α) :
    newest n (newest n xs ++ ys) = newest n (xs ++ ys) := by
  rw [newest_append, newest_append, newest_newest, Nat.min_eq_left (Nat.sub_le n _)]

end Newest

namespace History
open Text

variable {h : History} {fs fs' : Files}

structure Sound (h : History) : Prop where
  bounded : h.entries.length ≤ h.limit
  nonblank : ∀ entry ∈ h.entries, isBlankText entry = false

theorem sound_of_newest {records : List String}
    (nonblank : ∀ entry ∈ records, isBlankText entry = false) :
    Sound { h with entries := newest h.limit records } where
  bounded := length_newest_le ..
  nonblank entry hentry := nonblank entry (newest_subset _ _ hentry)

theorem append_eq (bounded : h.entries.length ≤ h.limit) (line : String) :
    h.append line =
      { h with entries := newest h.limit (h.entries ++ recorded [line]) } := by
  unfold append
  cases hblank : isBlankText line <;> simp [recorded, hblank, newest_eq_self bounded]

theorem foldl_append_eq (bounded : h.entries.length ≤ h.limit) (lines : List String) :
    lines.foldl append h =
      { h with entries := newest h.limit (h.entries ++ recorded lines) } := by
  induction lines generalizing h with
  | nil => simp [recorded, newest_eq_self bounded]
  | cons line rest ih =>
    rw [List.foldl_cons, append_eq bounded, ih (length_newest_le ..)]
    simp only [newest_newest_append, List.append_assoc, ← recorded_append, List.singleton_append]

/-- A store into which records were loaded and to which lines were then appended. -/
def filled (h : History) (records lines : List String) : History :=
  { h with entries := newest h.limit (records ++ h.entries ++ recorded lines) }

theorem foldl_append_prepend (h : History) (records lines : List String) :
    lines.foldl append (h.prepend records) = h.filled records lines := by
  have bounded : (h.prepend records).entries.length ≤ (h.prepend records).limit :=
    length_newest_le ..
  rw [foldl_append_eq bounded, prepend, filled]
  simp only [newest_newest_append]

theorem save_eq_none (saved : h.save fs = (fs', none)) :
    fs.writeBelow h.path (Utf8.encode h.content) = (fs', none) := by
  unfold save at saved
  split at saved <;> simp_all

theorem exists_save (writable : fs.Writable h.path) : ∃ fs', h.save fs = (fs', none) := by
  have hnone := writable (Utf8.encode h.content)
  refine ⟨(fs.writeBelow h.path (Utf8.encode h.content)).1, ?_⟩
  rw [save]
  split <;> simp_all

theorem readRecords_of_save {store : History} (saved : store.save fs = (fs', none))
    (hpath : h.path = store.path) :
    h.readRecords fs' = .ok (some (store.entries.flatMap recordsOf)) := by
  have hread := Files.read_writeBelow (save_eq_none saved)
  rw [readRecords, hpath, hread]
  simp only [Utf8.decode_encode, content, recordsOf_join]

theorem flatMap_recordsOf_eq_self {entries : List String}
    (nonblank : ∀ entry ∈ entries, isBlankText entry = false)
    (unbroken : ∀ entry ∈ entries, Unbroken entry) : entries.flatMap recordsOf = entries := by
  induction entries with
  | nil => rfl
  | cons entry rest ih =>
    obtain ⟨hentry, hrest⟩ := List.forall_mem_cons.mp nonblank
    obtain ⟨hwhole, hothers⟩ := List.forall_mem_cons.mp unbroken
    rw [List.flatMap_cons, recordsOf_unbroken hwhole hentry, ih hrest hothers]
    rfl

theorem writable_empty : Files.empty.Writable "/history" := fun _ => rfl

/-- Saving a store and loading the file into a fresh one finds the records that the entries are cut
into, and restores the store exactly if no entry that is kept has a line break in it, be it one
that no line editor takes for the end of a line. -/
theorem load_save {path : String} {limit : Nat} (pos : 0 < limit) (lines : List String)
    (writable : fs.Writable path) :
    let fresh : History := ⟨path, limit, [], pos⟩
    let store := lines.foldl append fresh
    let records := store.entries.flatMap recordsOf
    ∃ fs', store.save fs = (fs', none) ∧
      fresh.load fs' = .ok (some records.length, fresh.prepend records) ∧
      (fresh.load fs' = .ok (some store.entries.length, store) ↔
        ∀ entry ∈ store.entries, Unbroken entry) := by
  intro fresh store records
  have hstore : store = { fresh with entries := newest limit (recorded lines) } :=
    foldl_append_eq (Nat.zero_le _) lines
  have hsound : store.Sound := by
    rw [hstore]
    exact sound_of_newest fun entry hentry => (mem_recorded.mp hentry).2
  have hpath : fresh.path = store.path := by rw [hstore]
  have hlimit : store.limit = fresh.limit := by rw [hstore]
  obtain ⟨fs', saved⟩ : ∃ fs', store.save fs = (fs', none) := exists_save (hpath ▸ writable)
  have hload : fresh.load fs' = .ok (some records.length, fresh.prepend records) := by
    rw [load, readRecords_of_save saved hpath]
  refine ⟨fs', saved, hload, ?_, ?_⟩
  · intro h entry hentry
    have heq : fresh.prepend records = store := by
      rw [hload] at h
      injection h with h
      exact congrArg Prod.snd h
    have hmem : entry ∈ records := by
      rw [← heq, prepend, List.append_nil] at hentry
      exact newest_subset _ _ hentry
    obtain ⟨cut, -, hcut⟩ := List.mem_flatMap.mp hmem
    exact (unbroken_of_mem_recordsOf hcut).1
  · intro unbroken
    have hrecords : records = store.entries :=
      flatMap_recordsOf_eq_self hsound.nonblank unbroken
    have heq : fresh.prepend records = store := by
      rw [hrecords, prepend, List.append_nil, newest_eq_self (hlimit ▸ hsound.bounded), hstore]
    rw [hload, heq, hrecords]

theorem load_save_tab :
    let fresh : History := ⟨"/history", 2, [], by decide⟩
    let store := ["list", " ", "set a 1", "say 'a\tb'"].foldl append fresh
    store.entries = ["set a 1", "say 'a\tb'"] ∧
      ∃ fs', store.save .empty = (fs', none) ∧ fresh.load fs' = .ok (some 2, store) := by
  intro fresh store
  have hentries : store.entries = ["set a 1", "say 'a\tb'"] := by decide
  obtain ⟨fs', saved, -, hrestored⟩ := load_save (show 0 < 2 by decide)
    ["list", " ", "set a 1", "say 'a\tb'"] writable_empty
  refine ⟨hentries, fs', saved, hrestored.mpr ?_⟩
  change ∀ entry ∈ store.entries, Unbroken entry
  rw [hentries]
  decide

/-- A vertical tab ends no line that is typed, but one that is loaded. -/
theorem load_save_verticalTab :
    let fresh : History := ⟨"/history", 2, [], by decide⟩
    let store := fresh.append "a\x0bb"
    '\n' ∉ "a\x0bb".toList ∧ '\r' ∉ "a\x0bb".toList ∧ store.entries = ["a\x0bb"] ∧
      ∃ fs', store.save .empty = (fs', none) ∧
        fresh.load fs' = .ok (some 2, { fresh with entries := ["a", "b"] }) := by
  intro fresh store
  have hentries : store.entries = ["a\x0bb"] := by decide
  obtain ⟨fs', saved⟩ : ∃ fs', store.save .empty = (fs', none) := exists_save writable_empty
  have hrecords : store.entries.flatMap recordsOf = ["a", "b"] := by
    rw [hentries]
    decide
  refine ⟨by decide, by decide, hentries, fs', saved, ?_⟩
  have hread : fresh.readRecords fs' = _ := readRecords_of_save saved rfl
  rw [load, hread, hrecords]
  rfl

end History
end CommandShell
