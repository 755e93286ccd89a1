import CommandShell.Proofs.History.RoundTrip

/-! Any row of operations on one store, each on the files that it finds. The store is trimmed after
every one of them, at its beginning, while lines come in at both of its ends; it always holds the
newest of what a store without a limit would hold. -/

namespace CommandShell

theorem newest_append_newest {α : Type} {n : Nat} (xs ys : List α) :
    newest n (xs ++ newest n ys) = newest n (xs ++ ys) := by
  have hlength : n - (newest n ys).length = n - ys.length := by
    rw [length_newest]
    omega
  rw [newest_append, newest_append, newest_newest, Nat.min_self, hlength]

namespace History
open Text

variable {h : History}

inductive Operation
  | append (line : String)
  | load (fs : Files)
  | save (fs : Files)

/-- The store after an operation, and what the operation raised if it failed. -/
def perform (h : History) : Operation → History × Option Raised
  | .append line => (h.append line, none)
  | .load fs =>
    match h.load fs with
    | .ok (_, loaded) => (loaded, none)
    | .error e => (h, some e)
  | .save fs => (h, (h.save fs).2)

def performAll (h : History) (operations : List Operation) : History :=
  operations.foldl (fun h operation => (h.perform operation).1) h

/-- The lines of a file that are not blank; none if it is absent or cannot be read as a text. -/
def linesIn (path : String) (fs : Files) : List String :=
  match fs.read path with
  | .error _ => []
  | .ok bytes =>
    match Utf8.decode bytes with
    | .error _ => []
    | .ok content => recorded (splitLines content)

def Operation.loaded (path : String) : Operation → List String
  | .load fs => linesIn path fs
  | _ => []

def Operation.appended : Operation → List String
  | .append line => [line]
  | _ => []

/-- What was loaded, the last load first, and behind it what was appended. -/
def untrimmed (path : String) (operations : List Operation) : List String :=
  operations.reverse.flatMap (·.loaded path) ++ recorded (operations.flatMap (·.appended))

theorem filled_nil_nil (bounded : h.entries.length ≤ h.limit) : h.filled [] [] = h := by
  rw [filled, recorded, List.filter_nil, List.append_nil, List.nil_append, newest_eq_self bounded]

theorem filled_filled (h : History) (records lines records' lines' : List String) :
    (h.filled records lines).filled records' lines' =
      h.filled (records' ++ records) (lines ++ lines') := by
  have hentries : newest h.limit (records' ++
        newest h.limit (records ++ h.entries ++ recorded lines) ++ recorded lines') =
      newest h.limit (records' ++ records ++ h.entries ++ recorded (lines ++ lines')) := by
    rw [← newest_newest_append, newest_append_newest, newest_newest_append, recorded_append]
    simp only [List.append_assoc]
  rw [filled, filled, filled, hentries]

theorem linesIn_eq (h : History) (fs : Files) :
    linesIn h.path fs = match h.readRecords fs with
      | .ok (some records) => records
      | _ => [] := by
  unfold linesIn readRecords
  cases fs.read h.path with
  | error f =>
    cases f with
    | file cause => cases cause <;> rfl
    | _ => rfl
  | ok bytes =>
    dsimp only
    cases Utf8.decode bytes with
    | error e => rfl
    | ok content => exact (recordsOf_eq content).symm

theorem perform_load (bounded : h.entries.length ≤ h.limit) (fs : Files) :
    (h.perform (.load fs)).1 = h.filled (linesIn h.path fs) [] := by
  have unchanged := filled_nil_nil bounded
  rw [linesIn_eq]
  simp only [perform, load]
  cases h.readRecords fs with
  | error e => exact unchanged.symm
  | ok found =>
    cases found with
    | none => exact unchanged.symm
    | some records => simp [prepend, filled, recorded]

theorem perform_eq (bounded : h.entries.length ≤ h.limit) (operation : Operation) :
    (h.perform operation).1 = h.filled (operation.loaded h.path) operation.appended := by
  cases operation with
  | append line => exact append_eq bounded line
  | load fs => exact perform_load bounded fs
  | save fs => exact (filled_nil_nil bounded).symm

theorem performAll_eq (bounded : h.entries.length ≤ h.limit) (operations : List Operation) :
    h.performAll operations =
      h.filled (operations.reverse.flatMap (·.loaded h.path)) (operations.flatMap (·.appended)) := by
  induction operations generalizing h with
  | nil => exact (filled_nil_nil bounded).symm
  | cons operation rest ih =>
    have first := perform_eq bounded operation
    have hrest : h.performAll (operation :: rest) = ((h.perform operation).1).performAll rest := rfl
    rw [hrest, first, ih (length_newest_le ..), filled_filled]
    simp [filled]

theorem perform_of_raised {operation : Operation} {e : Raised}
    (raised : (h.perform operation).2 = some e) : (h.perform operation).1 = h := by
  cases operation with
  | append line => cases raised
  | load fs =>
    simp only [perform] at raised ⊢
    cases loaded : h.load fs with
    | ok result =>
      rw [loaded] at raised
      cases raised
    | error f => rfl
  | save fs => rfl

theorem isBlankText_of_mem_untrimmed {path line : String} {operations : List Operation}
    (h : line ∈ untrimmed path operations) : isBlankText line = false := by
  rcases List.mem_append.mp h with hloaded | happended
  · obtain ⟨operation, -, hline⟩ := List.mem_flatMap.mp hloaded
    cases operation with
    | load fs =>
      simp only [Operation.loaded, linesIn] at hline
      split at hline
      · cases hline
      · split at hline
        · cases hline
        · exact (mem_recorded.mp hline).2
    | append line => cases hline
    | save fs => cases hline
  · exact (mem_recorded.mp happended).2

/-- After any operations, loads and saves being made of files that may have changed, a store holds
the newest of what it would hold without a limit. So no entry is blank, there are never more than
the limit, and an operation that fails leaves the store as it is, as does a load that finds no
lines. -/
theorem performAll_entries {path : String} {limit : Nat} (pos : 0 < limit)
    (operations : List Operation) :
    let store := performAll ⟨path, limit, [], pos⟩ operations
    store.entries = newest limit (untrimmed path operations) ∧
    (∀ entry ∈ store.entries, isBlankText entry = false) ∧ store.entries.length ≤ limit ∧
    (∀ operation e, (store.perform operation).2 = some e → (store.perform operation).1 = store) ∧
    ∀ fs, linesIn path fs = [] → (store.perform (.load fs)).1 = store := by
  intro store
  let fresh : History := ⟨path, limit, [], pos⟩
  have hstore : store = fresh.filled (operations.reverse.flatMap (·.loaded path))
      (operations.flatMap (·.appended)) :=
    performAll_eq (h := fresh) (Nat.zero_le _) operations
  have entries : store.entries = newest limit (untrimmed path operations) := by
    rw [hstore, filled, List.append_nil, untrimmed]
  have bounded : store.entries.length ≤ limit := entries ▸ length_newest_le ..
  have hpath : store.path = path := by rw [hstore, filled]
  have hlimit : store.limit = limit := by rw [hstore, filled]
  refine ⟨entries, fun entry hentry => ?_, bounded, fun _ _ => perform_of_raised, fun fs none => ?_⟩
  · exact isBlankText_of_mem_untrimmed (newest_subset _ _ (entries ▸ hentry))
  · have bounded : store.entries.length ≤ store.limit := hlimit ▸ bounded
    rw [perform_load bounded, hpath, none, filled_nil_nil bounded]

theorem performAll_entries_three :
    let file : Files := ⟨[("/history", .file (Utf8.encode "one\n\ntwo"))]⟩
    let directory : Files := ⟨[("/history", .directory)]⟩
    let operations : List Operation := [.append "three", .load file, .append " ", .load .empty,
      .load directory, .append "four", .save directory]
    let store := performAll ⟨"/history", 3, [], by decide⟩ operations
    store.entries = ["two", "three", "four"] ∧
      (store.perform (.load directory)).2 =
        some (.shell (.historyFile "/history" (.isDirectory "/history"))) ∧
      (store.perform (.load directory)).1 = store := by
  intro file directory operations store
  obtain ⟨entries, -, -, failed, -⟩ := performAll_entries (show 0 < 3 by decide) operations
  have full : untrimmed "/history" operations = ["one", "two", "three", "four"] := by
    decide +kernel
  have raised : (store.perform (.load directory)).2 =
      some (.shell (.historyFile "/history" (.isDirectory "/history"))) := by decide +kernel
  rw [full] at entries
  exact ⟨entries, raised, failed _ _ raised⟩

end History
end CommandShell
