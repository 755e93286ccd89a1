import CommandShell.Proofs.Registry.LastWrite
import Mathlib.Data.List.Pairwise
import Mathlib.Data.List.Sort

/-! The order in which a registry lists its entries. With case counting, a name stays where it was
first registered; in a folding registry it moves to the end each time it is registered. If no two
names are spellings of each other, both list the same entries, and they list them in the same order
unless some name was registered before all the registrations of another and again after them. -/

namespace CommandShell.Registry

variable {α : Type} {r : Registry α} {log : List (String × α)}

/-- The first registration of one name comes before that of another. -/
def FirstBefore (log : List (String × α)) (a b : String) : Prop :=
  (Entries.keys log).idxOf a < (Entries.keys log).idxOf b

/-- The last registration of one name comes before that of another. -/
def LastBefore (log : List (String × α)) (a b : String) : Prop :=
  (Entries.keys log).reverse.idxOf b < (Entries.keys log).reverse.idxOf a

theorem FirstBefore.ne {a b : String} (h : FirstBefore log a b) : a ≠ b := by
  rintro rfl
  exact Nat.lt_irrefl _ h

theorem FirstBefore.concat {a b : String} (h : FirstBefore log a b) (ha : a ∈ Entries.keys log)
    (hb : b ∈ Entries.keys log) (entry : String × α) : FirstBefore (log ++ [entry]) a b := by
  rw [FirstBefore, Entries.keys, List.map_append] at *
  rwa [List.idxOf_append_of_mem ha, List.idxOf_append_of_mem hb]

theorem firstBefore_concat_self {a name : String} (ha : a ∈ Entries.keys log)
    (fresh : name ∉ Entries.keys log) (value : α) :
    FirstBefore (log ++ [(name, value)]) a name := by
  rw [FirstBefore, Entries.keys, List.map_append] at *
  rw [List.idxOf_append_of_mem ha, List.idxOf_append_of_notMem fresh]
  exact Nat.lt_add_right _ (List.idxOf_lt_length_of_mem ha)

theorem keys_reverse_concat (log : List (String × α)) (name : String) (value : α) :
    (Entries.keys (log ++ [(name, value)])).reverse = name :: (Entries.keys log).reverse := by
  simp [Entries.keys]

theorem LastBefore.concat {a b name : String} (h : LastBefore log a b) (ha : a ≠ name)
    (hb : b ≠ name) (value : α) : LastBefore (log ++ [(name, value)]) a b := by
  rw [LastBefore, keys_reverse_concat, List.idxOf_cons_ne _ hb.symm, List.idxOf_cons_ne _ ha.symm]
  exact Nat.succ_lt_succ h

theorem lastBefore_concat_self {a name : String} (ha : a ≠ name) (value : α) :
    LastBefore (log ++ [(name, value)]) a name := by
  rw [LastBefore, keys_reverse_concat, List.idxOf_cons_self, List.idxOf_cons_ne _ ha.symm]
  exact Nat.succ_pos _

theorem names_insert_of_listed (exact : r.folding = false) {name : String}
    (listed : name ∈ r.names) (value : α) : (r.insert name value).names = r.names := by
  rw [names, insert, Entries.keys_put, exact]
  exact if_pos listed

theorem names_insert_of_fresh (exact : r.folding = false) {name : String}
    (fresh : name ∉ r.names) (value : α) : (r.insert name value).names = r.names ++ [name] := by
  rw [names, insert, Entries.keys_put, exact]
  exact if_neg fresh

theorem names_insert_of_only (folding : r.folding = true) {name : String}
    (only : ∀ n ∈ r.names, Text.lower n = Text.lower name → n = name) (value : α) :
    (r.insert name value).names = r.names.filter (· ≠ name) ++ [name] := by
  have same : ∀ p ∈ r.entries, (!Text.sameFolded p.1 name) = decide (p.1 ≠ name) := by
    intro p hp
    by_cases hname : p.1 = name
    · simp [hname, Text.sameFolded]
    · have apart : Text.lower p.1 ≠ Text.lower name := fun h =>
        hname (only p.1 (List.mem_map_of_mem hp) h)
      simp [hname, Text.sameFolded, apart]
  rw [names, entries_insert_of_folding folding, Entries.keys, List.map_append,
    List.filter_congr same, names, Entries.keys, List.filter_map]
  rfl

structure Lists (r : Registry α) (log : List (String × α))
    (before : List (String × α) → String → String → Prop) : Prop extends Records r log where
  mem_names_iff : ∀ n, n ∈ r.names ↔ n ∈ Entries.keys log
  inOrder : r.names.Pairwise (before log)

namespace Lists

variable {before : List (String × α) → String → String → Prop}

theorem empty (folding : Bool) : (empty folding : Registry α).Lists [] before where
  toRecords := .empty folding
  mem_names_iff _ := Iff.rfl
  inOrder := .nil

theorem insert (h : r.Lists log before) {name : String} (checked : checkName name = none)
    {value : α} (members : ∀ n, n ∈ (r.insert name value).names ↔ n ∈ r.names ∨ n = name)
    (inOrder : (r.insert name value).names.Pairwise (before (log ++ [(name, value)]))) :
    (r.insert name value).Lists (log ++ [(name, value)]) before where
  toRecords := h.toRecords.insert checked value
  mem_names_iff n := by
    rw [members, h.mem_names_iff]
    simp [Entries.keys]
  inOrder := inOrder

theorem insert_exact (h : r.Lists log FirstBefore) (exact : r.folding = false) {name : String}
    (checked : checkName name = none) (value : α) :
    (r.insert name value).Lists (log ++ [(name, value)]) FirstBefore := by
  have logged : ∀ {n}, n ∈ r.names → n ∈ Entries.keys log := fun {n} => (h.mem_names_iff n).mp
  have kept : r.names.Pairwise (FirstBefore (log ++ [(name, value)])) :=
    h.inOrder.imp_of_mem fun ha hb first => first.concat (logged ha) (logged hb) _
  by_cases listed : name ∈ r.names
  · have names := names_insert_of_listed exact listed value
    refine h.insert checked (fun n => ?_) (names ▸ kept)
    rw [names]
    exact (or_iff_left_of_imp fun e => e ▸ listed).symm
  · have names := names_insert_of_fresh exact listed value
    refine h.insert checked (fun n => ?_) ?_
    · rw [names, List.mem_append, List.mem_singleton]
    · rw [names, List.pairwise_append]
      refine ⟨kept, List.pairwise_singleton _ _, fun a ha b hb => ?_⟩
      obtain rfl := List.mem_singleton.mp hb
      exact firstBefore_concat_self (logged ha) (mt (h.mem_names_iff _).mpr listed) value

theorem insert_folding (h : r.Lists log LastBefore) (folding : r.folding = true) {name : String}
    (only : ∀ n ∈ r.names, Text.lower n = Text.lower name → n = name)
    (checked : checkName name = none) (value : α) :
    (r.insert name value).Lists (log ++ [(name, value)]) LastBefore := by
  have names := names_insert_of_only folding only value
  have others : ∀ {n}, n ∈ r.names.filter (· ≠ name) → n ≠ name := fun hn =>
    of_decide_eq_true (List.mem_filter.mp hn).2
  refine h.insert checked (fun n => ?_) ?_
  · rw [names, List.mem_append, List.mem_filter, List.mem_singleton]
    by_cases hn : n = name <;> simp [hn]
  · rw [names, List.pairwise_append]
    refine ⟨?_, List.pairwise_singleton _ _, fun a ha b hb => ?_⟩
    · exact (h.inOrder.filter _).imp_of_mem fun ha hb last =>
        last.concat (others ha) (others hb) value
    · obtain rfl := List.mem_singleton.mp hb
      exact lastBefore_concat_self (others ha) value

theorem mem_entries_iff (h : r.Lists log before) (p : String × α) :
    p ∈ r.entries ↔ Entries.find? log.reverse p.1 = some p.2 := by
  rw [← Entries.find?_eq_some_iff h.distinct]
  by_cases hp : p.1 ∈ r.names
  · rw [h.latest p.1 hp]
  · have unlisted : Entries.find? r.entries p.1 = none := by
      rwa [← Option.not_isSome_iff_eq_none, Entries.find?_isSome_iff]
    have unlogged : Entries.find? log.reverse p.1 = none := by
      rw [h.mem_names_iff] at hp
      rw [← Option.not_isSome_iff_eq_none, Entries.find?_isSome_iff, Entries.keys,
        List.map_reverse, List.mem_reverse]
      exact hp
    rw [unlisted, unlogged]

theorem nodup_entries (h : r.Lists log before) : r.entries.Nodup := .of_map _ h.distinct

end Lists

/-- A registry after a row of registrations, some of which may be refused, with case counting. -/
def registerAllExact (calls : List (String × Export α)) : Registry α :=
  (Registry.empty false).changeAll (calls.map fun call => .register call.1 call.2)

/-- No two of the names that were accepted are spellings of each other. -/
def Unmixed (calls : List (String × Export α)) : Prop :=
  ∀ p ∈ acceptedCalls calls, ∀ q ∈ acceptedCalls calls,
    Text.lower p.1 = Text.lower q.1 → p.1 = q.1

theorem accepted_subset {c : Change α} {changes : List (Change α)} (h : c ∈ changes) :
    accepted [c] ⊆ accepted changes :=
  List.filterMap_subset _ (by simpa using h)

theorem lists_registerAllExact (calls : List (String × Export α)) :
    (registerAllExact calls).Lists (acceptedCalls calls) FirstBefore := by
  let P (r : Registry α) log := r.folding = false ∧ r.Lists log FirstBefore
  have keeps : ∀ c ∈ calls.map fun call => Change.register call.1 call.2, ∀ r log,
      P r log → P (r.change c) (log ++ accepted [c]) := by
    intro c hc r log ⟨exact, h⟩
    obtain ⟨call, -, rfl⟩ := List.mem_map.mp hc
    rcases r.change_register_cases call.1 call.2 with ⟨value, hlog, checked, heq⟩ | ⟨hlog, heq⟩
    · rw [heq, hlog]
      exact ⟨exact, h.insert_exact exact checked value⟩
    · rw [heq, hlog, List.append_nil]
      exact ⟨exact, h⟩
  exact (changeAll_induction keeps ⟨rfl, .empty false⟩).2

theorem lists_registerAll {calls : List (String × Export α)} (unmixed : Unmixed calls) :
    (registerAll calls).Lists (acceptedCalls calls) LastBefore := by
  let P (r : Registry α) log :=
    r.folding = true ∧ r.Lists log LastBefore ∧ ∀ p ∈ log, p ∈ acceptedCalls calls
  have keeps : ∀ c ∈ calls.map fun call => Change.register call.1 call.2, ∀ r log,
      P r log → P (r.change c) (log ++ accepted [c]) := by
    intro c hc r log ⟨folding, h, within⟩
    obtain ⟨call, -, rfl⟩ := List.mem_map.mp hc
    rcases r.change_register_cases call.1 call.2 with ⟨value, hlog, checked, heq⟩ | ⟨hlog, heq⟩
    · have entry : (call.1, value) ∈ acceptedCalls calls :=
        accepted_subset hc (hlog ▸ List.mem_singleton_self _)
      have only : ∀ n ∈ r.names, Text.lower n = Text.lower call.1 → n = call.1 := by
        intro n hn same
        obtain ⟨p, hp, rfl⟩ := List.mem_map.mp ((h.mem_names_iff n).mp hn)
        exact unmixed p (within p hp) _ entry same
      rw [heq, hlog]
      refine ⟨folding, h.insert_folding folding only checked value, fun p hp => ?_⟩
      rcases List.mem_append.mp hp with hp | hp
      · exact within p hp
      · exact List.mem_singleton.mp hp ▸ entry
    · rw [heq, hlog, List.append_nil]
      exact ⟨folding, h, within⟩
  have start : P (Registry.empty true) [] := ⟨rfl, .empty true, by simp⟩
  exact (changeAll_induction keeps start).2.1

/-- A name is registered before all the registrations of another, and again after them. -/
def Straddles (log : List (String × α)) (a b : String) : Prop :=
  b ∈ Entries.keys log ∧ FirstBefore log a b ∧ LastBefore log b a

theorem lastBefore_or {a b : String} (hb : b ∈ Entries.keys log) (hne : a ≠ b) :
    LastBefore log a b ∨ LastBefore log b a := by
  have places : (Entries.keys log).reverse.idxOf b ≠ (Entries.keys log).reverse.idxOf a :=
    mt (List.idxOf_inj (List.mem_reverse.mpr hb)).mp hne.symm
  exact lt_or_gt_of_ne places

theorem Lists.perm {before before' : List (String × α) → String → String → Prop}
    {one other : Registry α} (h : one.Lists log before) (h' : other.Lists log before') :
    one.entries.Perm other.entries := by
  rw [List.perm_ext_iff_of_nodup h.nodup_entries h'.nodup_entries]
  intro p
  rw [h.mem_entries_iff, h'.mem_entries_iff]

theorem Lists.not_straddles {exact folded : Registry α} (first : exact.Lists log FirstBefore)
    (last : folded.Lists log LastBefore) (same : folded.names = exact.names) (a b : String) :
    ¬Straddles log a b := by
  rintro ⟨hb, hfirst, hlast⟩
  let Apart (a b : String) := ¬Straddles log a b ∧ ¬Straddles log b a
  have symm : Std.Symm Apart := ⟨fun _ _ => And.symm⟩
  have apart : exact.names.Pairwise Apart := by
    refine (first.inOrder.and (same ▸ last.inOrder)).imp fun {a b} ⟨hfirst, hlast⟩ => ⟨?_, ?_⟩
    · exact fun straddles => Nat.lt_asymm hlast straddles.2.2
    · exact fun straddles => Nat.lt_asymm hfirst straddles.2.1
  have ha : a ∈ Entries.keys log := List.idxOf_lt_length_iff.mp
    (Nat.lt_trans hfirst (List.idxOf_lt_length_of_mem hb))
  have alone := apart.forall ((first.mem_names_iff a).mpr ha) ((first.mem_names_iff b).mpr hb)
    hfirst.ne
  exact alone.1 ⟨hb, hfirst, hlast⟩

/-- Registries that list the same names, by their first and by their last registration, list them in
the same order just when no name straddles another. -/
theorem Lists.entries_eq_iff {exact folded : Registry α} (first : exact.Lists log FirstBefore)
    (last : folded.Lists log LastBefore) :
    folded.entries = exact.entries ↔ ∀ a b, ¬Straddles log a b := by
  constructor
  · intro same
    exact first.not_straddles last (by rw [names, names, same])
  · intro none
    let After (p q : String × α) := LastBefore log p.1 q.1
    have irrefl : Std.Irrefl After := ⟨fun _ => Nat.lt_irrefl _⟩
    have antisymm : Std.Antisymm After := ⟨fun _ _ hpq hqp => absurd hpq (Nat.lt_asymm hqp)⟩
    have lasts : exact.names.Pairwise (LastBefore log) := by
      refine first.inOrder.imp_of_mem fun {a b} ha hb hfirst => ?_
      have logged := (first.mem_names_iff b).mp hb
      exact (lastBefore_or logged hfirst.ne).resolve_right fun hlast =>
        none a b ⟨logged, hfirst, hlast⟩
    have folded : folded.entries.Pairwise After := List.pairwise_map.mp last.inOrder
    refine folded.eq_of_mem_iff (List.pairwise_map.mp lasts) fun p => ?_
    rw [last.mem_entries_iff, first.mem_entries_iff]

/-- Without two spellings of one name, case folding changes nothing in what is listed but its order.
Each name stands there with the command it was last given, in the order of the first registrations
while case counts and in the order of the last ones while it does not. The two orders are the same
just when no name was registered both before all the registrations of another and after them. -/
theorem registerAll_entries_eq_iff (calls : List (String × Export α)) (unmixed : Unmixed calls) :
    let log := acceptedCalls calls
    (registerAll calls).entries.Perm (registerAllExact calls).entries ∧
    (∀ p, p ∈ (registerAll calls).entries ↔ Entries.find? log.reverse p.1 = some p.2) ∧
    (registerAllExact calls).names.Pairwise (FirstBefore log) ∧
    (registerAll calls).names.Pairwise (LastBefore log) ∧
    ((registerAll calls).entries = (registerAllExact calls).entries ↔
      ∀ a b, ¬Straddles log a b) := by
  intro log
  have first : (registerAllExact calls).Lists log FirstBefore := lists_registerAllExact calls
  have last : (registerAll calls).Lists log LastBefore := lists_registerAll unmixed
  exact ⟨last.perm first, last.mem_entries_iff, first.inOrder, last.inOrder,
    first.entries_eq_iff last⟩

theorem registerAll_entries_eq_iff_turns :
    let calls := [("a", Export.command 1), ("b", .command 2), ("exit", .command 3),
      ("a", .command 4), ("b", .command 5)]
    Unmixed calls ∧ (registerAll calls).entries = (registerAllExact calls).entries ∧
      (registerAllExact calls).entries = [("a", 4), ("b", 5)] := by
  intro calls
  have log : acceptedCalls calls = [("a", 1), ("b", 2), ("a", 4), ("b", 5)] := by decide
  have unmixed : Unmixed calls := by
    rw [Unmixed, log]
    decide
  obtain ⟨-, -, -, -, alike⟩ := registerAll_entries_eq_iff calls unmixed
  refine ⟨unmixed, alike.mpr ?_, by decide⟩
  rw [log]
  intro a b ⟨logged, first, last⟩
  have named : b = "a" ∨ b = "b" := by grind [Entries.keys]
  rcases named with rfl | rfl
  · exact Nat.not_lt_zero _ first
  · exact Nat.not_lt_zero _ last

/-- A name that is registered before and after another is listed before it while case counts, and
after it while it does not, though neither name has a second spelling. -/
theorem registerAll_entries_again :
    let calls := [("a", Export.command 1), ("b", .command 2), ("a", .command 3)]
    Unmixed calls ∧ (registerAllExact calls).entries = [("a", 3), ("b", 2)] ∧
      (registerAll calls).entries = [("b", 2), ("a", 3)] := by
  intro calls
  have log : acceptedCalls calls = [("a", 1), ("b", 2), ("a", 3)] := by decide
  refine ⟨?_, by decide⟩
  rw [Unmixed, log]
  decide

end CommandShell.Registry
