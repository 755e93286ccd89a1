import CommandShell.Config.Sources
import CommandShell.Proofs.Entries
import CommandShell.Proofs.Text.Upper

/-! Nested tables and the flat table that is made of them. The values of a nested table are written
one after the other, each under the names on the way to it as one key; so of the values whose names
make one key the last one stays, however deep it stands, and tables without values leave no
trace. Tables that are nested too deep are not flattened at all. -/

namespace CommandShell.Config

inductive IsLeaf : Value → List String → Value → Prop
  | field {fields : List (String × Value)} {name : String} {value : Value}
      (mem : (name, value) ∈ fields) (plain : ∀ inner, value ≠ .table inner) :
      IsLeaf (.table fields) [name] value
  | inside {fields : List (String × Value)} {name : String} {inner : Value} {path : List String}
      {value : Value} (mem : (name, inner) ∈ fields) (leaf : IsLeaf inner path value) :
      IsLeaf (.table fields) (name :: path) value

/-- The values that stand in the fields of a table and are no tables, with the names they stand
below: in the order of the fields, those of a table inside it in its place. -/
def leavesOf : List (String × Value) → List (List String × Value)
  | [] => []
  | (name, .table inner) :: rest =>
    (leavesOf inner).map (fun leaf => (name :: leaf.1, leaf.2)) ++ leavesOf rest
  | (name, value) :: rest => ([name], value) :: leavesOf rest

def leaves : Value → List (List String × Value)
  | .table fields => leavesOf fields
  | _ => []

def keyOf (path : List String) : String := Text.upper ("_".intercalate path)

/-- How deep tables stand in the fields of a table, itself counted. -/
def fieldsDepth : List (String × Value) → Nat
  | [] => 1
  | (_, .table fields) :: rest => max (fieldsDepth fields + 1) (fieldsDepth rest)
  | _ :: rest => fieldsDepth rest

def tableDepth : Value → Nat
  | .table fields => fieldsDepth fields
  | _ => 0

inductive AddsEmpty : List (String × Value) → List (String × Value) → Prop
  | here (name : String) (rest : List (String × Value)) :
      AddsEmpty rest ((name, .table []) :: rest)
  | inside {inner more : List (String × Value)} (name : String) (rest : List (String × Value))
      (adds : AddsEmpty inner more) :
      AddsEmpty ((name, .table inner) :: rest) ((name, .table more) :: rest)
  | later {rest more : List (String × Value)} (field : String × Value)
      (adds : AddsEmpty rest more) : AddsEmpty (field :: rest) (field :: more)

section Leaves

variable {fields : List (String × Value)} {path : List String} {value : Value}

theorem isLeaf_cons {name : String} {v : Value} :
    IsLeaf (.table ((name, v) :: fields)) path value ↔
      (path = [name] ∧ value = v ∧ ∀ inner, v ≠ .table inner) ∨
      (∃ below, path = name :: below ∧ IsLeaf v below value) ∨
      IsLeaf (.table fields) path value := by
  constructor
  · rintro (⟨mem, plain⟩ | ⟨mem, leaf⟩)
    · rcases List.mem_cons.mp mem with same | mem
      · cases same
        exact .inl ⟨rfl, rfl, plain⟩
      · exact .inr (.inr (.field mem plain))
    · rcases List.mem_cons.mp mem with same | mem
      · cases same
        exact .inr (.inl ⟨_, rfl, leaf⟩)
      · exact .inr (.inr (.inside mem leaf))
  · rintro (⟨rfl, rfl, plain⟩ | ⟨below, rfl, leaf⟩ | leaf)
    · exact .field List.mem_cons_self plain
    · exact .inside List.mem_cons_self leaf
    · cases leaf with
      | field mem plain => exact .field (List.mem_cons_of_mem _ mem) plain
      | inside mem leaf => exact .inside (List.mem_cons_of_mem _ mem) leaf

theorem mem_leavesOf_iff :
    (path, value) ∈ leavesOf fields ↔ IsLeaf (.table fields) path value := by
  induction fields using leavesOf.induct generalizing path with
  | case1 =>
    refine iff_of_false (by simp [leavesOf]) ?_
    rintro (⟨⟨⟩, -⟩ | ⟨⟨⟩, -⟩)
  | case2 name inner rest ihInner ihRest =>
    rw [leavesOf, List.mem_append, ihRest, isLeaf_cons]
    constructor
    · rintro (mem | leaf)
      · obtain ⟨⟨below, v⟩, found, same⟩ := List.mem_map.mp mem
        cases same
        exact .inr (.inl ⟨below, rfl, ihInner.mp found⟩)
      · exact .inr (.inr leaf)
    · rintro (⟨-, -, plain⟩ | ⟨below, rfl, leaf⟩ | leaf)
      · exact absurd rfl (plain inner)
      · exact .inl (List.mem_map.mpr ⟨_, ihInner.mpr leaf, rfl⟩)
      · exact .inr leaf
  | case3 name v rest plain ih =>
    have nothing (below : List String) : ¬IsLeaf v below value := by
      rintro (⟨-, -⟩ | ⟨-, -⟩) <;> exact plain _ rfl
    rw [leavesOf.eq_3 name v rest plain, List.mem_cons, Prod.mk.injEq, ih, isLeaf_cons]
    constructor
    · rintro (⟨hpath, hvalue⟩ | leaf)
      · exact .inl ⟨hpath, hvalue, plain⟩
      · exact .inr (.inr leaf)
    · rintro (⟨hpath, hvalue, -⟩ | ⟨below, -, leaf⟩ | leaf)
      · exact .inl ⟨hpath, hvalue⟩
      · exact absurd leaf (nothing below)
      · exact .inr leaf

theorem mem_leaves_iff {v : Value} : (path, value) ∈ leaves v ↔ IsLeaf v path value := by
  cases v with
  | table fields => exact mem_leavesOf_iff
  | _ => exact iff_of_false List.not_mem_nil nofun

theorem leavesOf_of_addsEmpty {more : List (String × Value)} (adds : AddsEmpty fields more) :
    leavesOf more = leavesOf fields := by
  induction adds with
  | here name rest => simp [leavesOf]
  | inside name rest adds ih => rw [leavesOf, leavesOf, ih]
  | later field adds ih =>
    obtain ⟨name, v⟩ := field
    cases v <;> simp only [leavesOf, ih]

end Leaves

/-! The key that the names on the way to a value are put together to. -/

theorem foldl_below {first : String} (named : first ≠ "") (rest : List String) :
    rest.foldl below first = "_".intercalate (first :: rest) := by
  induction rest generalizing first with
  | nil => exact String.intercalate_singleton.symm
  | cons name rest ih =>
    have further : below first name = first ++ "_" ++ name := if_neg (by simpa using named)
    have named : first ++ "_" ++ name ≠ "" := by simp [String.append_eq_empty_iff]
    rw [List.foldl_cons, further, ih named, String.intercalate_cons_cons]
    cases rest with
    | nil => simp [String.intercalate_singleton]
    | cons next rest => simp [String.intercalate_cons_cons, String.append_assoc]

theorem upper_foldl_below {path : List String} (named : "" ∉ path) :
    Text.upper (path.foldl below "") = keyOf path := by
  cases path with
  | nil => rfl
  | cons first rest =>
    have start : below "" first = first := if_pos rfl
    have hfirst : first ≠ "" := fun empty => named (empty ▸ List.mem_cons_self)
    rw [List.foldl_cons, start, foldl_below hfirst, keyOf]

/-! Flattening writes leaf after leaf, while the tables are no deeper than there is room. -/

theorem one_le_fieldsDepth (fields : List (String × Value)) : 1 ≤ fieldsDepth fields := by
  induction fields using fieldsDepth.induct with
  | case1 => rw [fieldsDepth]
  | case2 name inner rest _ ih => exact ih.trans (by rw [fieldsDepth]; exact le_max_right ..)
  | case3 field rest plain ih =>
    rw [fieldsDepth.eq_3 field rest plain]
    exact ih

def flattenedAt (path : String) (fields : List (String × Value)) : List (String × Value) :=
  (leavesOf fields).map fun leaf => (Text.upper (leaf.1.foldl below path), leaf.2)

theorem flattenInto_eq (room : Nat) (path : String) (flat : Entries Value)
    (fields : List (String × Value)) :
    flattenInto room path flat fields =
      if fieldsDepth fields ≤ room + 1 then .ok (Entries.merge flat (flattenedAt path fields))
      else .error tableFault := by
  induction room, path, flat, fields using flattenInto.induct with
  | case1 room path flat =>
    rw [flattenInto, fieldsDepth, if_pos (Nat.le_add_left ..), flattenedAt, leavesOf, List.map_nil,
      Entries.merge, List.foldl_nil]
  | case2 path flat name inner rest =>
    have deep : ¬fieldsDepth ((name, .table inner) :: rest) ≤ 0 + 1 := by
      have := one_le_fieldsDepth inner
      rw [fieldsDepth]
      omega
    rw [flattenInto, if_neg deep]
  | case3 path flat name inner rest room ihInner ihRest =>
    rw [flattenInto, ihInner, fieldsDepth]
    -- a table inside is flattened into nothing first, and then written over what is there
    by_cases shallow : fieldsDepth inner ≤ room + 1
    · have inside : Entries.merge flat (Entries.merge [] (flattenedAt (below path name) inner)) =
          Entries.merge flat (flattenedAt (below path name) inner) := Entries.merge_ofList flat _
      have joined : Entries.merge (Entries.merge flat (flattenedAt (below path name) inner))
          (flattenedAt path rest) =
            Entries.merge flat (flattenedAt path ((name, .table inner) :: rest)) := by
        rw [flattenedAt, flattenedAt, flattenedAt, leavesOf, List.map_append, List.map_map]
        exact (List.foldl_append ..).symm
      rw [if_pos shallow]
      change flattenInto _ _ _ rest = _
      rw [ihRest, inside, joined]
      exact if_congr (by omega) rfl rfl
    · rw [if_neg shallow, if_neg (by omega)]
      rfl
  | case4 room path flat name v rest plain ih =>
    rw [flattenInto.eq_4 room path flat name v rest plain, ih,
      fieldsDepth.eq_3 (name, v) rest fun n inner same => plain inner (Prod.mk.inj same).2,
      flattenedAt, flattenedAt, leavesOf.eq_3 name v rest plain]
    rfl

def keyedLeaves (v : Value) : List (String × Value) :=
  (leaves v).map fun leaf => (Text.upper (leaf.1.foldl below ""), leaf.2)

/-- What is left of a value that is not too deep: of its leaves with one key, the last. -/
def flattened (v : Value) : Entries Value := Entries.ofList (keyedLeaves v)

theorem flatten_eq (v : Value) :
    flatten v = if tableDepth v ≤ tableLimit then .ok (flattened v) else .error tableFault := by
  cases v with
  | table fields => exact flattenInto_eq (tableLimit - 1) "" [] fields
  | _ => rfl

theorem keyedLeaves_empty : keyedLeaves (.table []) = [] := by simp [keyedLeaves, leaves, leavesOf]

theorem flattened_empty : flattened (.table []) = [] := by
  rw [flattened, keyedLeaves_empty]
  rfl

theorem keyedLeaves_eq {v : Value} (named : ∀ leaf ∈ leaves v, "" ∉ leaf.1) :
    keyedLeaves v = (leaves v).map fun leaf => (keyOf leaf.1, leaf.2) :=
  List.map_congr_left fun leaf hleaf => by rw [upper_foldl_below (named leaf hleaf)]

theorem nodup_keys_flattened (v : Value) : (Entries.keys (flattened v)).Nodup :=
  Entries.nodup_keys_ofList _

theorem Sources.upperKeys_eq_self {entries : Entries Value} (nodup : (Entries.keys entries).Nodup)
    (upper : ∀ key ∈ Entries.keys entries, Text.upper key = key) : upperKeys entries = entries := by
  have same : entries.map (fun e => (Text.upper e.1, e.2)) = entries := by
    refine (List.map_congr_left fun e he => ?_).trans (List.map_id' entries)
    rw [upper e.1 (List.mem_map_of_mem he)]
  rw [upperKeys, same, Entries.ofList_eq_self nodup]

theorem upperKeys_flattened (v : Value) : Sources.upperKeys (flattened v) = flattened v := by
  refine Sources.upperKeys_eq_self (nodup_keys_flattened v) fun key hkey => ?_
  rw [flattened, Entries.mem_keys_ofList, keyedLeaves] at hkey
  obtain ⟨_, hpair, rfl⟩ := List.mem_map.mp hkey
  obtain ⟨leaf, -, rfl⟩ := List.mem_map.mp hpair
  exact Text.upper_upper _

theorem orNothing_ok (v : Value) : Sources.orNothing (.ok v) = flatten v := by
  rw [Sources.orNothing, flatten_eq]
  split
  · rw [Except.map, upperKeys_flattened]
  · rfl

theorem fieldsDepth_le_of_addsEmpty {fields more : List (String × Value)}
    (adds : AddsEmpty fields more) : fieldsDepth fields ≤ fieldsDepth more := by
  induction adds with
  | here name rest =>
    rw [fieldsDepth]
    exact le_max_right ..
  | inside name rest adds ih =>
    rw [fieldsDepth, fieldsDepth]
    exact max_le_max (Nat.succ_le_succ ih) le_rfl
  | later field adds ih =>
    obtain ⟨name, v⟩ := field
    cases v with
    | table inner =>
      rw [fieldsDepth, fieldsDepth]
      exact max_le_max le_rfl ih
    | _ => simpa only [fieldsDepth] using ih

/-- A value inside tables, each of which holds nothing but the next one. -/
def nested (name : String) (value : Value) : (depth : Nat) → Value
  | 0 => value
  | depth + 1 => .table [(name, nested name value depth)]

theorem leaves_nested {name : String} {value : Value} (plain : ∀ inner, value ≠ .table inner)
    (depth : Nat) :
    leaves (nested name value (depth + 1)) = [(List.replicate (depth + 1) name, value)] := by
  induction depth with
  | zero => simp [nested, leaves, leavesOf.eq_3 name value [] plain, leavesOf]
  | succ depth ih =>
    rw [nested] at ih ⊢
    rw [nested]
    change leavesOf _ = _ at ih
    simp [leaves, leavesOf, ih, List.replicate_succ]

theorem tableDepth_nested {name : String} {value : Value} (plain : ∀ inner, value ≠ .table inner)
    (depth : Nat) : tableDepth (nested name value (depth + 1)) = depth + 1 := by
  induction depth with
  | zero =>
    have last (n : String) (inner : List (String × Value)) :
        (name, value) = (n, .table inner) → False :=
      fun same => plain inner (Prod.mk.inj same).2
    rw [nested, nested, tableDepth, fieldsDepth.eq_3 _ _ last, fieldsDepth]
  | succ depth ih =>
    rw [nested] at ih ⊢
    rw [nested]
    change fieldsDepth _ = _ at ih
    simp [tableDepth, fieldsDepth, ih]

end CommandShell.Config
