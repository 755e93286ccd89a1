import CommandShell.Files
import Mathlib.Tactic.Common

/-! Reading what was written. A file that is written holds what was written to it, the directories
that are there stay, and every other file keeps what it holds. -/

namespace CommandShell

namespace Files

variable {fs fs' : Files}

/-- The name under which the node at the end of a path is kept. -/
def placeOf (path : String) : String :=
  Location.ofNames (Location.ascend [] (Location.parts path))

def Place.target : Place → Option (List String × Option Node)
  | found names node => some (names, some node)
  | free names => some (names, none)
  | _ => none

theorem nodeAt_put (fs : Files) (names : List String) (node : Node) (query : List String) :
    (fs.put names node).nodeAt query =
      if query ≠ [] ∧ Location.ofNames query = Location.ofNames names then some node
      else fs.nodeAt query := by
  cases query with
  | nil => simp [nodeAt]
  | cons name rest => simp [nodeAt, put, Entries.find?_put]

theorem ne_nil_of_nodeAt {names : List String} (h : fs.nodeAt names ≠ some .directory) :
    names ≠ [] := by
  rintro rfl
  exact h rfl

theorem nodeAt_put_self {names : List String} (h : fs.nodeAt names ≠ some .directory)
    (node : Node) : (fs.put names node).nodeAt names = some node := by
  rw [nodeAt_put, if_pos ⟨ne_nil_of_nodeAt h, rfl⟩]

theorem nodeAt_put_of_ne {names query : List String}
    (h : Location.ofNames query ≠ Location.ofNames names) (node : Node) :
    (fs.put names node).nodeAt query = fs.nodeAt query := by
  rw [nodeAt_put, if_neg fun hq => h hq.2]

theorem nodeAt_eq_of_ofNames_eq {names query : List String} (hn : names ≠ []) (hq : query ≠ [])
    (h : Location.ofNames query = Location.ofNames names) : fs.nodeAt query = fs.nodeAt names := by
  simp [nodeAt, hn, hq, h]

theorem target_walk {done rest names : List String} {node : Option Node}
    (h : (fs.walk done rest).target = some (names, node)) :
    names = Location.ascend done rest ∧ fs.nodeAt names = node := by
  induction rest generalizing done with
  | nil =>
    rw [walk] at h
    rw [Location.ascend]
    split at h <;> simp_all [Place.target]
  | cons name rest ih =>
    rw [walk] at h
    rw [Location.ascend]
    split at h
    · simp [Place.target] at h
    · simp [Place.target] at h
    · split at h
      · next hup => exact (if_pos hup) ▸ ih h
      · next hup =>
        split at h
        · simp [Place.target] at h
        · exact (if_neg hup) ▸ ih h

theorem placeOf_of_target {path : String} {names : List String} {node : Option Node}
    (h : (fs.find path).target = some (names, node)) : Location.ofNames names = placeOf path := by
  rw [placeOf, (target_walk h).1]

def KeepsDirectories (fs fs' : Files) : Prop :=
  ∀ names, fs.nodeAt names = some .directory → fs'.nodeAt names = some .directory

theorem KeepsDirectories.target_walk {done rest names : List String} {node : Option Node}
    (kept : KeepsDirectories fs fs') (h : (fs.walk done rest).target = some (names, node)) :
    (fs'.walk done rest).target = some (names, fs'.nodeAt names) := by
  induction rest generalizing done with
  | nil =>
    have hnames : names = done.reverse := (Files.target_walk h).1
    rw [walk, hnames]
    cases fs'.nodeAt done.reverse <;> rfl
  | cons name rest ih =>
    rw [walk] at h
    split at h
    · simp [Place.target] at h
    · simp [Place.target] at h
    · next hdone =>
      rw [walk, kept _ hdone]
      dsimp only
      split at h
      · next hup => exact (if_pos hup) ▸ ih h
      · next hup =>
        rw [if_neg hup]
        split at h
        · simp [Place.target] at h
        · next hshort => exact (if_neg hshort) ▸ ih h

theorem keepsDirectories_put {names : List String} (h : fs.nodeAt names ≠ some .directory)
    (node : Node) : KeepsDirectories fs (fs.put names node) := by
  intro query hquery
  rw [nodeAt_put, if_neg]
  · exact hquery
  · rintro ⟨hne, heq⟩
    exact h ((nodeAt_eq_of_ofNames_eq (ne_nil_of_nodeAt h) hne heq) ▸ hquery)

theorem read_eq_ok {path : String} {bytes : List UInt8} :
    fs.read path = .ok bytes ↔ checkPath path = .ok () ∧
      ∃ names, (fs.find path).target = some (names, some (.file bytes)) := by
  unfold read
  cases hcheck : checkPath path with
  | error e => simp [bind, Except.bind]
  | ok u =>
    simp only [bind, Except.bind]
    cases fs.find path with
    | found names node => cases node <;> simp [Place.target]
    | _ => simp [Place.target]

theorem write_eq_ok {path : String} {bytes : List UInt8} :
    fs.write path bytes = .ok fs' ↔ checkPath path = .ok () ∧
      ∃ names node, (fs.find path).target = some (names, node) ∧ node ≠ some .directory ∧
        fs' = fs.put names (.file bytes) := by
  unfold write
  cases hcheck : checkPath path with
  | error e => simp [bind, Except.bind]
  | ok u =>
    simp only [bind, Except.bind]
    cases fs.find path with
    | found names node => cases node <;> simp [Place.target, eq_comm]
    | _ => simp [Place.target, eq_comm]

theorem KeepsDirectories.read_eq_ok {path : String} {names : List String} {node : Option Node}
    {bytes : List UInt8} (kept : KeepsDirectories fs fs') (hpath : checkPath path = .ok ())
    (htarget : (fs.find path).target = some (names, node))
    (hnode : fs'.nodeAt names = some (.file bytes)) : fs'.read path = .ok bytes := by
  rw [Files.read_eq_ok]
  exact ⟨hpath, names, hnode ▸ kept.target_walk htarget⟩

theorem read_write {path : String} {bytes : List UInt8} (h : fs.write path bytes = .ok fs') :
    fs'.read path = .ok bytes := by
  obtain ⟨hpath, names, node, htarget, hnode, rfl⟩ := write_eq_ok.mp h
  have hfree : fs.nodeAt names ≠ some .directory := (target_walk htarget).2 ▸ hnode
  exact (keepsDirectories_put hfree _).read_eq_ok hpath htarget (nodeAt_put_self hfree _)

theorem read_put_of_ne {names : List String} {node : Node} {other : String} {bytes : List UInt8}
    (hfree : fs.nodeAt names ≠ some .directory) (hne : placeOf other ≠ Location.ofNames names)
    (h : fs.read other = .ok bytes) : (fs.put names node).read other = .ok bytes := by
  obtain ⟨hother, query, hquery⟩ := read_eq_ok.mp h
  have hnode : (fs.put names node).nodeAt query = some (.file bytes) := by
    rw [nodeAt_put_of_ne (placeOf_of_target hquery ▸ hne), (target_walk hquery).2]
  exact (keepsDirectories_put hfree _).read_eq_ok hother hquery hnode

theorem read_write_of_ne {path other : String} {bytes old : List UInt8}
    (h : fs.write path bytes = .ok fs') (hne : placeOf other ≠ placeOf path)
    (hold : fs.read other = .ok old) : fs'.read other = .ok old := by
  obtain ⟨-, names, node, htarget, hnode, rfl⟩ := write_eq_ok.mp h
  have hfree : fs.nodeAt names ≠ some .directory := (target_walk htarget).2 ▸ hnode
  exact read_put_of_ne hfree (placeOf_of_target htarget ▸ hne) hold

theorem append_of_read {path : String} {old : List UInt8} (h : fs.read path = .ok old)
    (new : List UInt8) :
    ∃ fs', fs.append path new = .ok fs' ∧ fs.write path (old ++ new) = .ok fs' := by
  obtain ⟨hpath, names, htarget⟩ := read_eq_ok.mp h
  refine ⟨fs.put names (.file (old ++ new)), ?_, ?_⟩
  · rw [append, hpath]
    cases hfind : fs.find path <;> simp_all [Place.target]
    rfl
  · rw [write_eq_ok]
    exact ⟨hpath, names, _, htarget, by simp, rfl⟩

theorem makeDirectory_eq_ok {path : String} (h : fs.makeDirectory path = .ok fs') :
    fs' = fs ∨ ∃ names, (fs.find path).target = some (names, none) ∧
      fs' = fs.put names .directory := by
  unfold makeDirectory at h
  cases hcheck : checkPath path with
  | error e => simp [hcheck, bind, Except.bind] at h
  | ok u =>
    simp only [hcheck, bind, Except.bind] at h
    cases hfind : fs.find path with
    | found names node => cases node <;> simp_all
    | free names =>
      refine .inr ⟨names, rfl, ?_⟩
      simpa [hfind, eq_comm] using h
    | _ => simp [hfind] at h

def KeepsFiles (fs fs' : Files) : Prop :=
  ∀ path bytes, fs.read path = .ok bytes → fs'.read path = .ok bytes

theorem keepsFiles_makeDirectory {path : String} (h : fs.makeDirectory path = .ok fs') :
    KeepsFiles fs fs' := by
  intro other bytes hread
  obtain rfl | ⟨names, htarget, rfl⟩ := makeDirectory_eq_ok h
  · exact hread
  · have hnode := (target_walk htarget).2
    have hfree : fs.nodeAt names ≠ some .directory := by simp [hnode]
    obtain ⟨-, query, hquery⟩ := read_eq_ok.mp hread
    have hbytes := (target_walk hquery).2
    refine read_put_of_ne hfree ?_ hread
    -- a file is there under the one name and nothing under the other
    intro heq
    have hfile : fs.nodeAt query ≠ some .directory := by simp [hbytes]
    rw [← placeOf_of_target hquery] at heq
    have hsame : fs.nodeAt query = fs.nodeAt names :=
      nodeAt_eq_of_ofNames_eq (ne_nil_of_nodeAt hfree) (ne_nil_of_nodeAt hfile) heq
    rw [hsame, hnode] at hbytes
    cases hbytes

theorem keepsFiles_makeDirectories (path : String) (fuel : Nat) :
    KeepsFiles fs (fs.makeDirectories path fuel).1 := by
  induction fuel generalizing path fs with
  | zero =>
    rw [makeDirectories]
    cases h : fs.makeDirectory path with
    | error e => exact fun _ _ hread => hread
    | ok made => exact keepsFiles_makeDirectory h
  | succ fuel ih =>
    rw [makeDirectories]
    split
    · next made h => exact keepsFiles_makeDirectory h
    · have hparents : KeepsFiles fs _ := ih (Location.parent path)
      split
      · next made e h => rwa [h] at hparents
      · next parents h =>
        rw [h] at hparents
        cases hlast : parents.makeDirectory path with
        | error e => exact hparents
        | ok made =>
          exact fun other bytes hread => keepsFiles_makeDirectory hlast _ _ (hparents _ _ hread)
    · exact fun _ _ hread => hread

theorem writeBelow_eq_none {path : String} {bytes : List UInt8}
    (h : fs.writeBelow path bytes = (fs', none)) :
    ∃ made, KeepsFiles fs made ∧ made.write path bytes = .ok fs' := by
  unfold writeBelow at h
  split at h
  · simp at h
  · next made hmade =>
    have kept : KeepsFiles fs _ :=
      keepsFiles_makeDirectories (Location.parent path) (Location.parts path).length
    rw [hmade] at kept
    split at h
    · next written hwrite =>
      simp only [Prod.mk.injEq, and_true] at h
      exact ⟨made, kept, h ▸ hwrite⟩
    · simp at h

theorem read_writeBelow {path : String} {bytes : List UInt8}
    (h : fs.writeBelow path bytes = (fs', none)) : fs'.read path = .ok bytes := by
  obtain ⟨made, -, hwrite⟩ := writeBelow_eq_none h
  exact read_write hwrite

theorem read_writeBelow_of_ne {path other : String} {bytes old : List UInt8}
    (h : fs.writeBelow path bytes = (fs', none)) (hne : placeOf other ≠ placeOf path)
    (hold : fs.read other = .ok old) : fs'.read other = .ok old := by
  obtain ⟨made, kept, hwrite⟩ := writeBelow_eq_none h
  exact read_write_of_ne hwrite hne (kept other old hold)

/-- Nothing is in the way of writing a file at a path, whatever is written. -/
def Writable (fs : Files) (path : String) : Prop := ∀ bytes, (fs.writeBelow path bytes).2 = none

def HasDirectory (fs : Files) (path : String) : Prop :=
  checkPath path = .ok () ∧ ∃ names, fs.find path = .found names .directory

theorem HasDirectory.of_keeps {path : String} (h : fs.HasDirectory path)
    (kept : KeepsDirectories fs fs') : fs'.HasDirectory path := by
  obtain ⟨hpath, names, hfind⟩ := h
  have htarget : (fs.find path).target = some (names, some .directory) := by rw [hfind]; rfl
  have hnode : fs'.nodeAt names = some .directory := kept names (target_walk htarget).2
  have hfound : (fs'.find path).target = some (names, some .directory) :=
    hnode ▸ kept.target_walk htarget
  refine ⟨hpath, names, ?_⟩
  cases hplace : fs'.find path <;> simp_all [Place.target]

theorem HasDirectory.makeDirectories_eq {path : String} (h : fs.HasDirectory path) (fuel : Nat) :
    fs.makeDirectories path fuel = (fs, none) := by
  have hmake : fs.makeDirectory path = .ok fs := by
    rw [makeDirectory, h.1, h.2.choose_spec]
    rfl
  cases fuel <;> rw [makeDirectories, hmake]

theorem hasDirectory_of_makeDirectory {path : String} (h : fs.makeDirectory path = .ok fs') :
    fs'.HasDirectory path := by
  have hpath : checkPath path = .ok () := by
    cases hcheck : checkPath path with
    | error e => simp [makeDirectory, hcheck, bind, Except.bind] at h
    | ok u => rfl
  obtain rfl | ⟨names, htarget, rfl⟩ := makeDirectory_eq_ok h
  · simp only [makeDirectory, hpath, bind, Except.bind] at h
    cases hfind : fs'.find path with
    | found names node =>
      cases node with
      | directory => exact ⟨hpath, names, hfind⟩
      | file bytes => simp [hfind] at h
    | free names =>
      -- a directory that is put where there is nothing is something new
      have htarget : (fs'.find path).target = some (names, none) := by rw [hfind]; rfl
      have hnone := (target_walk htarget).2
      have hfree : fs'.nodeAt names ≠ some .directory := by simp [hnone]
      have hput : fs'.put names .directory = fs' := by simpa [hfind] using h
      rw [← hput, nodeAt_put_self hfree] at hnone
      cases hnone
    | _ => simp [hfind] at h
  · have hfree : fs.nodeAt names ≠ some .directory := by simp [(target_walk htarget).2]
    have hnode := nodeAt_put_self hfree .directory
    have hfound : ((fs.put names .directory).find path).target = some (names, some .directory) :=
      hnode ▸ (keepsDirectories_put hfree _).target_walk htarget
    refine ⟨hpath, names, ?_⟩
    cases hplace : (fs.put names .directory).find path <;> simp_all [Place.target]

theorem hasDirectory_of_makeDirectories {path : String} {fuel : Nat}
    (h : fs.makeDirectories path fuel = (fs', none)) : fs'.HasDirectory path := by
  cases fuel with
  | zero =>
    rw [makeDirectories] at h
    split at h <;> simp only [Prod.mk.injEq, reduceCtorEq, and_false, and_true] at h
    next made hmade => exact h ▸ hasDirectory_of_makeDirectory hmade
  | succ fuel =>
    rw [makeDirectories] at h
    split at h
    · next made hmade =>
      simp only [Prod.mk.injEq, and_true] at h
      exact h ▸ hasDirectory_of_makeDirectory hmade
    · split at h
      · simp at h
      · split at h <;> simp only [Prod.mk.injEq, reduceCtorEq, and_false, and_true] at h
        next made hmade => exact h ▸ hasDirectory_of_makeDirectory hmade
    · simp at h

theorem writable_writeBelow {path : String} {bytes : List UInt8}
    (h : fs.writeBelow path bytes = (fs', none)) : fs'.Writable path := by
  intro new
  unfold writeBelow at h
  split at h
  · simp at h
  · next made hmade =>
    split at h
    · next written hwrite =>
      obtain rfl : written = fs' := by simpa using h
      obtain ⟨hpath, names, node, htarget, hnode, hput⟩ := write_eq_ok.mp hwrite
      have hfree : made.nodeAt names ≠ some .directory := (target_walk htarget).2 ▸ hnode
      have kept : KeepsDirectories made written := hput ▸ keepsDirectories_put hfree _
      obtain ⟨-, query, hquery⟩ := read_eq_ok.mp (read_write hwrite)
      have hagain : written.write path new = .ok (written.put query (.file new)) :=
        write_eq_ok.mpr ⟨hpath, query, _, hquery, by simp, rfl⟩
      rw [writeBelow,
        ((hasDirectory_of_makeDirectories hmade).of_keeps kept).makeDirectories_eq]
      simp only [hagain]
    · simp at h

def Refusal (e : Fault) : Prop := ∃ f, e = .file f

theorem checkPath_eq_ok {path : String} (h : '\x00' ∉ path.toList) : checkPath path = .ok () := by
  simp [checkPath, h]

theorem refusal_of_read {path : String} {e : Fault} (hpath : '\x00' ∉ path.toList)
    (h : fs.read path = .error e) : Refusal e := by
  simp only [read, checkPath_eq_ok hpath, bind, Except.bind] at h
  split at h <;> cases h <;> exact ⟨_, rfl⟩

theorem refusal_of_write {path : String} {bytes : List UInt8} {e : Fault}
    (hpath : '\x00' ∉ path.toList) (h : fs.write path bytes = .error e) : Refusal e := by
  simp only [write, checkPath_eq_ok hpath, bind, Except.bind] at h
  split at h <;> cases h <;> exact ⟨_, rfl⟩

theorem refusal_of_makeDirectory {path : String} {e : Fault} (hpath : '\x00' ∉ path.toList)
    (h : fs.makeDirectory path = .error e) : Refusal e := by
  simp only [makeDirectory, checkPath_eq_ok hpath, bind, Except.bind] at h
  split at h <;> cases h <;> exact ⟨_, rfl⟩

end Files

namespace Text

theorem mem_of_mem_cutAt {separator c : Char} {cs part : List Char}
    (hpart : part ∈ cutAt separator cs) (hc : c ∈ part) : c ∈ cs := by
  induction cs generalizing part with
  | nil => simp_all [cutAt]
  | cons d rest ih =>
    rw [cutAt] at hpart
    split at hpart
    · rcases List.mem_cons.mp hpart with rfl | hpart
      · simp at hc
      · exact List.mem_cons_of_mem d (ih hpart hc)
    · split at hpart
      · simp_all
      · next first others hcut =>
        rcases List.mem_cons.mp hpart with rfl | hpart
        · rcases List.mem_cons.mp hc with rfl | hc
          · exact List.mem_cons_self
          · exact List.mem_cons_of_mem d (ih (hcut ▸ List.mem_cons_self) hc)
        · exact List.mem_cons_of_mem d (ih (hcut ▸ List.mem_cons_of_mem first hpart) hc)

end Text

namespace Location

theorem mem_root {path : String} {c : Char} (h : c ∈ (root path).toList) : c = '/' := by
  unfold root at h
  split at h <;> simp_all

theorem mem_of_mem_parts {path part : String} {c : Char} (hpart : part ∈ parts path)
    (hc : c ∈ part.toList) : c ∈ path.toList := by
  obtain ⟨cs, hcs, rfl⟩ := List.mem_map.mp (List.mem_filter.mp hpart).1
  exact Text.mem_of_mem_cutAt hcs (by simpa using hc)

theorem mem_intercalate {names : List String} {c : Char} {p : Prop}
    (h : c ∈ ("/".intercalate names).toList) (hname : ∀ name ∈ names, c ∈ name.toList → p) :
    c = '/' ∨ p := by
  induction names with
  | nil => simp at h
  | cons name rest ih =>
    have hrest := fun n hn => hname n (List.mem_cons_of_mem name hn)
    cases rest with
    | nil => exact .inr (hname name List.mem_cons_self (by simpa using h))
    | cons next rest =>
      simp only [String.intercalate_cons_cons, String.toList_append, List.mem_append] at h
      rcases h with (h | h) | h
      · exact .inr (hname name List.mem_cons_self h)
      · exact .inl (by simpa using h)
      · exact ih h hrest

theorem mem_parent {path : String} {c : Char} (h : c ∈ (parent path).toList) :
    c = '/' ∨ c ∈ path.toList := by
  rw [parent, String.toList_append, List.mem_append] at h
  rcases h with h | h
  · exact .inl (mem_root h)
  · exact mem_intercalate h fun part hpart hc => mem_of_mem_parts (List.dropLast_subset _ hpart) hc

theorem not_mem_parent {path : String} (h : '\x00' ∉ path.toList) :
    '\x00' ∉ (parent path).toList := by
  intro hmem
  rcases mem_parent hmem with hslash | hmem
  · simp at hslash
  · exact h hmem

end Location

namespace Files

variable {fs : Files}

theorem refusal_of_makeDirectories {path : String} (hpath : '\x00' ∉ path.toList) (fuel : Nat)
    {e : Fault} (h : (fs.makeDirectories path fuel).2 = some e) : Refusal e := by
  induction fuel generalizing path fs with
  | zero =>
    rw [makeDirectories] at h
    split at h
    · simp at h
    · next hmade =>
      cases h
      exact refusal_of_makeDirectory hpath hmade
  | succ fuel ih =>
    rw [makeDirectories] at h
    split at h
    · simp at h
    · split at h
      · next parents hparents =>
        cases h
        exact ih (Location.not_mem_parent hpath) (by rw [hparents])
      · split at h
        · simp at h
        · next hmade =>
          cases h
          exact refusal_of_makeDirectory hpath hmade
    · next hmade =>
      cases h
      exact refusal_of_makeDirectory hpath hmade

theorem refusal_of_writeBelow {path : String} {bytes : List UInt8} (hpath : '\x00' ∉ path.toList)
    {e : Fault} (h : (fs.writeBelow path bytes).2 = some e) : Refusal e := by
  unfold writeBelow at h
  split at h
  · next made hmade =>
    cases h
    exact refusal_of_makeDirectories (Location.not_mem_parent hpath) _ (by rw [hmade])
  · split at h
    · simp at h
    · next hwrite =>
      cases h
      exact refusal_of_write hpath hwrite

end Files
end CommandShell
