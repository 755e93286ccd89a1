import CommandShell.Proofs.Files.Written
import CommandShell.Proofs.Statement

/-! The directory above a file. The path of the directory above goes through all names of a path but
the last, and where a file can be read it leads to a directory: what can be read can be written,
whatever it is to hold. -/

namespace CommandShell

namespace Text

theorem not_mem_of_mem_cutAt {separator : Char} {cs part : List Char}
    (h : part ∈ cutAt separator cs) : separator ∉ part := by
  induction cs generalizing part with
  | nil => simp_all [cutAt]
  | cons c rest ih =>
    rw [cutAt] at h
    split at h
    · rcases List.mem_cons.mp h with rfl | h
      · simp
      · exact ih h
    · next hc =>
      split at h
      · obtain rfl : part = [c] := by simpa using h
        simpa using Ne.symm hc
      · next first others hcut =>
        rcases List.mem_cons.mp h with rfl | h
        · have := ih (hcut ▸ List.mem_cons_self : first ∈ cutAt separator rest)
          simp [this, Ne.symm hc]
        · exact ih (hcut ▸ List.mem_cons_of_mem first h)

end Text

namespace Location

structure IsStep (name : String) : Prop where
  goes : (name != "" && name != ".") = true
  whole : '/' ∉ name.toList

theorem isStep_of_mem_parts {path name : String} (h : name ∈ parts path) : IsStep name := by
  obtain ⟨hpart, goes⟩ := List.mem_filter.mp h
  obtain ⟨cs, hcs, rfl⟩ := List.mem_map.mp hpart
  exact ⟨goes, by simpa using Text.not_mem_of_mem_cutAt hcs⟩

theorem parts_slash_append (path : String) : parts ("/" ++ path) = parts path := by
  have hcut : Text.cutAt '/' ("/" ++ path).toList = [] :: Text.cutAt '/' path.toList := by
    simp [Text.cutAt]
  rw [parts, Text.parts, hcut]
  rfl

theorem parts_root_append (path rest : String) : parts (root path ++ rest) = parts rest := by
  have twice : "//" = "/" ++ "/" := by decide
  unfold root
  split
  · exact parts_slash_append rest
  · rw [twice, String.append_assoc, parts_slash_append, parts_slash_append]
  · exact parts_slash_append rest
  · rw [String.empty_append]

theorem IsStep.parts_eq {name : String} (h : IsStep name) : parts name = [name] := by
  simp [parts, Text.parts, Text.cutAt_of_not_mem h.whole, h.goes]

theorem IsStep.parts_append {name : String} (h : IsStep name) (rest : String) :
    parts (name ++ "/" ++ rest) = name :: parts rest := by
  have hcut : Text.cutAt '/' (name ++ "/" ++ rest).toList =
      name.toList :: Text.cutAt '/' rest.toList := by
    have := Text.cutAt_append '/' name.toList rest.toList
    rw [Text.cutAt_of_not_mem h.whole] at this
    simpa using this
  rw [parts, Text.parts, hcut, List.map_cons, String.ofList_toList]
  exact List.filter_cons_of_pos h.goes

theorem parts_intercalate {names : List String} (h : ∀ name ∈ names, IsStep name) :
    parts ("/".intercalate names) = names := by
  induction names with
  | nil => decide
  | cons name rest ih =>
    obtain ⟨hname, hrest⟩ := List.forall_mem_cons.mp h
    cases rest with
    | nil => exact hname.parts_eq
    | cons next rest => rw [String.intercalate_cons_cons, hname.parts_append, ih hrest]

theorem parts_parent (path : String) : parts (parent path) = (parts path).dropLast := by
  have steps : ∀ name ∈ (parts path).dropLast, IsStep name :=
    fun name h => isStep_of_mem_parts (List.dropLast_subset _ h)
  rw [parent, parts_root_append, parts_intercalate steps]

end Location

namespace Files

variable {fs : Files}

theorem walk_of_target {done front names : List String} {name : String} {node : Option Node}
    (h : (fs.walk done (front ++ [name])).target = some (names, node)) :
    ∃ above, fs.walk done front = .found above .directory := by
  induction front generalizing done with
  | nil =>
    rw [List.nil_append, walk] at h
    split at h
    · simp [Place.target] at h
    · simp [Place.target] at h
    · next hdone => exact ⟨done.reverse, by rw [walk, hdone]⟩
  | cons first front ih =>
    rw [List.cons_append, walk] at h
    rw [walk]
    split at h
    · simp [Place.target] at h
    · simp [Place.target] at h
    · next hdone =>
      split at h
      · next hup => exact (if_pos hup) ▸ ih h
      · next hup =>
        rw [if_neg hup]
        split at h
        · simp [Place.target] at h
        · next hshort => exact (if_neg hshort) ▸ ih h

theorem hasDirectory_parent {path : String} {bytes : List UInt8} (h : fs.read path = .ok bytes) :
    fs.HasDirectory (Location.parent path) := by
  obtain ⟨hpath, names, htarget⟩ := read_eq_ok.mp h
  have hzero : '\x00' ∉ path.toList := by
    intro hmem
    simp [checkPath, hmem] at hpath
  refine ⟨checkPath_eq_ok (Location.not_mem_parent hzero), ?_⟩
  rw [find, Location.parts_parent]
  rw [find] at htarget
  cases hlast : (Location.parts path).getLast? with
  | none =>
    -- only the root has no name, and it is no file
    rw [List.getLast?_eq_none_iff.mp hlast] at htarget
    simp [walk, nodeAt, Place.target] at htarget
  | some name =>
    obtain ⟨front, hparts⟩ := List.getLast?_eq_some_iff.mp hlast
    rw [hparts] at htarget ⊢
    rw [List.dropLast_concat]
    exact walk_of_target htarget

theorem writable_of_read {path : String} {bytes : List UInt8} (h : fs.read path = .ok bytes) :
    fs.Writable path := by
  intro new
  obtain ⟨hpath, names, htarget⟩ := read_eq_ok.mp h
  have hwrite : fs.write path new = .ok (fs.put names (.file new)) :=
    write_eq_ok.mpr ⟨hpath, names, _, htarget, by simp, rfl⟩
  rw [writeBelow, (hasDirectory_parent h).makeDirectories_eq]
  simp only [hwrite]

end Files
end CommandShell
