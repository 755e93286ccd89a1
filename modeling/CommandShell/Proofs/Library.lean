import CommandShell.Plugin
import CommandShell.Proofs.Entries
import Mathlib.Data.List.Forall2

/-! The modules that loading a package visits, told by the tree of its sources alone: `Visits`
looks at what stands in which directory. One list of modules fits each package. -/

namespace CommandShell.Library

variable {δ : Type}

theorem after?_eq_some {start s rest : String} :
    after? start s = some rest ↔ s = start ++ rest := by
  rw [after?, Option.ite_none_right_eq_some, List.isPrefixOf_iff_prefix, ← String.length_toList,
    Option.some_inj, ← String.toList_inj, ← String.toList_inj, String.toList_ofList,
    String.toList_append]
  constructor
  · rintro ⟨⟨after, heq⟩, hdrop⟩
    rw [← heq, List.drop_left] at hdrop
    rw [← heq, hdrop]
  · intro heq
    rw [heq]
    exact ⟨List.prefix_append _ _, List.drop_left⟩

/-- What stands directly in a directory: a file, or a directory with something below it. -/
def Holds (lib : Library δ) (directory entry : String) : Prop :=
  '/' ∉ entry.toList ∧ ∃ p ∈ Entries.keys lib.sources,
    p = path directory entry ∨ ∃ rest, p = path directory entry ++ "/" ++ rest

def Found.entry (f : Found) : String := if f.isPackage then f.name else f.name ++ ".py"

/-- A directory is a module if it has a source of its own, and a file if it is not that source. -/
structure IsModule (lib : Library δ) (directory : String) (f : Found) : Prop where
  named : f.name ≠ ""
  undotted : '.' ∉ f.name.toList
  held : lib.Holds directory f.entry
  package : f.isPackage = true → lib.Holds (path directory f.name) "__init__.py"
  plain : f.isPackage = false → f.name ≠ "__init__"

/-- The modules of a directory in the order of what they are read from; the first of each name. -/
structure Lists (lib : Library δ) (directory : String) (found : List Found) : Prop where
  sorted : found.Pairwise fun f g => f.entry < g.entry
  mem : ∀ f, f ∈ found ↔ lib.IsModule directory f ∧
    ∀ g, lib.IsModule directory g → g.name = f.name → f.entry ≤ g.entry

/-- What is imported for a module: the entry point of a package that has one, or the module. -/
inductive Enters (lib : Library δ) (package directory : String) : Found → String → Prop
  | entryPoint {name : String} (held : lib.Holds (path directory name) "entrypoint.py") :
    Enters lib package directory ⟨name, true⟩ (package ++ "." ++ name ++ ".entrypoint")
  | whole {f : Found}
    (none : f.isPackage = true → ¬ lib.Holds (path directory f.name) "entrypoint.py") :
    Enters lib package directory f (package ++ "." ++ f.name)

/-- The directories are gone through in turn. Modules that start with an underscore are private. -/
inductive VisitsIn (lib : Library δ) (package : String) : List String → List String → Prop
  | nil : VisitsIn lib package [] []
  | cons {directory : String} {directories : List String} {found : List Found}
    {modules others : List String} (lists : lib.Lists directory found)
    (enters : List.Forall₂ (lib.Enters package directory)
      (found.filter fun f => f.name.toList.head? != some '_') modules)
    (visits : VisitsIn lib package directories others) :
    VisitsIn lib package (directory :: directories) (modules ++ others)

def Visits (lib : Library δ) (package : String) (directories modules : List String) : Prop :=
  ∃ below, lib.VisitsIn package directories below ∧ modules = package :: below

variable {lib : Library δ} {package directory entry : String} {f g : Found}

section Unique

theorem Lists.unique {found others : List Found} (h : lib.Lists directory found)
    (h' : lib.Lists directory others) : found = others := by
  have distinct {l : List Found} (sorted : l.Pairwise fun f g => f.entry < g.entry) : l.Nodup :=
    List.nodup_iff_pairwise_ne.mpr (sorted.imp fun hlt heq => ne_of_lt hlt (congrArg _ heq))
  refine List.Perm.eq_of_pairwise ?_ h.sorted h'.sorted
    ((List.perm_ext_iff_of_nodup (distinct h.sorted) (distinct h'.sorted)).mpr fun f => ?_)
  · intro f g _ _ hlt hgt
    exact absurd hgt (lt_asymm hlt)
  · rw [h.mem, h'.mem]

theorem Enters.unique {module other : String} (h : lib.Enters package directory f module)
    (h' : lib.Enters package directory f other) : module = other := by
  cases h with
  | entryPoint held =>
    cases h' with
    | entryPoint => rfl
    | whole none => exact absurd held (none rfl)
  | whole none =>
    cases h' with
    | entryPoint held => exact absurd held (none rfl)
    | whole => rfl

theorem VisitsIn.unique {directories below others : List String}
    (h : lib.VisitsIn package directories below) (h' : lib.VisitsIn package directories others) :
    below = others := by
  induction h generalizing others with
  | nil =>
    cases h'
    rfl
  | cons lists enters _ ih =>
    cases h' with
    | cons lists' enters' visits' =>
      obtain rfl := lists.unique lists'
      have same := List.right_unique_forall₂' (fun _ _ _ a b => a.unique b) enters enters'
      rw [same, ih visits']

theorem Visits.unique {directories modules others : List String}
    (h : lib.Visits package directories modules) (h' : lib.Visits package directories others) :
    modules = others := by
  obtain ⟨below, visits, rfl⟩ := h
  obtain ⟨below', visits', rfl⟩ := h'
  rw [visits.unique visits']

end Unique

/-! ### The modules that are looked up -/

theorem takeWhile_ne_eq_iff {c : Char} {l word : List Char} :
    l.takeWhile (· ≠ c) = word ↔ c ∉ word ∧ (l = word ∨ ∃ rest, l = word ++ c :: rest) := by
  induction l generalizing word with
  | nil => cases word <;> simp
  | cons d l ih =>
    by_cases h : d = c
    · subst h
      cases word with
      | nil => simp
      | cons e word =>
        simp
        grind
    · rw [List.takeWhile_cons_of_pos (by simpa using h)]
      cases word with
      | nil => simpa using h
      | cons e word =>
        simp only [List.cons.injEq, ih, List.mem_cons, List.cons_append]
        grind

theorem firstName_eq_iff {below : String} : firstName below = entry ↔
    '/' ∉ entry.toList ∧ (below = entry ∨ ∃ rest, below = entry ++ "/" ++ rest) := by
  have split : (∃ rest : String, below = entry ++ "/" ++ rest) ↔
      ∃ rest, below.toList = entry.toList ++ '/' :: rest := by
    constructor
    · rintro ⟨rest, rfl⟩
      exact ⟨rest.toList, by simp⟩
    · rintro ⟨rest, h⟩
      exact ⟨String.ofList rest, String.toList_inj.mp (by simp [h])⟩
  rw [split, firstName, ← String.toList_inj, String.toList_ofList, takeWhile_ne_eq_iff,
    String.toList_inj]

theorem mem_insertName {name n : String} {l : List String} :
    n ∈ insertName name l ↔ n = name ∨ n ∈ l := by
  induction l with
  | nil => simp [insertName]
  | cons m l ih =>
    rw [insertName]
    split
    · simp
    · split
      · next heq => simp [heq]
      · rw [List.mem_cons, ih, List.mem_cons, or_left_comm]

theorem pairwise_insertName {name : String} {l : List String} (h : l.Pairwise (· < ·)) :
    (insertName name l).Pairwise (· < ·) := by
  induction l with
  | nil => simp [insertName]
  | cons m l ih =>
    obtain ⟨first, rest⟩ := List.pairwise_cons.mp h
    rw [insertName]
    split
    · next hlt =>
      refine List.pairwise_cons.mpr ⟨fun n hn => ?_, h⟩
      rcases List.mem_cons.mp hn with rfl | hn
      · exact hlt
      · exact lt_trans hlt (first n hn)
    · split
      · exact h
      · next hle hne =>
        refine List.pairwise_cons.mpr ⟨fun n hn => ?_, ih rest⟩
        rcases mem_insertName.mp hn with rfl | hn
        · exact lt_of_le_of_ne (le_of_not_gt hle) (Ne.symm hne)
        · exact first n hn

theorem mem_names : entry ∈ lib.names directory ↔ lib.Holds directory entry := by
  have mem (found : List String) : entry ∈ found.foldr insertName [] ↔ entry ∈ found := by
    induction found with
    | nil => simp
    | cons n found ih => rw [List.foldr_cons, mem_insertName, ih, List.mem_cons]
  rw [names, mem, List.mem_filterMap, Holds]
  simp only [Option.map_eq_some_iff, after?_eq_some, firstName_eq_iff, path]
  constructor
  · rintro ⟨p, hp, below, rfl, hentry, rfl | ⟨rest, rfl⟩⟩
    · exact ⟨hentry, _, hp, .inl rfl⟩
    · exact ⟨hentry, _, hp, .inr ⟨rest, by simp only [String.append_assoc]⟩⟩
  · rintro ⟨hentry, p, hp, rfl | ⟨rest, rfl⟩⟩
    · exact ⟨_, hp, entry, rfl, hentry, .inl rfl⟩
    · exact ⟨_, hp, entry ++ "/" ++ rest, by simp only [String.append_assoc], hentry,
        .inr ⟨rest, rfl⟩⟩

theorem pairwise_names (lib : Library δ) (directory : String) :
    (lib.names directory).Pairwise (· < ·) := by
  rw [names]
  induction (Entries.keys lib.sources).filterMap _ with
  | nil => exact List.Pairwise.nil
  | cons n found ih => exact pairwise_insertName ih

theorem anythingAt_iff (hentry : '/' ∉ entry.toList) (named : path directory entry ≠ "") :
    lib.anythingAt (path directory entry) = true ↔ lib.Holds directory entry := by
  have below (p : String) : (after? (within (path directory entry)) p).isSome = true ↔
      ∃ rest, p = path directory entry ++ "/" ++ rest := by
    rw [within, if_neg (by simpa using named), Option.isSome_iff_exists]
    simp only [after?_eq_some]
  rw [anythingAt, Bool.or_eq_true, Entries.find?_isSome_iff, isDirectory, List.any_eq_true, Holds]
  simp only [below]
  constructor
  · rintro (h | ⟨p, hp, h⟩)
    · exact ⟨hentry, _, h, .inl rfl⟩
    · exact ⟨hentry, p, hp, .inr h⟩
  · rintro ⟨-, p, hp, rfl | h⟩
    · exact .inl hp
    · exact .inr ⟨p, hp, h⟩

theorem isDirectory_of_holds (h : lib.Holds directory entry) : lib.isDirectory directory = true := by
  obtain ⟨-, p, hp, h⟩ := h
  have inside : ∃ rest, after? (within directory) p = some rest := by
    simp only [after?_eq_some]
    rcases h with rfl | ⟨rest, rfl⟩
    · exact ⟨entry, rfl⟩
    · exact ⟨entry ++ "/" ++ rest, by simp only [path, String.append_assoc]⟩
  exact List.any_eq_true.mpr ⟨p, hp, Option.isSome_iff_exists.mpr inside⟩

theorem moduleName?_eq_some {file name : String} :
    moduleName? file = some name ↔ file = name ++ ".py" := by
  have suffix : ['y', 'p', '.'] <+: file.toList.reverse ↔ ['.', 'p', 'y'] <:+ file.toList := by
    rw [← List.reverse_prefix]
    rfl
  rw [moduleName?, Option.ite_none_right_eq_some, List.isPrefixOf_iff_prefix, suffix,
    Option.some_inj, ← String.toList_inj, ← String.toList_inj, String.toList_ofList,
    String.toList_append]
  constructor
  · rintro ⟨⟨front, heq⟩, htake⟩
    rw [← heq] at htake ⊢
    simpa using htake
  · intro heq
    rw [heq]
    exact ⟨List.suffix_append _ _, by simp⟩

theorem hasDot_eq_false {s : String} : hasDot s = false ↔ '.' ∉ s.toList := by simp [hasDot]

theorem hasSource_iff {below : String} :
    (lib.isDirectory below &&
        (lib.names below).any fun n => moduleName? n == some "__init__") = true ↔
      lib.Holds below "__init__.py" := by
  rw [Bool.and_eq_true, List.any_eq_true]
  simp only [beq_iff_eq, moduleName?_eq_some, mem_names]
  constructor
  · rintro ⟨-, n, held, rfl⟩
    exact held
  · intro held
    exact ⟨isDirectory_of_holds held, _, held, rfl⟩

theorem foundAs_file {name : String} (held : lib.Holds directory (name ++ ".py")) :
    lib.foundAs directory (name ++ ".py") = some f ↔
      f = ⟨name, false⟩ ∧ lib.IsModule directory f := by
  rw [foundAs, moduleName?_eq_some.mpr rfl]
  dsimp only
  rw [Option.ite_none_left_eq_some, Option.some_inj, eq_comm (b := f)]
  simp only [Bool.or_eq_true, beq_iff_eq, not_or, Bool.not_eq_true, hasDot_eq_false]
  constructor
  · rintro ⟨⟨⟨named, plain⟩, undotted⟩, rfl⟩
    exact ⟨rfl, named, undotted, held, nofun, fun _ => plain⟩
  · rintro ⟨rfl, h⟩
    exact ⟨⟨⟨h.named, h.plain rfl⟩, h.undotted⟩, rfl⟩

theorem foundAs_directory (other : moduleName? entry = none)
    (held : lib.Holds directory entry) :
    lib.foundAs directory entry = some f ↔ f = ⟨entry, true⟩ ∧ lib.IsModule directory f := by
  rw [foundAs, other]
  dsimp only
  rw [Option.ite_none_right_eq_some, Option.some_inj, eq_comm (b := f), Bool.and_assoc,
    Bool.and_eq_true, hasSource_iff, Bool.and_eq_true, Bool.not_eq_true', hasDot_eq_false,
    bne_iff_ne]
  constructor
  · rintro ⟨⟨⟨named, undotted⟩, source⟩, rfl⟩
    exact ⟨rfl, named, undotted, held, fun _ => source, nofun⟩
  · rintro ⟨rfl, h⟩
    exact ⟨⟨⟨h.named, h.undotted⟩, h.package rfl⟩, rfl⟩

theorem foundAs_eq_some (held : lib.Holds directory entry) :
    lib.foundAs directory entry = some f ↔ f.entry = entry ∧ lib.IsModule directory f := by
  obtain ⟨name, isPackage⟩ := f
  cases file : moduleName? entry with
  | some stem =>
    obtain rfl := moduleName?_eq_some.mp file
    rw [foundAs_file held]
    refine and_congr_left fun h => ?_
    cases isPackage with
    | true =>
      -- a directory that is a module has no dot in its name
      have undotted : name ≠ stem ++ ".py" := by
        rintro rfl
        exact h.undotted (by simp)
      simpa [Found.entry] using undotted
    | false => simp [Found.entry]
  | none =>
    rw [foundAs_directory file held]
    refine and_congr_left fun h => ?_
    cases isPackage with
    | true => simp [Found.entry]
    | false =>
      have : name ++ ".py" ≠ entry := by
        rintro rfl
        rw [moduleName?_eq_some.mpr rfl] at file
        cases file
      simpa [Found.entry] using this

theorem mem_distinct {seen : List String} {l : List Found} :
    f ∈ distinct seen l ↔ f.name ∉ seen ∧ l.find? (·.name == f.name) = some f := by
  induction l generalizing seen with
  | nil => simp [distinct]
  | cons g l ih =>
    rw [distinct, List.find?_cons]
    -- only a module of the name in question decides whether that name was seen
    by_cases same : g.name = f.name
    · split
      · next hseen => simp [ih, ← same, hseen]
      · next hseen => simp [ih, ← same, hseen, eq_comm]
    · have skipped : (g.name == f.name) = false := by simpa using same
      have other : f ≠ g := fun heq => same (heq ▸ rfl)
      split
      · rw [ih, skipped]
      · simp [ih, skipped, other, Ne.symm same]

theorem find?_eq_some_of_sorted {l : List Found}
    (sorted : l.Pairwise fun f g => f.entry < g.entry) :
    l.find? (·.name == f.name) = some f ↔
      f ∈ l ∧ ∀ g ∈ l, g.name = f.name → f.entry ≤ g.entry := by
  rw [List.find?_eq_some_iff_append]
  constructor
  · rintro ⟨-, before, after, rfl, others⟩
    refine ⟨by simp, fun g hg same => ?_⟩
    rcases List.mem_append.mp hg with hg | hg
    · exact absurd same (by simpa using others g hg)
    · rcases List.mem_cons.mp hg with rfl | hg
      · exact le_rfl
      · exact le_of_lt ((List.pairwise_cons.mp (List.pairwise_append.mp sorted).2.1).1 g hg)
  · rintro ⟨hf, least⟩
    obtain ⟨before, after, rfl⟩ := List.append_of_mem hf
    refine ⟨by simp, before, after, rfl, fun g hg => ?_⟩
    have earlier : g.entry < f.entry :=
      (List.pairwise_append.mp sorted).2.2 g hg f List.mem_cons_self
    simpa using fun same => not_le_of_gt earlier (least g (List.mem_append_left _ hg) same)

theorem distinct_sublist (seen : List String) (l : List Found) : (distinct seen l).Sublist l := by
  induction l generalizing seen with
  | nil => exact List.Sublist.slnil
  | cons f l ih =>
    rw [distinct]
    split
    · exact (ih seen).cons f
    · exact (ih _).cons_cons f

theorem lists_modules (lib : Library δ) (directory : String) :
    lib.Lists directory (lib.modules directory) := by
  have mem (f : Found) : f ∈ (lib.names directory).filterMap (lib.foundAs directory) ↔
      lib.IsModule directory f := by
    rw [List.mem_filterMap]
    constructor
    · rintro ⟨entry, held, found⟩
      exact ((foundAs_eq_some (mem_names.mp held)).mp found).2
    · intro h
      exact ⟨f.entry, mem_names.mpr h.held, (foundAs_eq_some h.held).mpr ⟨rfl, h⟩⟩
  have sorted : ((lib.names directory).filterMap (lib.foundAs directory)).Pairwise
      fun f g => f.entry < g.entry := by
    rw [List.pairwise_filterMap]
    refine (pairwise_names lib directory).imp_of_mem ?_
    intro a b ha hb hlt f hf g hg
    rw [((foundAs_eq_some (mem_names.mp ha)).mp hf).1, ((foundAs_eq_some (mem_names.mp hb)).mp hg).1]
    exact hlt
  constructor
  · exact sorted.sublist (distinct_sublist _ _)
  · intro f
    rw [modules, mem_distinct, find?_eq_some_of_sorted sorted, mem]
    simp only [mem, List.not_mem_nil, not_false_eq_true, true_and]

theorem enters_target (f : Found) : lib.Enters package directory f (package ++ "." ++ f.name ++
    if f.isPackage && lib.anythingAt (path (path directory f.name) "entrypoint.py")
    then ".entrypoint" else "") := by
  have named : path (path directory f.name) "entrypoint.py" ≠ "" := by simp [path]
  have held : _ ↔ lib.Holds (path directory f.name) "entrypoint.py" :=
    anythingAt_iff (by decide) named
  split
  · next h =>
    rw [Bool.and_eq_true, held] at h
    obtain ⟨name, isPackage⟩ := f
    obtain ⟨rfl, there⟩ := h
    exact .entryPoint there
  · next h =>
    rw [Bool.and_eq_true, held, not_and] at h
    rw [String.append_empty]
    exact .whole h

theorem visits_targets (lib : Library δ) (package : String) (directories : List String) :
    lib.Visits package directories
      (package :: directories.flatMap (lib.targets package)) := by
  refine ⟨_, ?_, rfl⟩
  induction directories with
  | nil => exact .nil
  | cons directory directories ih =>
    rw [List.flatMap_cons]
    refine .cons (lists_modules lib directory) ?_ ih
    rw [targets, List.forall₂_map_right_iff, List.forall₂_same]
    exact fun f _ => enters_target f

theorem Visits.eq_targets {directories modules : List String}
    (h : lib.Visits package directories modules) :
    modules = package :: directories.flatMap (lib.targets package) :=
  h.unique (visits_targets lib package directories)

end CommandShell.Library
