import CommandShell.Proofs.Settings.Sources
import CommandShell.Proofs.Text.Upper

/-! What a file of sections sets. All its sections are put in one table, in which a later section
wins; but every section also has what it inherits from the default one, so that the last section
says the value of every name that is set by default, with a value of its own or with the inherited
one, and the sections before it have no say. -/

namespace CommandShell.Config

namespace Ini

structure Reading.Distinct (r : Reading) : Prop where
  defaults : (Entries.keys r.defaults).Nodup
  sections : ∀ s ∈ r.sections, (Entries.keys s.2).Nodup

namespace Reading.Distinct

variable {r r' : Reading}

theorem start : Reading.start.Distinct where
  defaults := List.nodup_nil
  sections := by simp [Reading.start]

theorem options (h : r.Distinct) (name : String) : (Entries.keys (r.options name)).Nodup := by
  rw [Reading.options]
  split
  · exact h.defaults
  · cases found : Entries.find? r.sections name with
    | none => exact List.nodup_nil
    | some options =>
      obtain ⟨before, after, hsections, -⟩ := List.lookup_eq_some_iff.mp found
      exact h.sections (name, options) (by simp [hsections])

theorem setOption (h : r.Distinct) (name option : String) (lines : List String) :
    (r.setOption name option lines).Distinct := by
  have nodup := Entries.nodup_keys_put (h.options name) option lines
  rw [Reading.setOption]
  split
  · exact ⟨nodup, h.sections⟩
  · refine ⟨h.defaults, fun s hs => ?_⟩
    rcases Entries.mem_put hs with rfl | hs
    · exact nodup
    · exact h.sections s hs

theorem continueValue (h : r.Distinct) (line : String) : (r.continueValue line).Distinct := by
  rw [Reading.continueValue]
  split
  · exact h.setOption _ _ _
  · exact h

theorem enter (h : r.Distinct) {line : Nat} {name : String} (ok : r.enter line name = .ok r') :
    r'.Distinct := by
  unfold Reading.enter at ok
  split at ok
  · cases ok
  · split at ok <;> cases ok
    · exact ⟨h.defaults, h.sections⟩
    · refine ⟨h.defaults, fun s hs => ?_⟩
      rcases Entries.mem_put hs with rfl | hs
      · exact List.nodup_nil
      · exact h.sections s hs

theorem reject (h : r.Distinct) (line : Nat) (text : String) : (r.reject line text).Distinct :=
  ⟨h.defaults, h.sections⟩

theorem assign (h : r.Distinct) {line : Nat} {text name option value : String}
    (ok : r.assign line text name option value = .ok r') : r'.Distinct := by
  have noted : (if option = "" then r.reject line text else r).Distinct := by
    split
    · exact h.reject line text
    · exact h
  unfold Reading.assign at ok
  generalize (if option = "" then r.reject line text else r) = r at noted ok
  dsimp only at ok
  split at ok
  · cases ok
  · cases ok
    have set := noted.setOption name option [value]
    exact ⟨set.defaults, set.sections⟩

theorem readDeclaration (h : r.Distinct) {line : Nat} {text : String} {content : List Char}
    (ok : Ini.readDeclaration r line text content = .ok r') : r'.Distinct := by
  unfold Ini.readDeclaration at ok
  split at ok
  · exact h.enter ok
  · split at ok
    · cases ok
    · split at ok
      · exact h.assign ok
      · cases ok
        exact h.reject line text

theorem readLine (h : r.Distinct) {line : Nat} {text : List Char}
    (ok : Ini.readLine r line text = .ok r') : r'.Distinct := by
  unfold Ini.readLine at ok
  dsimp only at ok
  split at ok
  · cases ok
    exact h
  · split at ok
    · cases ok
      exact h.continueValue ""
    · split at ok
      · cases ok
        exact h.continueValue _
      · have indented : { r with indent := (text.takeWhile Text.isBlank).length }.Distinct :=
          ⟨h.defaults, h.sections⟩
        exact indented.readDeclaration ok

theorem readLines (h : r.Distinct) {number : Nat} {lines : List (List Char)}
    (ok : Ini.readLines r number lines = .ok r') : r'.Distinct := by
  induction lines generalizing r number with
  | nil =>
    cases ok
    exact h
  | cons text rest ih =>
    rw [Ini.readLines] at ok
    split at ok
    · cases ok
    · next first hfirst => exact ih (h.readLine hfirst) ok

end Reading.Distinct

namespace Document

structure Distinct (d : Document) : Prop where
  defaults : (Entries.keys d.defaults).Nodup
  sections : ∀ s ∈ d.sections, (Entries.keys s.2).Nodup

theorem keys_joinOptions (options : Entries (List String)) :
    Entries.keys (joinOptions options) = Entries.keys options := by
  simp [joinOptions, Entries.keys]

theorem distinct_of_ofBytes {bytes : List UInt8} {d : Document} (accepted : ofBytes bytes = .ok d) :
    d.Distinct := by
  unfold ofBytes at accepted
  dsimp only at accepted
  split at accepted
  · cases accepted
  · next r read =>
    have h := Reading.Distinct.start.readLines read
    split at accepted
    · cases accepted
    · split at accepted <;> cases accepted
      refine ⟨?_, fun s hs => ?_⟩
      · exact keys_joinOptions r.defaults ▸ h.defaults
      · obtain ⟨read, hread, rfl⟩ := List.mem_map.mp hs
        exact keys_joinOptions read.2 ▸ h.sections read hread

instance : DecidableEq Document := fun a b =>
  decidable_of_iff (a.defaults = b.defaults ∧ a.sections = b.sections) (by
    cases a
    cases b
    simp)

structure Plain (d : Document) : Prop where
  defaults : ∀ option ∈ d.defaults, '%' ∉ option.2.toList
  sections : ∀ s ∈ d.sections, ∀ option ∈ s.2, '%' ∉ option.2.toList

end Document

theorem piecesFrom_of_plain {cs : List Char} (plain : '%' ∉ cs) :
    piecesFrom 0 cs = cs.map Piece.char := by
  induction cs with
  | nil => rfl
  | cons c rest ih =>
    rw [List.mem_cons, not_or] at plain
    rw [piecesFrom, if_neg (Ne.symm plain.1), ih plain.2, List.map_cons]

theorem findSome?_congr {α β : Type} {f g : α → Option β} {l : List α} (h : ∀ a ∈ l, f a = g a) :
    l.findSome? f = l.findSome? g := by
  induction l with
  | nil => rfl
  | cons a rest ih =>
    obtain ⟨ha, hrest⟩ := List.forall_mem_cons.mp h
    rw [List.findSome?_cons, List.findSome?_cons, ha, ih hrest]

theorem expandPieces_chars (options : Entries String) (sectionName option raw : String)
    (levels : Nat) (cs : List Char) :
    expandPieces options sectionName option raw (levels + 1) (cs.map Piece.char) = .ok cs := by
  simp only [expandPieces, List.mapM_map, Function.comp_def]
  rw [mapM_eq_ok (g := fun c => [c]) fun _ _ => rfl]
  exact congrArg Except.ok (List.flatMap_singleton' cs)

theorem expand_of_plain {value : String} (plain : '%' ∉ value.toList) (options : Entries String)
    (sectionName option : String) : expand options sectionName option value = .ok value := by
  rw [expand, piecesFrom_of_plain plain, referenceLimit, expandPieces_chars]
  simp [Except.map]

/-- What the options of a section set a name to in the end. -/
def lastOf (options : Entries String) (name : String) : Option String :=
  ((options.filter fun option => Text.upper option.1 == name).getLast?).map (·.2)

theorem lastOf_eq_none_iff {options : Entries String} {name : String} :
    lastOf options name = none ↔ ∀ option ∈ options, Text.upper option.1 ≠ name := by
  simp [lastOf]

theorem exists_mem_of_lastOf {options : Entries String} {name value : String}
    (h : lastOf options name = some value) :
    ∃ option ∈ options, Text.upper option.1 = name ∧ option.2 = value := by
  obtain ⟨option, hlast, rfl⟩ := Option.map_eq_some_iff.mp h
  obtain ⟨hmem, hname⟩ := List.mem_filter.mp (List.mem_of_getLast? hlast)
  exact ⟨option, hmem, beq_iff_eq.mp hname, rfl⟩

theorem lastOf_of_only {options : Entries String} {option : String × String} {name : String}
    (nodup : (Entries.keys options).Nodup) (hmem : option ∈ options)
    (hname : Text.upper option.1 = name)
    (only : ∀ other ∈ options, Text.upper other.1 = name → other.1 = option.1) :
    lastOf options name = some option.2 := by
  rw [lastOf, Entries.filter_eq_singleton (p := (Text.upper · == name)) nodup hmem
    (beq_iff_eq.mpr hname) fun other hother hname => only other hother (beq_iff_eq.mp hname)]
  rfl

/-- Where the defaults and the options of a section are alike in how they spell a name, the section
says what the name is set to, and the defaults where it does not. -/
theorem lastOf_merge {defaults own : Entries String} {name : String}
    (hdefaults : (Entries.keys defaults).Nodup) (hown : (Entries.keys own).Nodup)
    (alike : ∀ p ∈ defaults, ∀ q ∈ own, Text.upper p.1 = name → Text.upper q.1 = name →
      p.1 = q.1) :
    lastOf (Entries.merge defaults own) name = (lastOf own name).or (lastOf defaults name) := by
  cases inherited : lastOf defaults name with
  | none =>
    have fresh := lastOf_eq_none_iff.mp inherited
    rw [Option.or_none, lastOf, Entries.filter_merge_of_fresh (p := (Text.upper · == name)) hown]
    · rfl
    · simpa using fresh
  | some value =>
    cases explicit : lastOf own name with
    | none =>
      have none := lastOf_eq_none_iff.mp explicit
      rw [Option.none_or, ← inherited, lastOf,
        Entries.filter_merge_of_none (p := (Text.upper · == name))]
      · rfl
      · simpa using none
    | some value' =>
      -- both spell the name alike, so the merged options hold it once
      obtain ⟨p, hp, hpname, rfl⟩ := exists_mem_of_lastOf inherited
      obtain ⟨q, hq, hqname, rfl⟩ := exists_mem_of_lastOf explicit
      have hmerged : q ∈ Entries.merge defaults own := by
        rw [← Entries.find?_eq_some_iff (Entries.nodup_keys_merge hdefaults own),
          Entries.find?_merge, Entries.find?_reverse hown, (Entries.find?_eq_some_iff hown).mpr hq,
          Option.some_or]
      refine lastOf_of_only (Entries.nodup_keys_merge hdefaults own) hmerged hqname ?_
      intro other hother hname
      rcases Entries.mem_merge hother with hother | hother
      · exact alike other hother q hq hname hqname
      · exact (alike p hp other hother hpname hname).symm.trans (alike p hp q hq hpname hqname)

namespace Document

variable {d : Document}

theorem Plain.valuesOf_eq (plain : d.Plain) {s : String × Entries String} (hs : s ∈ d.sections) :
    d.valuesOf s.1 s.2 = .ok (d.optionsOf s.2) := by
  have expanded : ∀ option ∈ d.optionsOf s.2,
      (expand (d.optionsOf s.2) s.1 option.1 option.2).map (fun v => (option.1, v)) =
        .ok option := by
    intro option hoption
    have free : '%' ∉ option.2.toList :=
      (Entries.mem_merge hoption).elim (plain.defaults option) (plain.sections s hs option)
    rw [expand_of_plain free]
    rfl
  rw [Document.valuesOf, mapM_eq_ok expanded, List.map_id']

theorem Plain.values_eq (plain : d.Plain) :
    d.values = .ok (Entries.ofList ((d.sections.map fun s => d.optionsOf s.2).flatten.map
      fun option => (Text.upper option.1, option.2))) := by
  rw [Document.values, mapM_eq_ok fun s hs => plain.valuesOf_eq hs]
  rfl

/-- What a file sets a name to: the last section that has the name says it, with the options it
inherits. -/
def valueOf? (d : Document) (name : String) : Option String :=
  d.sections.reverse.findSome? fun s => lastOf (d.optionsOf s.2) name

/-- The value of the last section that sets a name itself. -/
def explicit? (d : Document) (name : String) : Option String :=
  d.sections.reverse.findSome? fun s => lastOf s.2 name

/-- Every section spells a name as the default one does. Names that differ may be one in upper
case. -/
def SpellsAlike (d : Document) (name : String) : Prop :=
  ∀ s ∈ d.sections, ∀ p ∈ d.defaults, ∀ q ∈ s.2, Text.upper p.1 = name → Text.upper q.1 = name →
    p.1 = q.1

instance (d : Document) (name : String) : Decidable (d.SpellsAlike name) :=
  inferInstanceAs (Decidable (∀ s ∈ d.sections, ∀ p ∈ d.defaults, ∀ q ∈ s.2,
    Text.upper p.1 = name → Text.upper q.1 = name → p.1 = q.1))

theorem find?_values (d : Document) (name : String) :
    Entries.find? (Entries.ofList ((d.sections.map fun s => d.optionsOf s.2).flatten.map
      fun option => (Text.upper option.1, option.2))) name = d.valueOf? name := by
  rw [Entries.find?_ofList, Entries.find?_reverse_eq, List.filter_map, List.getLast?_map,
    Option.map_map, List.filter_flatten, List.getLast?_flatten, List.map_map, ← List.map_reverse,
    List.findSome?_map, List.map_findSome?]
  rfl

theorem Plain.values_spec (plain : d.Plain) :
    ∃ values, d.values = .ok values ∧ (Entries.keys values).Nodup ∧
      (∀ key ∈ Entries.keys values, Text.upper key = key) ∧
      ∀ name, Entries.find? values name = d.valueOf? name := by
  refine ⟨_, plain.values_eq, Entries.nodup_keys_ofList _, fun key hkey => ?_, d.find?_values⟩
  rcases Entries.mem_keys_merge.mp hkey with hkey | hkey
  · cases hkey
  · obtain ⟨_, hpair, rfl⟩ := List.mem_map.mp hkey
    obtain ⟨option, -, rfl⟩ := List.mem_map.mp hpair
    exact Text.upper_upper option.1

theorem valueOf?_eq (distinct : d.Distinct) {name : String} (alike : d.SpellsAlike name) :
    d.valueOf? name =
      match lastOf d.defaults name with
      | none => d.explicit? name
      | some inherited => d.sections.getLast?.map fun s => (lastOf s.2 name).getD inherited := by
  have own : ∀ s ∈ d.sections.reverse, lastOf (d.optionsOf s.2) name =
      (lastOf s.2 name).or (lastOf d.defaults name) := by
    intro s hs
    have hs := List.mem_reverse.mp hs
    exact lastOf_merge distinct.defaults (distinct.sections s hs) (alike s hs)
  rw [valueOf?, findSome?_congr own]
  cases lastOf d.defaults name with
  | none =>
    simp only [Option.or_none]
    rfl
  | some inherited =>
    rw [← List.head?_reverse]
    cases d.sections.reverse <;> simp

theorem valueOf?_eq_explicit_iff (distinct : d.Distinct) {name inherited value : String}
    (alike : d.SpellsAlike name) (default : lastOf d.defaults name = some inherited)
    (explicit : d.explicit? name = some value) :
    d.valueOf? name = some value ↔
      value = inherited ∨ ∃ s ∈ d.sections.getLast?, (lastOf s.2 name).isSome := by
  rw [valueOf?_eq distinct alike, default]
  rw [explicit?] at explicit
  rw [← List.head?_reverse]
  cases hsections : d.sections.reverse with
  | nil => simp [hsections] at explicit
  | cons s before =>
    rw [hsections, List.findSome?_cons] at explicit
    cases own : lastOf s.2 name with
    | none => simpa [own] using eq_comm
    | some value' =>
      rw [own] at explicit
      simp [own, Option.some.inj explicit]

end Document

end Ini

namespace Sources

variable {fs : Files} {path : String} {bytes : List UInt8} {d : Ini.Document}

theorem find?_texts (entries : Entries String) (name : String) :
    Entries.find? (texts entries) name = (Entries.find? entries name).map .text := by
  induction entries with
  | nil => rfl
  | cons e rest ih =>
    have first : texts (e :: rest) = (e.1, .text e.2) :: texts rest := rfl
    rw [first, Entries.find?_cons, Entries.find?_cons, ih]
    split <;> rfl

theorem keys_texts (entries : Entries String) :
    Entries.keys (texts entries) = Entries.keys entries := by
  simp [texts, Entries.keys, Function.comp_def]

/-- What a file of sections is read to, when no value of it refers to another: a name that is set by
default is what the last section says, with the inherited value if it has none of its own. -/
theorem readIni_inherits (found : fs.read path = .ok bytes)
    (accepted : Ini.Document.ofBytes bytes = .ok d) (plain : d.Plain) :
    ∃ entries, readIni fs path = .ok entries ∧ ∀ name,
      Entries.find? entries name = (d.valueOf? name).map .text ∧
        (d.SpellsAlike name →
          (d.valueOf? name =
            match Ini.lastOf d.defaults name with
            | none => d.explicit? name
            | some inherited =>
              d.sections.getLast?.map fun s => (Ini.lastOf s.2 name).getD inherited) ∧
          ∀ inherited value, Ini.lastOf d.defaults name = some inherited →
            d.explicit? name = some value →
            (d.valueOf? name = some value ↔
              value = inherited ∨ ∃ s ∈ d.sections.getLast?, (Ini.lastOf s.2 name).isSome)) := by
  obtain ⟨values, hvalues, nodup, upper, lookup⟩ := plain.values_spec
  have distinct := Ini.Document.distinct_of_ofBytes accepted
  have options : Ini.read bytes = .ok values := by
    rw [Ini.read, accepted]
    exact hvalues
  have read : readIni fs path = .ok (upperKeys (texts values)) :=
    readIni_of_holds (.options found options)
  refine ⟨_, read, fun name => ⟨?_, fun alike => ⟨?_, fun inherited value => ?_⟩⟩⟩
  · rw [upperKeys_eq_self (keys_texts values ▸ nodup) (keys_texts values ▸ upper), find?_texts,
      lookup]
  · exact Ini.Document.valueOf?_eq distinct alike
  · exact Ini.Document.valueOf?_eq_explicit_iff distinct alike

theorem readIni_inherits_level :
    let bytes := Text.Utf8.encode
      "[DEFAULT]\nlevel=info\nprompt=:\n[log]\nLevel = debug\n[shell]\nPrompt = $\n"
    let files : Files := ⟨[("/w", .directory), ("/w/config.ini", .file bytes)]⟩
    let d : Ini.Document := ⟨[("level", "info"), ("prompt", ":")],
      [("log", [("level", "debug")]), ("shell", [("prompt", "$")])]⟩
    Ini.Document.ofBytes bytes = .ok d ∧ d.Plain ∧ d.SpellsAlike "LEVEL" ∧
      d.SpellsAlike "PROMPT" ∧ ∃ entries, readIni files "/w/config.ini" = .ok entries ∧
        Entries.find? entries "LEVEL" = some (.text "info") ∧
        Entries.find? entries "PROMPT" = some (.text "$") := by
  intro bytes files d
  have found : files.read "/w/config.ini" = .ok bytes := rfl
  have accepted : Ini.Document.ofBytes bytes = .ok d := by decide +kernel
  have plain : d.Plain := ⟨by decide, by decide⟩
  have levelAlike : d.SpellsAlike "LEVEL" := by decide +kernel
  have promptAlike : d.SpellsAlike "PROMPT" := by decide +kernel
  obtain ⟨entries, read, law⟩ := readIni_inherits found accepted plain
  obtain ⟨level, inherited⟩ := law "LEVEL"
  obtain ⟨prompt, own⟩ := law "PROMPT"
  have hlevel : d.valueOf? "LEVEL" = some "info" :=
    (inherited levelAlike).1.trans (by decide +kernel)
  have hprompt : d.valueOf? "PROMPT" = some "$" := (own promptAlike).1.trans (by decide +kernel)
  rw [hlevel] at level
  rw [hprompt] at prompt
  exact ⟨accepted, plain, levelAlike, promptAlike, entries, read, level, prompt⟩

/-- The value that the first section sets is lost to a section without options. -/
theorem readIni_overrides_explicit :
    let bytes := Text.Utf8.encode "[a]\nx=1\n[b]\n[DEFAULT]\nx=0\n"
    let files : Files := ⟨[("/w", .directory), ("/w/config.ini", .file bytes)]⟩
    let d : Ini.Document := ⟨[("x", "0")], [("a", [("x", "1")]), ("b", [])]⟩
    Ini.Document.ofBytes bytes = .ok d ∧ d.Plain ∧ d.explicit? "X" = some "1" ∧
      readIni files "/w/config.ini" = .ok [("X", .text "0")] := by
  intro bytes files d
  have accepted : Ini.Document.ofBytes bytes = .ok d := by decide +kernel
  have read : Ini.read bytes = .ok [("X", "0")] := by decide +kernel
  have found : files.read "/w/config.ini" = .ok bytes := rfl
  refine ⟨accepted, ⟨by decide, by decide⟩, by decide +kernel, ?_⟩
  simp only [readIni, found, read]
  rfl

end Sources

end CommandShell.Config
