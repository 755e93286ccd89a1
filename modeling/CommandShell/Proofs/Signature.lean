import CommandShell.Command.Handler
import CommandShell.Proofs.Entries
import CommandShell.Proofs.Failure

/-! Declaring parameters and filling in their defaults. Parameters are declared by name, by values or
in full, and only their texts count. As no two of them may have one name, it is the same whether the
default of a name is looked up or all defaults are written under the arguments that are given. -/

namespace CommandShell

namespace Value

variable {room : Nat}

theorem firstFault?_eq_none_iff {values : List Value} :
    firstFault? values room = none ↔ ∀ v ∈ values, v.textFault? room = none := by
  induction values with
  | nil => simp [firstFault?]
  | cons v rest ih => simp [firstFault?, ih]

theorem textFault?_of_limit_le {n : Nat} (h : Nat.pow 10 Decimal.integerLimit ≤ n) :
    (int n).textFault? room = some (.value (Decimal.limitMessage "")) := by
  have long : Decimal.isWritable n = false := by
    rw [Decimal.isWritable, decide_eq_false_iff_not, Int.natAbs_natCast]
    exact Nat.not_lt.mpr h
  rw [textFault?, long]
  rfl

inductive IsTextFault : Fault → Prop
  | long : IsTextFault (.value (Decimal.limitMessage ""))
  | deep : IsTextFault (.tooDeep " while getting the repr of an object")

mutual

theorem isTextFault_of_textFault? {v : Value} {room : Nat} {f : Fault}
    (h : v.textFault? room = some f) : IsTextFault f := by
  cases v with
  | int n =>
    unfold textFault? at h
    split at h
    · cases h
    · cases h
      exact .long
  | list items =>
    cases room with
    | zero =>
      cases h
      exact .deep
    | succ room => exact isTextFault_of_firstFault? h
  | table fields =>
    cases room with
    | zero =>
      cases h
      exact .deep
    | succ room => exact isTextFault_of_firstFaultIn? h
  | _ => cases h

theorem isTextFault_of_firstFault? {values : List Value} {room : Nat} {f : Fault}
    (h : firstFault? values room = some f) : IsTextFault f := by
  cases values with
  | nil => cases h
  | cons v rest =>
    rcases Option.or_eq_some_iff.mp h with first | ⟨-, later⟩
    · exact isTextFault_of_textFault? first
    · exact isTextFault_of_firstFault? later

theorem isTextFault_of_firstFaultIn? {fields : List (String × Value)} {room : Nat} {f : Fault}
    (h : firstFaultIn? fields room = some f) : IsTextFault f := by
  cases fields with
  | nil => cases h
  | cons p rest =>
    obtain ⟨key, v⟩ := p
    rcases Option.or_eq_some_iff.mp h with first | ⟨-, later⟩
    · exact isTextFault_of_textFault? first
    · exact isTextFault_of_firstFaultIn? later

end

theorem missingKey_of_limit_le {n : Nat} (h : Nat.pow 10 Decimal.integerLimit ≤ n) :
    Raised.missingKey (.int n) =
      .untold .other (.fault (.value ("Exceeds the limit (4300 digits) for integer string " ++
        "conversion; use sys.set_int_max_str_digits() to increase the limit"))) := by
  rw [Raised.missingKey, textFault?_of_limit_le h]
  exact congrArg (Raised.untold .other <| .fault <| .value ·) (by decide)

end Value

namespace ParameterSpec

variable {spec : ParameterSpec} {specs : List ParameterSpec}

/-- What is declared, as far as it is: a name, a description and a default. -/
def texts : ParameterSpec → List String
  | named name => [name]
  | listed values => values.map Value.plain
  | full p => [p.name, p.help, p.default]

def name? (spec : ParameterSpec) : Option String := spec.texts.head?

def declared (spec : ParameterSpec) : Parameter :=
  ⟨spec.texts[0]?.getD "", spec.texts[1]?.getD "", spec.texts[2]?.getD ""⟩

/-- A list of no values, or of more than a parameter has parts. -/
def IsMalformed : ParameterSpec → Prop
  | listed values => values.length < 1 ∨ 3 < values.length
  | _ => False

/-- Every value that is to become a text has one. -/
def IsWritable : ParameterSpec → Prop
  | listed values => ∀ v ∈ values, v.textFault? Value.nestingLimit = none
  | _ => True

theorem not_isMalformed_singleton {v : Value} : ¬(listed [v]).IsMalformed := by
  simp [IsMalformed]

theorem parameter_eq_ok_iff {p : Parameter} :
    spec.parameter = .ok p ↔ (spec.IsWritable ∧ ¬spec.IsMalformed) ∧ p = spec.declared := by
  cases spec with
  | named name => simp [parameter, IsWritable, IsMalformed, declared, texts, eq_comm]
  | full p => simp [parameter, IsWritable, IsMalformed, declared, texts, eq_comm]
  | listed values =>
    simp only [parameter, IsWritable, ← Value.firstFault?_eq_none_iff]
    cases Value.firstFault? values Value.nestingLimit with
    | some fault => simp
    | none =>
      rcases values with _ | ⟨name, _ | ⟨help, _ | ⟨default, _ | ⟨more, rest⟩⟩⟩⟩ <;>
        simp [IsMalformed, declared, texts, eq_comm (a := p)]

theorem fault_of_parameter {e : SignatureError} (h : spec.parameter = .error e) :
    spec.IsMalformed ∧ (∃ message, e.fault = .value message) ∨
      ¬spec.IsWritable ∧ Value.IsTextFault e.fault := by
  cases spec with
  | named name => cases h
  | full p => cases h
  | listed values =>
    unfold parameter at h
    dsimp only at h
    cases hfault : Value.firstFault? values Value.nestingLimit with
    | some fault =>
      rw [hfault] at h
      cases h
      refine .inr ⟨fun writable => ?_, Value.isTextFault_of_firstFault? hfault⟩
      rw [Value.firstFault?_eq_none_iff.mpr writable] at hfault
      cases hfault
    | none =>
      rw [hfault] at h
      refine .inl ?_
      rcases values with _ | ⟨name, _ | ⟨help, _ | ⟨default, _ | ⟨more, rest⟩⟩⟩⟩ <;> cases h
      · exact ⟨.inl Nat.zero_lt_one, _, rfl⟩
      · exact ⟨.inr (by simp), _, rfl⟩

theorem mapM_parameter_eq_ok_iff {ps : List Parameter} :
    specs.mapM parameter = .ok ps ↔
      (∀ spec ∈ specs, spec.IsWritable ∧ ¬spec.IsMalformed) ∧ ps = specs.map declared := by
  have same : ps = specs.map declared ↔
      List.Forall₂ (fun spec p => p = declared spec) specs ps := by
    rw [← List.forall₂_eq_eq_eq, List.forall₂_map_right_iff]
    exact ⟨.flip, .flip⟩
  simp only [mapM_eq_ok_iff, parameter_eq_ok_iff, List.forall₂_and_left, same]

theorem name?_eq_some (whole : ¬spec.IsMalformed) : spec.name? = some spec.declared.name := by
  cases spec with
  | named name => rfl
  | full p => rfl
  | listed values =>
    cases values with
    | nil => exact absurd (.inl Nat.zero_lt_one) whole
    | cons name rest => rfl

def NamedAt (specs : List ParameterSpec) (i : Nat) (name : String) : Prop :=
  ∃ spec, specs[i]? = some spec ∧ spec.name? = some name

def SharesName (specs : List ParameterSpec) : Prop :=
  ∃ i j name, i < j ∧ NamedAt specs i name ∧ NamedAt specs j name

theorem namedAt_iff (whole : ∀ spec ∈ specs, ¬spec.IsMalformed) {i : Nat} {name : String} :
    NamedAt specs i name ↔ ((specs.map declared).map Parameter.name)[i]? = some name := by
  rw [List.getElem?_map, List.getElem?_map, Option.map_map, Option.map_eq_some_iff]
  refine exists_congr fun spec => and_congr_right fun place => ?_
  rw [name?_eq_some (whole spec (List.mem_of_getElem? place)), Option.some_inj]
  rfl

theorem sharesName_iff (whole : ∀ spec ∈ specs, ¬spec.IsMalformed) :
    SharesName specs ↔ ¬((specs.map declared).map Parameter.name).Nodup := by
  simp only [SharesName, namedAt_iff whole, List.nodup_iff_getElem?_ne_getElem?]
  constructor
  · rintro ⟨i, j, name, hij, hi, hj⟩ apart
    exact apart i j hij (List.getElem?_eq_some_iff.mp hj).1 (hi.trans hj.symm)
  · intro h
    push Not at h
    obtain ⟨i, j, hij, hj, same⟩ := h
    exact ⟨i, j, _, hij, same.trans (List.getElem?_eq_getElem hj), List.getElem?_eq_getElem hj⟩

end ParameterSpec
open ParameterSpec

variable {specs : List ParameterSpec}

namespace Signature

variable {description : String} {s : Signature}

theorem build_eq_ok_iff :
    build description specs = .ok s ↔
      (∀ spec ∈ specs, spec.IsWritable ∧ ¬spec.IsMalformed) ∧ ¬SharesName specs ∧
        s.description = description ∧ s.parameters = specs.map declared := by
  obtain ⟨d, ps, nodup⟩ := s
  unfold build
  cases converted : specs.mapM parameter with
  | error e =>
    constructor
    · intro h
      cases h
    · rintro ⟨sound, -⟩
      rw [mapM_parameter_eq_ok_iff.mpr ⟨sound, rfl⟩] at converted
      cases converted
  | ok qs =>
    obtain ⟨sound, rfl⟩ := mapM_parameter_eq_ok_iff.mp converted
    have shares := sharesName_iff fun spec hspec => (sound spec hspec).2
    dsimp only
    split
    · next name repeated =>
      constructor
      · intro h
        cases h
      · rintro ⟨-, apart, -⟩
        rw [firstRepeated_eq_none.mpr ⟨not_not.mp (mt shares.mpr apart), by simp⟩] at repeated
        cases repeated
    · next distinct =>
      have apart := fun h => shares.mp h (firstRepeated_eq_none.mp distinct).1
      constructor
      · intro h
        cases h
        exact ⟨sound, apart, rfl, rfl⟩
      · rintro ⟨-, -, rfl, rfl⟩
        rfl

theorem exists_build_eq_ok_iff (description : String) :
    (∃ s, build description specs = .ok s) ↔
      (∀ spec ∈ specs, spec.IsWritable ∧ ¬spec.IsMalformed) ∧ ¬SharesName specs := by
  constructor
  · rintro ⟨s, built⟩
    obtain ⟨sound, apart, -⟩ := build_eq_ok_iff.mp built
    exact ⟨sound, apart⟩
  · rintro ⟨sound, apart⟩
    have shares := sharesName_iff fun spec hspec => (sound spec hspec).2
    have nodup := not_not.mp (mt shares.mpr apart)
    exact ⟨⟨description, specs.map declared, nodup⟩,
      build_eq_ok_iff.mpr ⟨sound, apart, rfl, rfl⟩⟩

theorem fault_of_build {e : SignatureError} (h : build description specs = .error e) :
    (∃ message, e.fault = .value message) ∨
      (∃ spec ∈ specs, ¬spec.IsWritable) ∧ Value.IsTextFault e.fault := by
  unfold build at h
  split at h
  · next e' failed =>
    cases h
    obtain ⟨spec, hspec, refused⟩ := exists_mem_of_mapM_eq_error failed
    rcases fault_of_parameter refused with ⟨-, value⟩ | ⟨textless, fault⟩
    · exact .inl value
    · exact .inr ⟨⟨spec, hspec, textless⟩, fault⟩
  · split at h
    · cases h
      exact .inl ⟨_, rfl⟩
    · cases h

theorem nodup_keys_declared (s : Signature) :
    (Entries.keys (s.parameters.map fun p => (p.name, p.default))).Nodup := by
  simpa [Entries.keys, Function.comp_def] using s.nodup

/-- No default is written over another one, as no two parameters have one name. -/
theorem defaults_eq (s : Signature) :
    s.defaults = s.parameters.map fun p => (p.name, p.default) :=
  Entries.ofList_eq_self s.nodup_keys_declared

theorem find?_defaults_eq (s : Signature) (key : String) :
    Entries.find? s.defaults key = (s.parameters.find? (·.name == key)).map Parameter.default := by
  rw [defaults_eq]
  induction s.parameters with
  | nil => rfl
  | cons p rest ih =>
    rw [List.map_cons, Entries.find?_cons, ih, List.find?_cons]
    by_cases h : key = p.name
    · simp [h]
    · have other : (p.name == key) = false := beq_false_of_ne (Ne.symm h)
      simp [h, other]

theorem find?_defaults (s : Signature) (key : String) :
    Entries.find? s.defaults key = if key ∈ s.names then some (s.defaultFor key) else none := by
  rw [find?_defaults_eq, defaultFor, names]
  cases found : s.parameters.find? (·.name == key) with
  | none =>
    have absent : key ∉ s.parameters.map Parameter.name := by
      rw [List.mem_map]
      rintro ⟨p, hp, rfl⟩
      exact List.find?_eq_none.mp found p hp (beq_self_eq_true _)
    rw [if_neg absent, Option.map_none]
  | some p =>
    have named : p.name = key := by simpa using List.find?_some found
    have present : key ∈ s.parameters.map Parameter.name :=
      List.mem_map.mpr ⟨p, List.mem_of_find?_eq_some found, named⟩
    rw [if_pos present, Option.map_some]

theorem defaultFor_of_mem {p : Parameter} (h : p ∈ s.parameters) :
    s.defaultFor p.name = p.default := by
  have written : Entries.find? s.defaults p.name = some p.default := by
    rw [defaults_eq, Entries.find?_eq_some_iff s.nodup_keys_declared]
    exact List.mem_map.mpr ⟨p, h, rfl⟩
  have present : p.name ∈ s.names := List.mem_map_of_mem h
  rw [find?_defaults, if_pos present] at written
  exact Option.some.inj written

theorem find?_withDefaults (s : Signature) {arguments : Arguments}
    (nodup : (Entries.keys arguments).Nodup) (key : String) :
    Entries.find? (s.withDefaults arguments) key =
      (Entries.find? arguments key).or
        (if key ∈ s.names then some (s.defaultFor key) else none) := by
  rw [withDefaults, Entries.find?_merge, Entries.find?_reverse nodup, find?_defaults]

end Signature

namespace Command

variable {δ : Type} {description : String} {handler : Handler δ}

theorem build_eq_ok_iff {c : Command δ} :
    build description specs handler = .ok c ↔
      Signature.build description specs = .ok c.signature ∧ c.handler = handler := by
  obtain ⟨signature, run⟩ := c
  unfold build
  cases Signature.build description specs with
  | error e => simp
  | ok s => simp [eq_comm]

theorem fault_of_build {f : Fault} (h : build description specs handler = .error f) :
    (∃ message, f = .value message) ∨
      (∃ spec ∈ specs, ¬spec.IsWritable) ∧ Value.IsTextFault f := by
  unfold build at h
  split at h
  · cases h
  · next e failed =>
    cases h
    exact Signature.fault_of_build failed

theorem exists_build_eq_error_iff :
    (∃ fault, build description specs handler = .error fault) ↔
      ¬((∀ spec ∈ specs, spec.IsWritable ∧ ¬spec.IsMalformed) ∧ ¬SharesName specs) := by
  rw [← Signature.exists_build_eq_ok_iff description, build]
  cases Signature.build description specs with
  | error e => simp
  | ok s => simp

def nested : (depth : Nat) → Value
  | 0 => .list []
  | depth + 1 => .list [nested depth]

theorem textFault?_nested_self (depth : Nat) :
    (nested depth).textFault? depth = some (.tooDeep " while getting the repr of an object") := by
  induction depth with
  | zero => rfl
  | succ depth ih =>
    rw [nested, Value.textFault?, Value.firstFault?, ih]
    rfl

end Command

end CommandShell
