import CommandShell.Value.Text

/-! What a command declares about itself: a description and the parameters that bare arguments are
matched with, in order. Parameter names are distinct. -/

namespace CommandShell

structure Parameter where
  name : String
  help : String
  default : String
  deriving DecidableEq, Repr

inductive ParameterSpec
  | named (name : String)
  | listed (values : List Value)
  | full (parameter : Parameter)

inductive SignatureError
  | malformed (values : List Value)
  | textless (fault : Fault)
  | duplicate (name : String)

def SignatureError.fault : SignatureError → Fault
  | malformed vs => .value ("parameter spec must be (name[, help[, default]]), got " ++
      (Value.list vs).shown)
  | textless fault => fault
  | duplicate name => .value ("Duplicate parameter name: " ++ name)

/-- What a declaration leaves out is empty. A value without a text can be no part of a parameter, nor
be shown in an error. -/
def ParameterSpec.parameter : ParameterSpec → Except SignatureError Parameter
  | named name => .ok ⟨name, "", ""⟩
  | listed values =>
    match Value.firstFault? values Value.nestingLimit with
    | some fault => .error (.textless fault)
    | none =>
      match values with
      | [name] => .ok ⟨name.plain, "", ""⟩
      | [name, help] => .ok ⟨name.plain, help.plain, ""⟩
      | [name, help, default] => .ok ⟨name.plain, help.plain, default.plain⟩
      | _ => .error (.malformed values)
  | full p => .ok p

structure Signature where
  description : String
  parameters : List Parameter
  nodup : (parameters.map Parameter.name).Nodup
  deriving DecidableEq, Repr

def firstRepeated (seen : List String) : List String → Option String
  | [] => none
  | name :: rest => if name ∈ seen then some name else firstRepeated (name :: seen) rest

theorem firstRepeated_eq_none {seen names : List String} :
    firstRepeated seen names = none ↔ names.Nodup ∧ ∀ n ∈ names, n ∉ seen := by
  induction names generalizing seen with
  | nil => simp [firstRepeated]
  | cons name rest ih =>
    by_cases h : name ∈ seen
    · simp [firstRepeated, h]
    · simp only [firstRepeated, h, if_false, ih, List.mem_cons, List.nodup_cons, not_or,
        forall_eq_or_imp, not_false_eq_true, true_and]
      constructor
      · rintro ⟨hn, hs⟩
        exact ⟨⟨fun hm => (hs name hm).1 rfl, hn⟩, fun n hm => (hs n hm).2⟩
      · rintro ⟨⟨hx, hn⟩, hs⟩
        exact ⟨hn, fun n hm => ⟨fun e => hx (e ▸ hm), hs n hm⟩⟩

namespace Signature

/-- Malformed declarations are reported before repeated names. -/
def build (description : String) (specs : List ParameterSpec) :
    Except SignatureError Signature :=
  match specs.mapM ParameterSpec.parameter with
  | .error e => .error e
  | .ok ps =>
    match h : firstRepeated [] (ps.map Parameter.name) with
    | some name => .error (.duplicate name)
    | none => .ok ⟨description, ps, (firstRepeated_eq_none.1 h).1⟩

def names (s : Signature) : List String := s.parameters.map Parameter.name

/-- The declared default of a parameter; empty for other names. -/
def defaultFor (s : Signature) (name : String) : String :=
  match s.parameters.find? (·.name == name) with
  | some p => p.default
  | none => ""

def defaults (s : Signature) : Entries String :=
  Entries.ofList (s.parameters.map fun p => (p.name, p.default))

def withDefaults (s : Signature) (arguments : Entries String) : Entries String :=
  Entries.merge s.defaults arguments

def usage (s : Signature) (command : String) : String :=
  " ".intercalate (command :: s.parameters.map fun p => "[" ++ p.name ++ "]")

end Signature
end CommandShell
