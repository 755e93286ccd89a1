import CommandShell.Proofs.Failure
import CommandShell.Proofs.Settings.Flattening
import CommandShell.Proofs.Text.Utf8
import CommandShell.Settings
import Mathlib.Data.List.Induction

/-! What settings are read from. The four files are read to documents, one layer of names and values
each, between the defaults below them and the environment and the overrides above them; the value of
a name is the last one in the highest layer that has the name. -/

namespace CommandShell

namespace Config

structure Documents where
  assignments : Entries String
  options : Entries String
  json : Value
  toml : Value

inductive HoldsAssignments (fs : Files) (path : String) : Entries String → Prop
  | absent {p : String} (missing : fs.read path = .error (.file (.missing p))) :
      HoldsAssignments fs path []
  | text {bytes : List UInt8} {text : String} (found : fs.read path = .ok bytes)
      (decoded : Sources.decode bytes = .ok text) :
      HoldsAssignments fs path (EnvFile.read text)

inductive HoldsOptions (fs : Files) (path : String) : Entries String → Prop
  | unopened {e : FileFault} (refused : fs.read path = .error (.file e)) : HoldsOptions fs path []
  | options {bytes : List UInt8} {options : Entries String} (found : fs.read path = .ok bytes)
      (read : Ini.read bytes = .ok options) : HoldsOptions fs path options

/-- A file of one value: absent or malformed, which counts as an empty table, or the text of a value
in which tables are nested no deeper than they can be flattened. -/
inductive HoldsValue (reader : String → Except ReadError Value) (fs : Files) (path : String) :
    Value → Prop
  | absent {p : String} (missing : fs.read path = .error (.file (.missing p))) :
      HoldsValue reader fs path (.table [])
  | malformed {bytes : List UInt8} {text : String} (found : fs.read path = .ok bytes)
      (decoded : Sources.decode bytes = .ok text) (read : reader text = .error .malformed) :
      HoldsValue reader fs path (.table [])
  | value {bytes : List UInt8} {text : String} {v : Value} (found : fs.read path = .ok bytes)
      (decoded : Sources.decode bytes = .ok text) (read : reader text = .ok v)
      (shallow : tableDepth v ≤ tableLimit) : HoldsValue reader fs path v

namespace Sources

variable {fs : Files} {path : String}

theorem decode_encode (text : String) : decode (Text.Utf8.encode text) = .ok text := by
  rw [decode, Text.Utf8.decode_encode]
  rfl

theorem readAssignments_of_holds {assignments : Entries String}
    (holds : HoldsAssignments fs path assignments) :
    readAssignments fs path = .ok (upperKeys (texts assignments)) := by
  cases holds with
  | absent missing =>
    simp only [readAssignments, bytes?, missing]
    rfl
  | text found decoded =>
    simp only [readAssignments, bytes?, found]
    change (decode _).bind _ = _
    rw [decoded]
    rfl

theorem readIni_of_holds {options : Entries String} (holds : HoldsOptions fs path options) :
    readIni fs path = .ok (upperKeys (texts options)) := by
  cases holds with
  | unopened refused =>
    simp only [readIni, refused]
    rfl
  | options found read => simp only [readIni, found, read]

def readValue (reader : String → Except ReadError Value) (fs : Files) (path : String) :
    Except Fault (Entries Value) := do
  match ← bytes? fs path with
  | none => .ok []
  | some bytes => orNothing (reader (← decode bytes))

theorem readJson_eq : readJson = readValue Json.read := rfl

theorem readToml_eq : readToml = readValue Toml.read := rfl

theorem readValue_of_text {reader : String → Except ReadError Value} {bytes : List UInt8}
    {text : String} (found : fs.read path = .ok bytes) (decoded : decode bytes = .ok text) :
    readValue reader fs path = orNothing (reader text) := by
  simp only [readValue, bytes?, found]
  change (decode bytes).bind _ = _
  rw [decoded]
  rfl

theorem readValue_of_holds {reader : String → Except ReadError Value} {v : Value}
    (holds : HoldsValue reader fs path v) :
    readValue reader fs path = .ok (flattened v) := by
  cases holds with
  | absent missing =>
    rw [flattened_empty]
    simp only [readValue, bytes?, missing]
    rfl
  | malformed found decoded read =>
    rw [flattened_empty, readValue_of_text found decoded, read]
    rfl
  | value found decoded read shallow =>
    rw [readValue_of_text found decoded, read, orNothing_ok, flatten_eq, if_pos shallow]

theorem bytes?_eq_ok {opened : Option (List UInt8)} (h : bytes? fs path = .ok opened) :
    (∃ bytes, opened = some bytes ∧ fs.read path = .ok bytes) ∨
      opened = none ∧ ∃ p, fs.read path = .error (.file (.missing p)) := by
  unfold bytes? at h
  split at h
  · next bytes found =>
    cases h
    exact .inl ⟨bytes, rfl, found⟩
  · next p missing =>
    cases h
    exact .inr ⟨rfl, p, missing⟩
  · cases h

theorem exists_holds_of_readAssignments {read : Entries Value}
    (h : readAssignments fs path = .ok read) : ∃ a, HoldsAssignments fs path a := by
  obtain ⟨opened, hopened, h⟩ := ok_of_bind h
  rcases bytes?_eq_ok hopened with ⟨bytes, rfl, found⟩ | ⟨rfl, p, missing⟩
  · obtain ⟨text, decoded, -⟩ := ok_of_bind h
    exact ⟨_, .text found decoded⟩
  · exact ⟨_, .absent missing⟩

theorem exists_holds_of_readIni {read : Entries Value} (h : readIni fs path = .ok read) :
    ∃ o, HoldsOptions fs path o := by
  unfold readIni at h
  split at h
  · next refused => exact ⟨_, .unopened refused⟩
  · cases h
  · next bytes found =>
    split at h
    · next options hread => exact ⟨options, .options found hread⟩
    · cases h

theorem exists_holds_of_readValue {reader : String → Except ReadError Value} {read : Entries Value}
    (h : readValue reader fs path = .ok read) : ∃ v, HoldsValue reader fs path v := by
  obtain ⟨opened, hopened, h⟩ := ok_of_bind h
  rcases bytes?_eq_ok hopened with ⟨bytes, rfl, found⟩ | ⟨rfl, p, missing⟩
  · obtain ⟨text, decoded, h⟩ := ok_of_bind h
    cases hread : reader text with
    | ok v =>
      rw [hread, orNothing_ok, flatten_eq] at h
      split at h
      · next shallow => exact ⟨v, .value found decoded hread shallow⟩
      · cases h
    | error e =>
      rw [hread] at h
      cases e with
      | malformed => exact ⟨_, .malformed found decoded hread⟩
      | integerTooLong digits => cases h
      | nestedTooDeep doing => cases h
  · exact ⟨_, .absent missing⟩

end Sources

/-- Names that are compared in upper case. -/
def uppered (pairs : List (String × Value)) : List (String × Value) :=
  pairs.map fun (name, v) => (Text.upper name, v)

/-- The variables that stand for settings, under the names of these as they are. -/
def settingsOf (environment : Entries String) : List (String × Value) :=
  environment.filterMap fun (name, s) =>
    (Sources.settingOf? name).map fun setting => (setting, .text s)

namespace Documents

structure In (d : Documents) (fs : Files) (directory : String) : Prop where
  assignments : HoldsAssignments fs (Location.join directory ".env") d.assignments
  options : HoldsOptions fs (Location.join directory "config.ini") d.options
  json : HoldsValue Json.read fs (Location.join directory "config.json") d.json
  toml : HoldsValue Toml.read fs (Location.join directory "config.toml") d.toml

/-- What is set where, the highest layer first. -/
def layers (d : Documents) (environment : Entries String) (overrides : Entries Value) :
    List (List (String × Value)) :=
  [uppered overrides, settingsOf environment, keyedLeaves d.toml, keyedLeaves d.json,
    uppered (Sources.texts d.options), uppered (Sources.texts d.assignments), Settings.defaults]

/-- The value of a name: the last one in the highest layer that has the name. -/
def effective (d : Documents) (environment : Entries String) (overrides : Entries Value)
    (name : String) : Option Value :=
  (d.layers environment overrides).findSome? fun layer => Entries.find? layer.reverse name

theorem effective_congr (d : Documents) {environment environment' : Entries String}
    (settings : settingsOf environment = settingsOf environment') (overrides : Entries Value) :
    d.effective environment overrides = d.effective environment' overrides := by
  funext name
  rw [effective, effective, layers, layers, settings]

def sources (d : Documents) (environment : Entries String) (overrides : Entries Value) : Sources :=
  ⟨Sources.upperKeys (Sources.texts d.assignments), Sources.upperKeys (Sources.texts d.options),
    flattened d.json, flattened d.toml,
    Sources.ofVariables environment, Sources.upperKeys overrides⟩

variable {d : Documents} {fs : Files} {directory : String}

theorem In.read_eq (held : d.In fs directory) (environment : Entries String)
    (overrides : Entries Value) :
    Sources.read fs directory environment overrides = .ok (d.sources environment overrides) := by
  rw [Sources.read, Sources.readAssignments_of_holds held.assignments,
    Sources.readIni_of_holds held.options, Sources.readJson_eq, Sources.readToml_eq,
    Sources.readValue_of_holds held.json, Sources.readValue_of_holds held.toml]
  rfl

theorem exists_in_of_read {environment : Entries String} {overrides : Entries Value}
    {sources : Sources} (h : Sources.read fs directory environment overrides = .ok sources) :
    ∃ d : Documents, d.In fs directory := by
  obtain ⟨_, hassignments, h⟩ := ok_of_bind h
  obtain ⟨_, hoptions, h⟩ := ok_of_bind h
  obtain ⟨_, hjson, h⟩ := ok_of_bind h
  obtain ⟨_, htoml, -⟩ := ok_of_bind h
  rw [Sources.readJson_eq] at hjson
  rw [Sources.readToml_eq] at htoml
  obtain ⟨a, holdsAssignments⟩ := Sources.exists_holds_of_readAssignments hassignments
  obtain ⟨o, holdsOptions⟩ := Sources.exists_holds_of_readIni hoptions
  obtain ⟨json, holdsJson⟩ := Sources.exists_holds_of_readValue hjson
  obtain ⟨toml, holdsToml⟩ := Sources.exists_holds_of_readValue htoml
  exact ⟨⟨a, o, json, toml⟩, holdsAssignments, holdsOptions, holdsJson, holdsToml⟩

theorem nodup_keys_defaults : (Entries.keys Settings.defaults).Nodup := by decide

theorem find?_merged (d : Documents) (environment : Entries String) (overrides : Entries Value)
    (name : String) :
    Entries.find? ((d.sources environment overrides).merged Settings.defaults) name =
      d.effective environment overrides name := by
  have highest (layer : List (String × Value)) (below : List (List (String × Value))) :
      (layer :: below).findSome? (fun layer => Entries.find? layer.reverse name) =
        (Entries.find? layer.reverse name).or
          (below.findSome? fun layer => Entries.find? layer.reverse name) := by
    rw [List.findSome?_cons]
    cases Entries.find? layer.reverse name <;> rfl
  simp only [Sources.merged, Sources.inOrder, sources, List.foldl_cons, List.foldl_nil,
    Sources.upperKeys, Sources.ofVariables, flattened, Entries.find?_merge_ofList, effective, layers,
    highest,
    List.findSome?_nil, Option.or_none, Entries.find?_reverse nodup_keys_defaults]
  rfl

theorem nodup_keys_merged (s : Sources) :
    (Entries.keys (s.merged Settings.defaults)).Nodup := by
  rw [Sources.merged]
  induction s.inOrder using List.reverseRecOn with
  | nil => exact nodup_keys_defaults
  | append_singleton before source ih =>
    rw [List.foldl_append]
    exact Entries.nodup_keys_merge ih source

end Documents
end Config
end CommandShell
