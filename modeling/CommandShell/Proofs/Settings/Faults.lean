import CommandShell.Proofs.Settings.Effective
import CommandShell.Proofs.Text.Colour
import CommandShell.Standalone

/-! What loading settings can fail with. A wrong value and a text that cannot be decoded are
reported, and the program ends with a code of its own; a file of sections that is not of that form,
tables nested too deep, and paths that lead astray end the program by faults that nothing
reports. -/

namespace CommandShell

/-- The faults of values: a value that is wrong, and bytes that are no text. -/
def Fault.IsOfValue (f : Fault) : Prop := f.IsValue ∨ ∃ u, f = .undecodable u

def Files.Given (fs : Files) (path : String) : Prop :=
  (∃ bytes, fs.read path = .ok bytes) ∨ ∃ p, fs.read path = .error (.file (.missing p))

namespace Config

structure Given (fs : Files) (directory : String) : Prop where
  assignments : fs.Given (Location.join directory ".env")
  options : fs.Given (Location.join directory "config.ini")
  json : fs.Given (Location.join directory "config.json")
  toml : fs.Given (Location.join directory "config.toml")

inductive OptionsRefused (fs : Files) (path : String) : Fault → Prop
  | form {bytes : List UInt8} {e : Ini.Error} (found : fs.read path = .ok bytes)
      (read : Ini.read bytes = .error e) (decoded : ∀ u, e ≠ .undecodable u) :
      OptionsRefused fs path (.named e.label (e.message path))

inductive TooDeep (reader : String → Except ReadError Value) (fs : Files) (path : String) :
    Fault → Prop
  | values {bytes : List UInt8} {text doing : String} (found : fs.read path = .ok bytes)
      (decoded : Sources.decode bytes = .ok text)
      (read : reader text = .error (.nestedTooDeep doing)) :
      TooDeep reader fs path (.tooDeep doing)
  | tables {bytes : List UInt8} {text : String} {v : Value} (found : fs.read path = .ok bytes)
      (decoded : Sources.decode bytes = .ok text) (read : reader text = .ok v)
      (deep : tableLimit < tableDepth v) : TooDeep reader fs path tableFault

/-- The faults that are not of values: of the first of the files that cannot be read, or, where all of
them can, of a path among the settings. -/
inductive Escapes (fs : Files) (directory : String) (around : Surroundings)
    (environment : Entries String) (overrides : Entries Value) : Fault → Prop
  | options {a : Entries String} {f : Fault}
      (assignments : HoldsAssignments fs (Location.join directory ".env") a)
      (refused : OptionsRefused fs (Location.join directory "config.ini") f) :
      Escapes fs directory around environment overrides f
  | json {a o : Entries String} {f : Fault}
      (assignments : HoldsAssignments fs (Location.join directory ".env") a)
      (options : HoldsOptions fs (Location.join directory "config.ini") o)
      (deep : TooDeep Json.read fs (Location.join directory "config.json") f) :
      Escapes fs directory around environment overrides f
  | toml {a o : Entries String} {v : Value} {f : Fault}
      (assignments : HoldsAssignments fs (Location.join directory ".env") a)
      (options : HoldsOptions fs (Location.join directory "config.ini") o)
      (json : HoldsValue Json.read fs (Location.join directory "config.json") v)
      (deep : TooDeep Toml.read fs (Location.join directory "config.toml") f) :
      Escapes fs directory around environment overrides f
  | path {d : Documents} {f : Fault} (held : d.In fs directory)
      (astray : Settings.Astray around
        (Settings.valueAt (d.effective environment overrides)) f) :
      Escapes fs directory around environment overrides f

theorem OptionsRefused.not_isOfValue {fs : Files} {path : String} {f : Fault}
    (h : OptionsRefused fs path f) : ¬ f.IsOfValue := by
  cases h
  rintro (⟨m, h⟩ | ⟨u, h⟩) <;> cases h

theorem TooDeep.not_isOfValue {reader : String → Except ReadError Value} {fs : Files}
    {path : String} {f : Fault} (h : TooDeep reader fs path f) : ¬ f.IsOfValue := by
  cases h <;> rintro (⟨m, h⟩ | ⟨u, h⟩) <;> cases h

variable {around : Surroundings} {directory : String} {environment : Entries String}
  {overrides : Entries Value}

theorem Escapes.not_isOfValue {fs : Files} {f : Fault}
    (h : Escapes fs directory around environment overrides f) : ¬ f.IsOfValue := by
  cases h with
  | options _ refused => exact refused.not_isOfValue
  | json _ _ deep => exact deep.not_isOfValue
  | toml _ _ _ deep => exact deep.not_isOfValue
  | path _ astray =>
    rintro (wrong | ⟨u, h⟩)
    · exact astray.not_isValue wrong
    · cases astray <;> cases h

namespace Sources

variable {fs : Files} {path : String} {f : Fault}

theorem bytes?_ne_error (given : fs.Given path) : bytes? fs path ≠ .error f := by
  rcases given with ⟨bytes, found⟩ | ⟨p, missing⟩
  · simp [bytes?, found]
  · simp [bytes?, missing]

theorem isOfValue_of_decode {bytes : List UInt8} (h : decode bytes = .error f) : f.IsOfValue := by
  unfold decode at h
  cases hdecode : Text.Utf8.decode bytes with
  | ok text =>
    rw [hdecode] at h
    cases h
  | error u =>
    rw [hdecode] at h
    cases h
    exact .inr ⟨u, rfl⟩

theorem isOfValue_of_readAssignments (given : fs.Given path)
    (h : readAssignments fs path = .error f) : f.IsOfValue := by
  rcases error_of_bind h with h | ⟨opened, -, h⟩
  · exact absurd h (bytes?_ne_error given)
  · cases opened with
    | none => cases h
    | some bytes =>
      rcases error_of_bind h with h | ⟨text, -, h⟩
      · exact isOfValue_of_decode h
      · cases h

theorem readIni_eq_error (given : fs.Given path) (h : readIni fs path = .error f) :
    f.IsOfValue ∨ OptionsRefused fs path f := by
  rcases given with ⟨bytes, found⟩ | ⟨p, missing⟩
  · simp only [readIni, found] at h
    split at h
    · cases h
    · next e read =>
      cases h
      cases e with
      | undecodable u => exact .inl (.inr ⟨u, rfl⟩)
      | _ => exact .inr (.form found read (by simp))
  · simp only [readIni, missing] at h
    cases h

theorem readIni_of_refused (h : OptionsRefused fs path f) : readIni fs path = .error f := by
  cases h with
  | form found read decoded =>
    rename_i bytes e
    simp only [readIni, found, read]
    cases e with
    | undecodable u => exact absurd rfl (decoded u)
    | _ => rfl

theorem readValue_eq_error {reader : String → Except ReadError Value} (given : fs.Given path)
    (h : readValue reader fs path = .error f) : f.IsOfValue ∨ TooDeep reader fs path f := by
  rcases error_of_bind h with h | ⟨opened, hopened, h⟩
  · exact absurd h (bytes?_ne_error given)
  · rcases bytes?_eq_ok hopened with ⟨bytes, rfl, found⟩ | ⟨rfl, p, missing⟩
    · rcases error_of_bind h with h | ⟨text, decoded, h⟩
      · exact .inl (isOfValue_of_decode h)
      · cases read : reader text with
        | ok v =>
          rw [read, orNothing_ok, flatten_eq] at h
          split at h
          · cases h
          · next deep =>
            cases h
            exact .inr (.tables found decoded read (not_le.mp deep))
        | error e =>
          rw [read] at h
          cases e with
          | malformed => cases h
          | integerTooLong digits =>
            cases h
            exact .inl (.inl ⟨_, rfl⟩)
          | nestedTooDeep doing =>
            cases h
            exact .inr (.values found decoded read)
    · cases h

theorem readValue_of_tooDeep {reader : String → Except ReadError Value}
    (h : TooDeep reader fs path f) : readValue reader fs path = .error f := by
  cases h with
  | values found decoded read =>
    rw [readValue_of_text found decoded, read]
    rfl
  | tables found decoded read deep =>
    rw [readValue_of_text found decoded, read, orNothing_ok, flatten_eq, if_neg deep.not_ge]

theorem read_eq_error (given : Given fs directory) (around : Surroundings)
    (h : read fs directory environment overrides = .error f) :
    f.IsOfValue ∨ Escapes fs directory around environment overrides f := by
  rcases error_of_bind h with h | ⟨_, hassignments, h⟩
  · exact .inl (isOfValue_of_readAssignments given.assignments h)
  obtain ⟨a, assignments⟩ := exists_holds_of_readAssignments hassignments
  rcases error_of_bind h with h | ⟨_, hoptions, h⟩
  · exact (readIni_eq_error given.options h).imp_right (.options assignments)
  obtain ⟨o, options⟩ := exists_holds_of_readIni hoptions
  rcases error_of_bind h with h | ⟨_, hjson, h⟩
  · exact (readValue_eq_error given.json h).imp_right (.json assignments options)
  obtain ⟨v, json⟩ := exists_holds_of_readValue hjson
  rcases error_of_bind h with h | ⟨_, -, h⟩
  · exact (readValue_eq_error given.toml h).imp_right (.toml assignments options json)
  · cases h

end Sources
end Config

namespace Standalone

variable {host : Host} {f : Fault}

theorem start_of_load_error
    (h : Settings.load host.files host.around.directory host.around host.around.environment [] =
      .error f) : start host = .error (refuse host f) := by
  unfold start
  simp only [h]

theorem run_of_start_error {r : Refusal} (h : start host = .error r) (lines : List String)
    (afterwards : Raised) :
    run host lines afterwards = ⟨r.ending, "", r.errors, r.files⟩ := by
  unfold run
  simp only [h]

theorem refuse_of_not_isOfValue (h : ¬ f.IsOfValue) :
    refuse host f = ⟨.error (.fault f), "", host.files⟩ := by
  unfold refuse
  split
  · next m => exact absurd (.inl ⟨m, rfl⟩) h
  · next u => exact absurd (.inr ⟨u, rfl⟩) h
  · rfl

/-- What is shown of settings that cannot be loaded: one line, red on a terminal. -/
def notLoaded (isTerminal : Bool) (message : String) : String :=
  Text.styledLine "\x1b[31m" isTerminal ("[FAILED] Load configuration (" ++ message ++ ")")

theorem refuse_of_isOfValue (h : f.IsOfValue) :
    refuse host f = ⟨.ok 2, notLoaded host.isTerminal f.message, host.files⟩ := by
  have shown : ((Output.mk host.isTerminal "").printLine
      (Text.paint [.red] ("[FAILED] Load configuration (" ++ f.message ++ ")"))).written =
        notLoaded host.isTerminal f.message := by
    rw [Text.printLine_paint, Text.sequence_red, String.empty_append, notLoaded]
  rw [← shown]
  rcases h with ⟨m, rfl⟩ | ⟨u, rfl⟩ <;> rfl

end Standalone

namespace Settings

open Config (Escapes)

variable {fs : Files} {directory : String} {around : Surroundings} {environment : Entries String}
  {overrides : Entries Value} {f : Fault}

theorem load_of_escapes (h : Escapes fs directory around environment overrides f) :
    load fs directory around environment overrides = .error f := by
  cases h with
  | options assignments refused =>
    rw [load, Config.Sources.read, Config.Sources.readAssignments_of_holds assignments,
      Config.Sources.readIni_of_refused refused]
    rfl
  | json assignments options deep =>
    rw [load, Config.Sources.read, Config.Sources.readAssignments_of_holds assignments,
      Config.Sources.readIni_of_holds options, Config.Sources.readJson_eq,
      Config.Sources.readValue_of_tooDeep deep]
    rfl
  | toml assignments options json deep =>
    rw [load, Config.Sources.read, Config.Sources.readAssignments_of_holds assignments,
      Config.Sources.readIni_of_holds options, Config.Sources.readJson_eq,
      Config.Sources.readToml_eq, Config.Sources.readValue_of_holds json,
      Config.Sources.readValue_of_tooDeep deep]
    rfl
  | path held astray =>
    rw [load_eq held]
    rw [← valueOf_merged] at astray
    exact ofEntries_of_astray astray

theorem load_eq_error (given : Config.Given fs directory)
    (h : load fs directory around environment overrides = .error f) :
    f.IsOfValue ∨ Escapes fs directory around environment overrides f := by
  rcases error_of_bind h with h | ⟨sources, read, h⟩
  · exact Config.Sources.read_eq_error given around h
  · obtain ⟨d, held⟩ := Config.Documents.exists_in_of_read read
    have failed : load fs directory around environment overrides = .error f := by rwa [load, read]
    rw [load_eq held] at failed
    rcases ofEntries_eq_error failed with wrong | astray
    · exact .inl (.inl wrong)
    · rw [valueOf_merged] at astray
      exact .inr (.path held astray)

end Settings
end CommandShell
