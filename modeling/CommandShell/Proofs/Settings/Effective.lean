import CommandShell.Proofs.Settings.Checks
import CommandShell.Proofs.Settings.Sources

/-! What settings depend on: the effective values of names and nothing else. A value that a higher
source hides changes neither settings nor the fault for a wrong one, and each field follows the
value of its own name. -/

namespace CommandShell.Settings

open Config (Documents Sources)

/-- A name without a value is taken for one that is not given. -/
def valueAt (value : String → Option Value) (name : String) : Value := (value name).getD .null

/-- Settings that are those of values: each field is read off the value of its own name, and the
path of the history also off the name of the project. Left over are the names of no setting. -/
structure Reflects (around : Surroundings) (value : String → Option Value) (s : Settings) :
    Prop where
  projectName : asProject (valueAt value "PROJECT_NAME") = .ok s.projectName
  historyPath : (asPath around (valueAt value "HISTORY_PATH")).map
    (·.getD (standardHistoryPath around s.projectName)) = .ok s.historyPath
  caseInsensitive : asBool "CASE_INSENSITIVE" (valueAt value "CASE_INSENSITIVE") =
    .ok s.caseInsensitive
  prompt : asText (valueAt value "PROMPT") = .ok s.prompt
  logLevel : asLevel (valueAt value "LOG_LEVEL") = .ok s.logLevel
  logFilePath : asPath around (valueAt value "LOG_FILE_PATH") = .ok s.logFilePath
  enableCompletion : asBool "ENABLE_COMPLETION" (valueAt value "ENABLE_COMPLETION") =
    .ok s.enableCompletion
  showBanner : asBool "SHOW_BANNER" (valueAt value "SHOW_BANNER") = .ok s.showBanner
  pluginPackage : asModule (valueAt value "PLUGIN_PACKAGE") = .ok s.pluginPackage
  extra : ∀ name, Entries.find? s.extra name = if isSetting name then none else value name
  distinct : (Entries.keys s.extra).Nodup

/-- Surroundings in which the paths that are given lead to the same places, and histories without a
path of their own too. -/
structure SamePlaces (value : String → Option Value) (around around' : Surroundings) : Prop where
  temporary : around.temporary = around'.temporary
  located : ∀ name ∈ ["HISTORY_PATH", "LOG_FILE_PATH"],
    around.locate (valueAt value name).plain = around'.locate (valueAt value name).plain

theorem SamePlaces.refl (value : String → Option Value) (around : Surroundings) :
    SamePlaces value around around :=
  ⟨rfl, fun _ _ => rfl⟩

def withoutExtra (s : Settings) : Settings := { s with extra := [] }

/-- Settings that agree in every field; in what is left over, the order does not count. -/
def Same (s s' : Settings) : Prop :=
  s.withoutExtra = s'.withoutExtra ∧
    ∀ name, Entries.find? s.extra name = Entries.find? s'.extra name

variable {around around' : Surroundings} {entries entries' : Entries Value}
  {value : String → Option Value}

theorem valueOf_eq (defaulted : ∀ name, value name = none → Entries.find? defaults name = none)
    (found : ∀ name, Entries.find? entries name = value name) :
    valueOf entries = valueAt value := by
  funext name
  rw [valueOf, valueAt, found]
  cases h : value name with
  | none => rw [defaulted name h]
  | some v => rfl

theorem reflects_of_ofEntries (nodup : (Entries.keys entries).Nodup)
    (values : valueOf entries = valueAt value)
    (found : ∀ name, Entries.find? entries name = value name) {s : Settings}
    (h : ofEntries around entries = .ok s) : s.Reflects around value := by
  unfold ofEntries at h
  rw [values] at h
  obtain ⟨project, hproject, h⟩ := ok_of_bind h
  obtain ⟨history, hhistory, h⟩ := ok_of_bind h
  obtain ⟨folding, hfolding, h⟩ := ok_of_bind h
  obtain ⟨prompt, hprompt, h⟩ := ok_of_bind h
  obtain ⟨level, hlevel, h⟩ := ok_of_bind h
  obtain ⟨logFile, hlogFile, h⟩ := ok_of_bind h
  obtain ⟨completion, hcompletion, h⟩ := ok_of_bind h
  obtain ⟨banner, hbanner, h⟩ := ok_of_bind h
  obtain ⟨package, hpackage, h⟩ := ok_of_bind h
  cases h
  refine ⟨hproject, ?_, hfolding, hprompt, hlevel, hlogFile, hcompletion, hbanner, hpackage, ?_, ?_⟩
  · rw [hhistory]
    rfl
  · intro name
    change Entries.find? (entries.filter fun e => !isSetting e.1) name = _
    rw [Entries.find?_filter entries fun name => !isSetting name, found]
    cases isSetting name <;> rfl
  · exact Entries.nodup_keys_filter nodup _

theorem eq_plain_of_asText {v : Value} {s : String} (h : asText v = .ok (some s)) :
    s = v.plain := by
  unfold asText plainOf at h
  split at h
  · have hgiven : (if isGiven v.plain then some v.plain else none) = some s := Except.ok.inj h
    split at hgiven
    · exact (Option.some.inj hgiven).symm
    · cases hgiven
  · cases h

theorem asPath_congr {v : Value} (located : around.locate v.plain = around'.locate v.plain) :
    asPath around v = asPath around' v := by
  unfold asPath
  cases h : asText v with
  | error f => rfl
  | ok given =>
    cases given with
    | none => rfl
    | some s =>
      rw [eq_plain_of_asText h]
      change (around.locate v.plain).map some = (around'.locate v.plain).map some
      rw [located]

theorem ofEntries_congr (values : valueOf entries = valueAt value)
    (values' : valueOf entries' = valueAt value) (places : SamePlaces value around around') :
    withoutExtra <$> ofEntries around entries = withoutExtra <$> ofEntries around' entries' := by
  have hhistory := asPath_congr (places.located "HISTORY_PATH" (by simp))
  have hlog := asPath_congr (places.located "LOG_FILE_PATH" (by simp))
  have hstandard : standardHistoryPath around = standardHistoryPath around' := by
    funext project
    rw [standardHistoryPath, standardHistoryPath, places.temporary]
  simp only [ofEntries, values, values', hhistory, hlog, hstandard, map_bind]
  rfl

theorem valueOf_merged (d : Documents) (environment : Entries String)
    (overrides : Entries Value) :
    valueOf ((d.sources environment overrides).merged defaults) =
      valueAt (d.effective environment overrides) := by
  refine valueOf_eq (fun name h => ?_) (d.find?_merged environment overrides)
  rw [← Entries.find?_reverse Documents.nodup_keys_defaults]
  exact List.findSome?_eq_none_iff.mp h defaults (by simp [Documents.layers])

theorem load_eq {d : Documents} {fs : Files} {directory : String} (held : d.In fs directory)
    (around : Surroundings) (environment : Entries String) (overrides : Entries Value) :
    load fs directory around environment overrides =
      ofEntries around ((d.sources environment overrides).merged defaults) := by
  rw [load, held.read_eq]
  rfl

theorem reflects_of_load {d : Documents} {fs : Files} {directory : String}
    (held : d.In fs directory) {environment : Entries String} {overrides : Entries Value}
    {s : Settings} (h : load fs directory around environment overrides = .ok s) :
    s.Reflects around (d.effective environment overrides) := by
  rw [load_eq held] at h
  exact reflects_of_ofEntries (Documents.nodup_keys_merged _) (valueOf_merged d _ _)
    (d.find?_merged _ _) h

theorem same_or_refused {x x' : Except Fault Settings}
    (fields : withoutExtra <$> x = withoutExtra <$> x')
    (reflects : ∀ s, x = .ok s → s.Reflects around value)
    (reflects' : ∀ s', x' = .ok s' → s'.Reflects around' value) :
    (∃ s s', x = .ok s ∧ x' = .ok s' ∧ s.Same s') ∨ ∃ f, x = .error f ∧ x' = .error f := by
  cases x with
  | error f =>
    cases x' with
    | error f' =>
      cases fields
      exact .inr ⟨f, rfl, rfl⟩
    | ok s' => cases fields
  | ok s =>
    cases x' with
    | error f' => cases fields
    | ok s' =>
      refine .inl ⟨s, s', rfl, rfl, Except.ok.inj fields, fun name => ?_⟩
      rw [(reflects s rfl).extra, (reflects' s' rfl).extra]

end CommandShell.Settings
