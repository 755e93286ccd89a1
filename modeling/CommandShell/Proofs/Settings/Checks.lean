import CommandShell.Proofs.Failure
import CommandShell.Settings

/-! What the checks of settings come to. A check that fails says that a value is wrong, except that
a path may be lost on its way through links. -/

namespace CommandShell

namespace Fault

def IsValue (f : Fault) : Prop := ∃ m, f = .value m

end Fault

namespace Settings

def FailsBy {α : Type} (kind : Fault → Prop) (x : Except Fault α) : Prop :=
  ∀ f, x = .error f → kind f

namespace FailsBy

variable {α β : Type} {kind : Fault → Prop}

theorem ok (a : α) : FailsBy kind (.ok a) := by
  intro f h
  cases h

theorem error {f : Fault} (h : kind f) : FailsBy kind (.error f : Except Fault α) := by
  intro g hg
  cases hg
  exact h

theorem bind {x : Except Fault α} {f : α → Except Fault β} (hx : FailsBy kind x)
    (hf : ∀ a, FailsBy kind (f a)) : FailsBy kind (x >>= f) := by
  cases x with
  | error e => exact error (hx e rfl)
  | ok a => exact hf a

theorem map {x : Except Fault α} (hx : FailsBy kind x) (f : α → β) : FailsBy kind (x.map f) := by
  cases x with
  | error e => exact error (hx e rfl)
  | ok a => exact ok (f a)

end FailsBy

theorem wrong {α : Type} (m : String) :
    FailsBy Fault.IsValue (.error (.value m) : Except Fault α) :=
  .error ⟨m, rfl⟩

theorem plainOf_failsBy (v : Value) : FailsBy Fault.IsValue (plainOf v) := by
  unfold plainOf
  split
  · exact .ok _
  · exact wrong _

theorem asText_failsBy (v : Value) : FailsBy Fault.IsValue (asText v) :=
  (plainOf_failsBy v).map _

theorem asBool_failsBy (name : String) (v : Value) : FailsBy Fault.IsValue (asBool name v) := by
  unfold asBool
  split
  · exact .ok _
  · refine (plainOf_failsBy _).bind fun s => ?_
    split
    · exact .ok _
    · exact wrong _

theorem givenText_failsBy {α : Type} (v : Value) {check : Option String → Except Fault α}
    (without : FailsBy Fault.IsValue (check none))
    (given : ∀ s, FailsBy Fault.IsValue (check (some s))) :
    FailsBy Fault.IsValue (asText v >>= check) := by
  refine (asText_failsBy v).bind fun s => ?_
  cases s with
  | none => exact without
  | some s => exact given s

theorem asLevel_failsBy (v : Value) : FailsBy Fault.IsValue (asLevel v) := by
  refine givenText_failsBy v (.ok none) fun s => ?_
  dsimp only
  split
  · exact .ok _
  · exact wrong _

theorem asModule_failsBy (v : Value) : FailsBy Fault.IsValue (asModule v) := by
  refine givenText_failsBy v (.ok none) fun s => ?_
  dsimp only
  split
  · exact .ok _
  · exact wrong _

theorem asProject_failsBy (v : Value) : FailsBy Fault.IsValue (asProject v) :=
  givenText_failsBy v (wrong _) .ok

theorem homeOf_failsBy (around : Surroundings) (user : String) :
    FailsBy Fault.IsValue (around.homeOf user) := by
  unfold Surroundings.homeOf
  split
  · exact .ok _
  · split
    · exact wrong _
    · exact .ok _

theorem expandHome_failsBy (around : Surroundings) (path : String) :
    FailsBy Fault.IsValue (around.expandHome path) := by
  unfold Surroundings.expandHome
  split
  · exact (homeOf_failsBy around _).map _
  · exact .ok _

theorem placeOf_failsBy (around : Surroundings) (path : String) :
    FailsBy Fault.IsValue (around.placeOf path) := by
  refine (expandHome_failsBy around path).bind fun expanded => ?_
  dsimp only
  split
  · exact wrong _
  · exact .ok _

/-- The value leads to a place that is lost. -/
def LeadsAstray (around : Surroundings) (v : Value) (place : String) : Prop :=
  ∃ path, asText v = .ok (some path) ∧ around.placeOf path = .ok place ∧ around.isLost place = true

section Paths

variable {around : Surroundings} {v : Value} {path place : String} {f : Fault}

theorem locate_of_placeOf (leads : around.placeOf path = .ok place) :
    around.locate path =
      if around.isLost place then .error (Surroundings.lostFault place) else .ok place := by
  rw [Surroundings.locate, leads]
  rfl

theorem asPath_of_given (given : asText v = .ok (some path)) :
    asPath around v = (around.locate path).map some := by
  rw [asPath, given]
  rfl

theorem asPath_of_leadsAstray (h : LeadsAstray around v place) :
    asPath around v = .error (Surroundings.lostFault place) := by
  obtain ⟨path, given, leads, lost⟩ := h
  rw [asPath_of_given given, locate_of_placeOf leads, if_pos lost]
  rfl

theorem asPath_eq_error (h : asPath around v = .error f) :
    f.IsValue ∨ ∃ place, LeadsAstray around v place ∧ f = Surroundings.lostFault place := by
  rcases error_of_bind h with h | ⟨given, hgiven, h⟩
  · exact .inl (asText_failsBy v f h)
  cases given with
  | none => cases h
  | some path =>
    change (around.locate path).map some = .error f at h
    cases leads : around.placeOf path with
    | error e =>
      rw [Surroundings.locate, leads] at h
      cases h
      exact .inl (placeOf_failsBy around path f leads)
    | ok place =>
      rw [locate_of_placeOf leads] at h
      split at h
      · next lost =>
        cases h
        exact .inr ⟨place, ⟨path, hgiven, leads, lost⟩, rfl⟩
      · cases h

end Paths

inductive Astray (around : Surroundings) (value : String → Value) : Fault → Prop
  | history {project place : String} (named : asProject (value "PROJECT_NAME") = .ok project)
      (astray : LeadsAstray around (value "HISTORY_PATH") place) :
      Astray around value (Surroundings.lostFault place)
  | log {project place : String} {history prompt level : Option String} {folding : Bool}
      (named : asProject (value "PROJECT_NAME") = .ok project)
      (kept : asPath around (value "HISTORY_PATH") = .ok history)
      (folds : asBool "CASE_INSENSITIVE" (value "CASE_INSENSITIVE") = .ok folding)
      (prompts : asText (value "PROMPT") = .ok prompt)
      (logs : asLevel (value "LOG_LEVEL") = .ok level)
      (astray : LeadsAstray around (value "LOG_FILE_PATH") place) :
      Astray around value (Surroundings.lostFault place)

theorem Astray.not_isValue {around : Surroundings} {value : String → Value} {f : Fault}
    (h : Astray around value f) : ¬f.IsValue := by
  cases h <;> rintro ⟨m, h⟩ <;> cases h

theorem ofEntries_eq_error {around : Surroundings} {entries : Entries Value} {f : Fault}
    (h : ofEntries around entries = .error f) :
    f.IsValue ∨ Astray around (valueOf entries) f := by
  rcases error_of_bind h with h | ⟨project, named, h⟩
  · exact .inl (asProject_failsBy _ f h)
  rcases error_of_bind h with h | ⟨history, kept, h⟩
  · rcases asPath_eq_error h with wrong | ⟨place, astray, rfl⟩
    · exact .inl wrong
    · exact .inr (.history named astray)
  rcases error_of_bind h with h | ⟨folding, folds, h⟩
  · exact .inl (asBool_failsBy _ _ f h)
  rcases error_of_bind h with h | ⟨prompt, prompts, h⟩
  · exact .inl (asText_failsBy _ f h)
  rcases error_of_bind h with h | ⟨level, logs, h⟩
  · exact .inl (asLevel_failsBy _ f h)
  rcases error_of_bind h with h | ⟨logFile, -, h⟩
  · rcases asPath_eq_error h with wrong | ⟨place, astray, rfl⟩
    · exact .inl wrong
    · exact .inr (.log named kept folds prompts logs astray)
  rcases error_of_bind h with h | ⟨completion, -, h⟩
  · exact .inl (asBool_failsBy _ _ f h)
  rcases error_of_bind h with h | ⟨banner, -, h⟩
  · exact .inl (asBool_failsBy _ _ f h)
  rcases error_of_bind h with h | ⟨package, -, h⟩
  · exact .inl (asModule_failsBy _ f h)
  · cases h

theorem ofEntries_of_astray {around : Surroundings} {entries : Entries Value} {f : Fault}
    (h : Astray around (valueOf entries) f) : ofEntries around entries = .error f := by
  cases h with
  | history named astray =>
    simp only [ofEntries, named, asPath_of_leadsAstray astray]
    rfl
  | log named kept folds prompts logs astray =>
    simp only [ofEntries, named, kept, folds, prompts, logs, asPath_of_leadsAstray astray]
    rfl

end Settings
end CommandShell
