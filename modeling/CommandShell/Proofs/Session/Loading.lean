import CommandShell.Proofs.Library
import CommandShell.Proofs.Session.Dispatch

/-! What loading a package comes to. The modules that are visited and what each of them exports are
laid out as a list of steps; loading does them one after the other up to the first that raises, and
what would come after that one has no part in it. -/

namespace CommandShell

variable {δ : Type}

inductive LoadStep (δ : Type)
  | visit (module : String)
  | skip (module name : String)
  | register (name : String) (command : Command δ)

namespace LoadStep

def apply (lib : Library δ) (r : Registry (Command δ)) :
    LoadStep δ → Except Raised (Registry (Command δ))
  | visit module => (lib.importModule module).map fun _ => r
  | skip _ _ => .ok r
  | register name command =>
    (r.register name (.command command)).mapError fun e => .fault e.fault

def registers : LoadStep δ → Bool
  | register .. => true
  | _ => false

def warning? : LoadStep δ → Option Log.Record
  | skip module name => some (Session.skipping module name)
  | _ => none

variable {lib other : Library δ}

theorem apply_congr {step : LoadStep δ} (r : Registry (Command δ))
    (agree : ∀ module, step = visit module →
      other.importModule module = lib.importModule module) :
    step.apply other r = step.apply lib r := by
  cases step with
  | visit module => rw [apply, apply, agree module rfl]
  | _ => rfl

theorem foldlM_apply_congr {steps : List (LoadStep δ)} (r : Registry (Command δ))
    (agree : ∀ module, visit module ∈ steps →
      other.importModule module = lib.importModule module) :
    steps.foldlM (apply other) r = steps.foldlM (apply lib) r := by
  induction steps generalizing r with
  | nil => rfl
  | cons step rest ih =>
    obtain ⟨first, later⟩ : step.apply other r = step.apply lib r ∧
        ∀ u, rest.foldlM (apply other) u = rest.foldlM (apply lib) u :=
      ⟨apply_congr r fun module hm => agree module (hm ▸ List.mem_cons_self),
        fun u => ih u fun module hm => agree module (List.mem_cons_of_mem _ hm)⟩
    rw [List.foldlM_cons, List.foldlM_cons, first, funext later]

end LoadStep

/-- One step for each entry of what a module exports, in order. -/
def Imported.steps (found : Imported δ) : List (LoadStep δ) :=
  match found.exports with
  | .mapping entries => entries.map fun (name, offered) =>
    match offered with
    | .command command => .register name command
    | .foreign _ => .skip found.name name
  | .other => []

namespace Library

/-- A module is visited before what it exports is registered. -/
def stepsAt (lib : Library δ) (module : String) : List (LoadStep δ) :=
  .visit module :: match lib.importModule module with
    | .ok found => found.steps
    | .error _ => []

def loading (lib : Library δ) (modules : List String) : List (LoadStep δ) :=
  modules.flatMap lib.stepsAt

variable {lib other : Library δ}

theorem loading_cons (module : String) (modules : List String) :
    lib.loading (module :: modules) = lib.stepsAt module ++ lib.loading modules := rfl

theorem prefix_loading {modules : List String} {first : List (LoadStep δ)}
    (h : first <+: lib.loading modules)
    (agree : ∀ module, .visit module ∈ first →
      other.importModule module = lib.importModule module) :
    first <+: other.loading modules := by
  induction modules generalizing first with
  | nil => exact h
  | cons module modules ih =>
    rw [loading_cons] at h ⊢
    cases first with
    | nil => exact List.nil_prefix
    | cons step first =>
      obtain rfl : step = .visit module := (List.cons_prefix_cons.mp h).1
      -- the module is visited before its other steps, so they agree too
      have same : other.stepsAt module = lib.stepsAt module := by
        rw [stepsAt, stepsAt, agree module List.mem_cons_self]
      rw [same]
      rcases List.prefix_or_prefix_of_prefix h (List.prefix_append _ _) with inside | ⟨later, heq⟩
      · exact inside.trans (List.prefix_append _ _)
      · rw [← heq] at h agree ⊢
        rw [List.prefix_append_right_inj] at h ⊢
        exact ih h fun m hm => agree m (List.mem_append_right _ hm)

end Library

namespace Session

def takeStep (lib : Library δ) : LoadStep δ → SessionM δ Unit
  | .visit module => ofExcept ((lib.importModule module).map fun _ => ())
  | .skip module name => note (skipping module name)
  | .register name command => register name (.command command)

def takeSteps (lib : Library δ) (steps : List (LoadStep δ)) : SessionM δ Nat := do
  steps.forM (takeStep lib)
  pure (steps.countP LoadStep.registers)

variable {lib : Library δ} {s : Session δ} {r : Registry (Command δ)} {e : Raised}

theorem takeSteps_cons (step : LoadStep δ) (rest : List (LoadStep δ)) :
    takeSteps lib (step :: rest) = (do
      takeStep lib step
      let more ← takeSteps lib rest
      pure (more + if step.registers then 1 else 0)) := by
  simp [takeSteps, List.countP_cons]

theorem takeSteps_append (first rest : List (LoadStep δ)) :
    takeSteps lib (first ++ rest) = (do
      let count ← takeSteps lib first
      let more ← takeSteps lib rest
      pure (count + more)) := by
  simp [takeSteps, List.forM_append]

theorem registerExports_eq (lib : Library δ) (module : String)
    (entries : List (String × Export (Command δ))) (directories : Option (List String)) :
    registerExports module entries =
      takeSteps lib (Imported.steps ⟨module, .mapping entries, directories⟩) := by
  induction entries with
  | nil => rfl
  | cons entry rest ih =>
    obtain ⟨name, offered⟩ := entry
    let others := Imported.steps ⟨module, .mapping rest, directories⟩
    cases offered with
    | foreign kind =>
      change _ = takeSteps lib (.skip module name :: others)
      rw [registerExports, takeSteps_cons, ih]
      simp [takeStep, LoadStep.registers, others]
    | command c =>
      change _ = takeSteps lib (.register name c :: others)
      rw [registerExports, takeSteps_cons, ih]
      simp [takeStep, LoadStep.registers, others]

theorem registerModule_eq (lib : Library δ) (found : Imported δ) :
    registerModule found = takeSteps lib found.steps := by
  obtain ⟨module, exports, directories⟩ := found
  cases exports with
  | mapping entries => exact registerExports_eq lib module entries directories
  | other => rfl

theorem visit_eq (lib : Library δ) (module : String) :
    (do let found ← ofExcept (lib.importModule module); registerModule found) =
      takeSteps lib (lib.stepsAt module) := by
  rw [Library.stepsAt, takeSteps_cons, takeStep]
  cases imported : lib.importModule module with
  | error e => rfl
  | ok found =>
    change registerModule found = _
    rw [registerModule_eq lib]
    simp [LoadStep.registers, ofExcept, Except.map]

theorem registerModules_eq (lib : Library δ) (modules : List String) :
    registerModules lib modules = takeSteps lib (lib.loading modules) := by
  induction modules with
  | nil => rfl
  | cons module rest ih =>
    rw [Library.loading_cons, takeSteps_append, ← visit_eq, ← ih, registerModules]
    simp

theorem loadCommands_eq {package first : String} {others modules : List String}
    {found : Imported δ} (imported : lib.importModule package = .ok found)
    (folder : found.directories.getD [] = first :: others)
    (visits : lib.Visits package (first :: others) modules) :
    loadCommands lib package = (do
      let count ← takeSteps lib (lib.loading modules)
      note (loaded package count)
      pure count) := by
  rw [visits.eq_targets, Library.loading_cons, takeSteps_append, ← visit_eq, ← registerModules_eq]
  simp [loadCommands, imported, folder, ofExcept]

theorem noting_commands (records : List Log.Record) (s : Session δ) (r : Registry (Command δ)) :
    (noting records s).commands = s.commands ∧
      { noting records s with commands := r } = noting records { s with commands := r } := by
  induction records generalizing s with
  | nil => exact ⟨rfl, rfl⟩
  | cons record records ih => exact ih (after (note record) s)

def stepped (steps : List (LoadStep δ)) (r : Registry (Command δ)) (s : Session δ) : Session δ :=
  noting (steps.filterMap LoadStep.warning?) { s with commands := r }

theorem commands_stepped (steps : List (LoadStep δ)) (r : Registry (Command δ)) (s : Session δ) :
    (stepped steps r s).commands = r := (noting_commands _ _ r).1

theorem stepped_append (first rest : List (LoadStep δ)) (u r : Registry (Command δ))
    (s : Session δ) : stepped rest r (stepped first u s) = stepped (first ++ rest) r s := by
  rw [stepped, stepped, (noting_commands _ _ r).2, stepped, noting, noting, ← List.foldl_append,
    ← List.filterMap_append]
  rfl

theorem takeStep_apply (step : LoadStep δ) (s : Session δ) :
    takeStep lib step s = match step.apply lib s.commands with
      | .ok r => .ok () (stepped [step] r s)
      | .error e => .error e s := by
  cases step with
  | visit module =>
    rw [takeStep, LoadStep.apply]
    cases lib.importModule module <;> rfl
  | skip module name => rfl
  | register name command =>
    rw [takeStep, LoadStep.apply, register, get_bind_apply]
    cases s.commands.register name (.command command) <;> rfl

theorem takeSteps_of_ok {steps : List (LoadStep δ)}
    (done : steps.foldlM (LoadStep.apply lib) s.commands = .ok r) :
    takeSteps lib steps s = .ok (steps.countP LoadStep.registers) (stepped steps r s) := by
  induction steps generalizing s with
  | nil =>
    cases done
    rfl
  | cons step rest ih =>
    rw [List.foldlM_cons] at done
    cases first : step.apply lib s.commands with
    | error e =>
      rw [first] at done
      cases done
    | ok u =>
      rw [first] at done
      have others : rest.foldlM (LoadStep.apply lib) (stepped [step] u s).commands = .ok r := by
        rw [commands_stepped]
        exact done
      rw [takeSteps_cons, bind_apply, takeStep_apply, first]
      dsimp only
      rw [bind_apply, ih others, stepped_append, List.countP_cons]
      rfl

theorem takeSteps_of_error {done rest : List (LoadStep δ)} {step : LoadStep δ}
    (before : done.foldlM (LoadStep.apply lib) s.commands = .ok r)
    (failed : step.apply lib r = .error e) :
    takeSteps lib (done ++ step :: rest) s = .error e (stepped done r s) := by
  have last : step.apply lib (stepped done r s).commands = .error e := by
    rw [commands_stepped]
    exact failed
  rw [takeSteps_append, bind_apply, takeSteps_of_ok before]
  dsimp only
  rw [takeSteps_cons, bind_apply, bind_apply, takeStep_apply, last]

theorem exists_stop (lib : Library δ) (steps : List (LoadStep δ)) (r : Registry (Command δ)) :
    (∃ t, steps.foldlM (LoadStep.apply lib) r = .ok t) ∨
      ∃ done step rest t e, steps = done ++ step :: rest ∧
        done.foldlM (LoadStep.apply lib) r = .ok t ∧ step.apply lib t = .error e := by
  induction steps generalizing r with
  | nil => exact .inl ⟨r, rfl⟩
  | cons step rest ih =>
    cases first : step.apply lib r with
    | error e => exact .inr ⟨[], step, rest, r, e, rfl, rfl, first⟩
    | ok u =>
      rcases ih u with ⟨t, ht⟩ | ⟨done, last, after, t, e, rfl, before, failed⟩
      · refine .inl ⟨t, ?_⟩
        rw [List.foldlM_cons, first]
        exact ht
      · refine .inr ⟨step :: done, last, after, t, e, rfl, ?_, failed⟩
        rw [List.foldlM_cons, first]
        exact before

section Stopped

variable {package first : String} {others modules : List String} {found : Imported δ}
  {done rest : List (LoadStep δ)} {step : LoadStep δ}

theorem loadCommands_of_error (imported : lib.importModule package = .ok found)
    (folder : found.directories.getD [] = first :: others)
    (visits : lib.Visits package (first :: others) modules)
    (split : lib.loading modules = done ++ step :: rest)
    (before : done.foldlM (LoadStep.apply lib) s.commands = .ok r)
    (failed : step.apply lib r = .error e) :
    loadCommands lib package s = .error e (stepped done r s) := by
  rw [loadCommands_eq imported folder visits, bind_apply, split, takeSteps_of_error before failed]

/-- Modules that are not visited before a step raises have no part in what loading comes to. -/
theorem loadCommands_congr {other : Library δ} (imported : lib.importModule package = .ok found)
    (folder : found.directories.getD [] = first :: others)
    (visits : lib.Visits package (first :: others) modules)
    (split : lib.loading modules = done ++ step :: rest)
    (before : done.foldlM (LoadStep.apply lib) s.commands = .ok r)
    (failed : step.apply lib r = .error e)
    (visits' : other.Visits package (first :: others) modules)
    (agree : ∀ module, .visit module ∈ done ++ [step] →
      other.importModule module = lib.importModule module) :
    loadCommands other package s = loadCommands lib package s := by
  have start : done ++ [step] <+: lib.loading modules :=
    ⟨rest, by rw [split, List.append_assoc]; rfl⟩
  -- the package itself is visited first, whatever step raises
  have visited : .visit package ∈ done ++ [step] := by
    have head : (done ++ [step]).head? = some (.visit package) := by
      rw [visits.eq_targets] at split
      have whole : some (.visit package) = (done ++ step :: rest).head? := congrArg List.head? split
      cases done <;> exact whole.symm
    exact List.mem_of_mem_head? head
  obtain ⟨rest', split'⟩ : done ++ [step] <+: other.loading modules :=
    Library.prefix_loading start agree
  rw [List.append_assoc] at split'
  have imported' : other.importModule package = .ok found := (agree package visited).trans imported
  have before' : done.foldlM (LoadStep.apply other) s.commands = .ok r := by
    rw [← before]
    exact LoadStep.foldlM_apply_congr _ fun m hm => agree m (List.mem_append_left _ hm)
  have failed' : step.apply other r = .error e := by
    rw [← failed]
    exact LoadStep.apply_congr r fun m hm => agree m (by simp [hm])
  rw [loadCommands_of_error imported folder visits split before failed,
    loadCommands_of_error imported' folder visits' split'.symm before' failed']

end Stopped

/-- Loading a package registers what its modules export, one after the other. If the package can be
imported, its steps are laid out by the modules that are visited and what they export. Either every
step is taken: then the commands are those that the registrations lead to, and these are counted. Or
a step raises: then this is raised, the commands are those that the steps before lead to, and the
modules that would have been visited later might as well have been others. Only the log changes
besides. -/
theorem loadCommands_steps (lib : Library δ) (package : String) (s : Session δ) :
    match lib.importModule package with
    | .error e => loadCommands lib package s = .error e s
    | .ok found =>
      match found.directories.getD [] with
      | [] => loadCommands lib package s = .error (.fault (.runtime
          ("'" ++ package ++ "' must be a package (folder) with modules."))) s
      | first :: others =>
        ∃ modules, lib.Visits package (first :: others) modules ∧
          let steps := lib.loading modules
          let count := steps.countP LoadStep.registers
          ((∃ r, steps.foldlM (LoadStep.apply lib) s.commands = .ok r ∧
            loadCommands lib package s =
              .ok count (noting [loaded package count] (stepped steps r s))) ∨
          ∃ done step rest r e, steps = done ++ step :: rest ∧
            done.foldlM (LoadStep.apply lib) s.commands = .ok r ∧
            step.apply lib r = .error e ∧
            loadCommands lib package s = .error e (stepped done r s) ∧
            ∀ other : Library δ, other.Visits package (first :: others) modules →
              (∀ module, .visit module ∈ done ++ [step] →
                other.importModule module = lib.importModule module) →
              loadCommands other package s = loadCommands lib package s) := by
  cases imported : lib.importModule package with
  | error e =>
    dsimp only
    rw [loadCommands, bind_apply, imported]
    rfl
  | ok found =>
    dsimp only
    cases folder : found.directories.getD [] with
    | nil =>
      dsimp only
      simp only [loadCommands, imported, ofExcept, pure_bind, folder]
      rfl
    | cons first others =>
      dsimp only
      have visits := lib.visits_targets package (first :: others)
      refine ⟨_, visits, ?_⟩
      rcases exists_stop lib (lib.loading _) s.commands with
        ⟨r, taken⟩ | ⟨done, step, rest, r, e, split, before, failed⟩
      · refine .inl ⟨r, taken, ?_⟩
        rw [loadCommands_eq imported folder visits, bind_apply, takeSteps_of_ok taken]
        rfl
      · refine .inr ⟨done, step, rest, r, e, split, before, failed, ?_, ?_⟩
        · exact loadCommands_of_error imported folder visits split before failed
        · intro other visits' agree
          exact loadCommands_congr imported folder visits split before failed visits' agree

/-- A command that does nothing, known by its description. -/
def describedAs (text : String) : Command Unit :=
  .bundled ⟨text, [], List.nodup_nil⟩ fun _ => .finish .nothing

/-- A package with two directories. In the first there are a private module and a package that hides
a module of its name. -/
def tree (last : Source Unit) : Library Unit where
  roots := [""]
  sources :=
    [("plugins/set.py", .failing (.interrupt (.keyboard "hidden"))),
      ("plugins/set/__init__.py", .exporting .other none),
      ("plugins/set/entrypoint.py", .exporting (.mapping
        [("set", .command (describedAs "entry point")), ("limit", .foreign "int")]) none),
      ("plugins/get.py", .exporting (.mapping [("get", .command (describedAs "module"))]) none),
      ("plugins/_hidden.py", .failing (.interrupt (.keyboard "private"))),
      ("plugins/__init__.py", .exporting (.mapping [("who", .command (describedAs "package"))])
        (some ["plugins", "more"])),
      ("more/last.py", last)]

/-- How loading ends, the commands with their descriptions, and the log. -/
def shownAfter (x : SessionM Unit Nat) : Except Raised Nat × List (String × String) × List String :=
  let shown (t : Session Unit) : List (String × String) × List String :=
    (t.commands.entries.map fun (name, c) => (name, c.signature.description),
      t.journal.records.map Log.Record.text)
  match x ready with
  | .ok n t => (.ok n, shown t)
  | .error e t => (.error e, shown t)

/-- The last module takes a name over, or its import fails. -/
theorem loadCommands_steps_tree :
    let last := .exporting (.mapping [("who", .command (describedAs "last"))]) none
    let failing := .failing (.interrupt (.keyboard ""))
    (tree last).Visits "plugins" ["plugins", "more"]
        ["plugins", "plugins.get", "plugins.set.entrypoint", "plugins.last"] ∧
      shownAfter (loadCommands (tree last) "plugins") = (.ok 4,
        [("help", "Get help for a command"), ("who", "last"), ("get", "module"),
          ("set", "entry point")],
        ["plugins.set.entrypoint: skipping 'limit' (not a CommandDescriptor)",
          "Loaded 4 commands from 'plugins'"]) ∧
      shownAfter (loadCommands (tree failing) "plugins") = (.error (.interrupt (.keyboard "")),
        [("help", "Get help for a command"), ("who", "package"), ("get", "module"),
          ("set", "entry point")],
        ["plugins.set.entrypoint: skipping 'limit' (not a CommandDescriptor)"]) := by
  intro last failing
  have imported : ((tree last).importModule "plugins").map (·.directories) =
      .ok (some ["plugins", "more"]) := by decide +kernel
  have targets : ["plugins", "more"].flatMap ((tree last).targets "plugins") =
      ["plugins.get", "plugins.set.entrypoint", "plugins.last"] := by decide +kernel
  refine ⟨?_, by decide +kernel, by decide +kernel⟩
  have h := loadCommands_steps (tree last) "plugins" ready
  cases found : (tree last).importModule "plugins" with
  | error e =>
    rw [found] at imported
    cases imported
  | ok package =>
    rw [found] at h imported
    have folder : package.directories = some ["plugins", "more"] := Except.ok.inj imported
    dsimp only at h
    rw [folder] at h
    obtain ⟨modules, visits, -⟩ := h
    have listed := visits.eq_targets
    rw [targets] at listed
    exact listed ▸ visits

end Session
end CommandShell
