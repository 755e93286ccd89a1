import CommandShell.Proofs.Registry
import CommandShell.Proofs.Session.Effects

/-! What every run of a line respects. A relation between the states before and after an effect is
stable if it composes and holds across each single effect a statement can have; it then holds across
every line, at every depth of nesting and however the line ends. -/

namespace CommandShell.Session

variable {δ α : Type}

/-- The state an operation leaves, whether it returns or raises. -/
def after (x : SessionM δ α) (s : Session δ) : Session δ :=
  match x s with
  | .ok _ t | .error _ t => t

theorem after_of_ok {x : SessionM δ α} {s t : Session δ} {a : α} (h : x s = .ok a t) :
    after x s = t := by rw [after, h]

theorem after_of_error {x : SessionM δ α} {s t : Session δ} {e : Raised} (h : x s = .error e t) :
    after x s = t := by rw [after, h]

theorem after_congr {x y : SessionM δ α} {s t : Session δ} (h : x s = y t) :
    after x s = after y t := by rw [after, h, after]

theorem after_bind_pure {α β : Type} (x : SessionM δ α) (f : α → β) (s : Session δ) :
    after (do let a ← x; pure (f a)) s = after x s := by
  rw [after, bind_apply, after]
  cases x s <;> rfl

/-- An operation leads from every state to a related one. -/
def Respects (R : Session δ → Session δ → Prop) (x : SessionM δ α) : Prop := ∀ s, R s (after x s)

/-- A relation that composes and holds across each effect a statement can have. -/
structure Stable (R : Session δ → Session δ → Prop) : Prop where
  refl (s : Session δ) : R s s
  trans {s t u : Session δ} (first : R s t) (second : R t u) : R s u
  prepare : Respects R getSplitters
  note (r : Log.Record) : Respects R (note r)
  print (line : String) : Respects R (print line)
  store (s : Session δ) (data : δ) : R s { s with data := data }
  fold (folding : Bool) : Respects R (setFolding folding)
  append (line : String) : Respects R (appendLine line)
  register {s : Session δ} {name : String} {offered : Export (Command δ)}
    {commands : Registry (Command δ)} (accepted : s.commands.register name offered = .ok commands) :
    R s { s with commands := commands }
  record (s : Session δ) (i : Invocation) : R s { s with invocations := s.invocations ++ [i] }

namespace Stable

variable {R : Session δ → Session δ → Prop} (stable : Stable R)
include stable

theorem bind {α β : Type} {x : SessionM δ α} {f : α → SessionM δ β} (hx : Respects R x)
    (hf : ∀ a, Respects R (f a)) : Respects R (x >>= f) := by
  intro s
  have first := hx s
  rw [after, bind_apply]
  cases h : x s with
  | ok a t =>
    rw [after_of_ok h] at first
    exact stable.trans first (hf a t)
  | error e t => rwa [after_of_error h] at first

theorem tryCatch {x : SessionM δ α} {handle : Raised → SessionM δ α} (hx : Respects R x)
    (hh : ∀ e, Respects R (handle e)) : Respects R (tryCatch x handle) := by
  intro s
  have first := hx s
  rw [after, tryCatch_apply]
  cases h : x s with
  | ok a t => rwa [after_of_ok h] at first
  | error e t =>
    rw [after_of_error h] at first
    exact stable.trans first (hh e t)

theorem enroll (name : String) (offered : Export (Command δ)) :
    Respects R (enroll name offered) := by
  intro s
  rw [after, enroll_apply]
  cases accepted : s.commands.register name offered with
  | error e => exact stable.refl s
  | ok commands => exact stable.register accepted

end Stable

theorem splitters_eq_some_iff {s : Session δ} {sp : Splitters} :
    s.splitters = some sp ↔
      s.lineSplitter = some sp.line ∧ s.argumentSplitter = some sp.argument := by
  unfold splitters
  split
  · next line argument hline hargument =>
    rw [hline, hargument, Option.some_inj, Option.some_inj, Option.some_inj]
    cases sp
    simp
  · next missing =>
    constructor
    · intro h
      cases h
    · rintro ⟨hline, hargument⟩
      exact absurd hargument (missing _ _ hline)

theorem splitters_withSplitters (sp : Splitters) (s : Session δ) :
    (s.withSplitters sp).splitters = some sp := rfl

theorem withSplitters_eq_self {s : Session δ} {sp : Splitters} (h : s.splitters = some sp) :
    s.withSplitters sp = s := by
  obtain ⟨hline, hargument⟩ := splitters_eq_some_iff.mp h
  rw [withSplitters, ← hline, ← hargument]

def equipped (built : Option Splitters) (s : Session δ) : Session δ :=
  { s with
    lineSplitter := built.map Splitters.line
    argumentSplitter := built.map Splitters.argument }

def Unequipped (s : Session δ) : Prop := s.lineSplitter = none ∧ s.argumentSplitter = none

theorem Unequipped.equipped_eq {s : Session δ} (h : s.Unequipped) : s.equipped none = s := by
  cases s
  obtain ⟨rfl, rfl⟩ := h
  rfl

theorem Unequipped.splitters_eq {s : Session δ} (h : s.Unequipped) : s.splitters = none := by
  rw [splitters, h.1]

theorem getSplitters_apply (s : Session δ) :
    getSplitters s = match s.splitters with
      | some sp => .ok sp s
      | none => match buildSplitters s.quotes with
        | .error e => .error (.shell e) s
        | .ok sp => .ok sp (s.withSplitters sp) := by
  rw [getSplitters, get_bind_apply]
  cases s.splitters with
  | some sp => rfl
  | none => cases buildSplitters s.quotes <;> rfl

theorem getLineSplitter_apply (s : Session δ) :
    getLineSplitter s = match s.lineSplitter with
      | some sp => .ok sp s
      | none => (do return (← getSplitters).line) s := by
  rw [getLineSplitter, get_bind_apply]
  cases s.lineSplitter <;> rfl

theorem getArgumentSplitter_apply (s : Session δ) :
    getArgumentSplitter s = match s.argumentSplitter with
      | some sp => .ok sp s
      | none => (do return (← getSplitters).argument) s := by
  rw [getArgumentSplitter, get_bind_apply]
  cases s.argumentSplitter <;> rfl

section
variable {s t : Session δ} {sp : Splitters} (h : s.splitters = some sp)
include h

theorem getSplitters_of_some : getSplitters s = .ok sp s := by
  rw [getSplitters_apply, h]

theorem getLineSplitter_of_some : getLineSplitter s = .ok sp.line s := by
  rw [getLineSplitter_apply, (splitters_eq_some_iff.mp h).1]

theorem getArgumentSplitter_of_some : getArgumentSplitter s = .ok sp.argument s := by
  rw [getArgumentSplitter_apply, (splitters_eq_some_iff.mp h).2]

end

theorem getLineSplitter_equipped_none (s : Session δ) :
    getLineSplitter (s.equipped none) = match buildSplitters s.quotes with
      | .error e => .error (.shell e) (s.equipped none)
      | .ok sp => .ok sp.line (s.withSplitters sp) := by
  have asked : getLineSplitter (s.equipped none) =
      (do return (← getSplitters).line) (s.equipped none) := getLineSplitter_apply _
  have built : getSplitters (s.equipped none) = match buildSplitters s.quotes with
      | .error e => .error (.shell e) (s.equipped none)
      | .ok sp => .ok sp (s.withSplitters sp) := getSplitters_apply _
  rw [asked, bind_apply, built]
  cases buildSplitters s.quotes <;> rfl

theorem after_getLineSplitter (s : Session δ) :
    after getLineSplitter s = s ∨ after getLineSplitter s = after getSplitters s := by
  rw [after, getLineSplitter_apply]
  cases s.lineSplitter with
  | some sp => exact .inl rfl
  | none => exact .inr (after_bind_pure getSplitters Splitters.line s)

theorem after_getArgumentSplitter (s : Session δ) :
    after getArgumentSplitter s = s ∨ after getArgumentSplitter s = after getSplitters s := by
  rw [after, getArgumentSplitter_apply]
  cases s.argumentSplitter with
  | some sp => exact .inl rfl
  | none => exact .inr (after_bind_pure getSplitters Splitters.argument s)

theorem exists_after_getSplitters (s : Session δ) : ∃ line argument,
    after getSplitters s = { s with lineSplitter := line, argumentSplitter := argument } := by
  rw [after, getSplitters_apply]
  cases s.splitters with
  | some sp => exact ⟨s.lineSplitter, s.argumentSplitter, rfl⟩
  | none =>
    cases buildSplitters s.quotes with
    | error e => exact ⟨s.lineSplitter, s.argumentSplitter, rfl⟩
    | ok sp => exact ⟨some sp.line, some sp.argument, rfl⟩

namespace Stable

variable {R : Session δ → Session δ → Prop} (stable : Stable R)
include stable

theorem compositional : Compositional (δ := δ) fun _ x => Respects R x where
  pure _ := stable.refl
  throw _ := stable.refl
  bind := stable.bind
  tryCatch := stable.tryCatch
  view next s := next s.view s
  commands next s := next s.commands s
  prepare := stable.prepare
  lineSplitter s := by
    rcases after_getLineSplitter s with same | both
    · rw [same]
      exact stable.refl s
    · rw [both]
      exact stable.prepare s
  argumentSplitter s := by
    rcases after_getArgumentSplitter s with same | both
    · rw [same]
      exact stable.refl s
    · rw [both]
      exact stable.prepare s
  note := stable.note
  print := stable.print
  store data s := stable.store s data
  fold := stable.fold
  append := stable.append
  enroll := stable.enroll
  record i s := stable.record s i

theorem executeAt (depth : Nat) (line : String) : Respects R (executeAt depth line) :=
  stable.compositional.executeAt depth line

end Stable

theorem stable_splitters (splitters : Splitters) :
    Stable fun s t : Session δ => s.splitters = some splitters → t.splitters = some splitters where
  refl _ := id
  trans first second := second ∘ first
  prepare s h := by rwa [after_of_ok (getSplitters_of_some h)]
  note _ _ := id
  print _ _ := id
  store _ _ := id
  fold _ _ := id
  append _ _ := id
  register _ := id
  record _ _ := id

theorem withHelp_built {s : Session δ} (h : s.commands.Built) : s.withHelp.commands.Built := by
  have accepted : s.commands.register "help" (.command Help.command) =
      .ok s.withHelp.commands := rfl
  exact .register h accepted

end CommandShell.Session
