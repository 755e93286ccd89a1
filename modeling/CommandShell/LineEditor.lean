import CommandShell.Failure

/-! Reading lines with recall of earlier ones. How a line is edited is left to the readers of a
terminal: one is made from the earlier lines and then asked for new ones. -/

namespace CommandShell

inductive EditorKind
  | plain
  | recalling
  deriving DecidableEq, Repr

def EditorKind.ofTerminal (isTerminal : Bool) : EditorKind :=
  if isTerminal then recalling else plain

structure LineReaders (m : Type → Type) (ρ : Type) where
  make : List String → ρ
  ask : ρ → m (Except Raised String × ρ)

structure LineEditor (ρ : Type) where
  reader : Option ρ

namespace LineEditor

variable {m : Type → Type} {ρ : Type}

def initial : LineEditor ρ := ⟨none⟩

def setUp (readers : LineReaders m ρ) (history : List String) : LineEditor ρ :=
  ⟨some (readers.make history)⟩

def tearDown : LineEditor ρ := ⟨none⟩

def read [Monad m] (readers : LineReaders m ρ) (e : LineEditor ρ) :
    m (Except Raised String × LineEditor ρ) :=
  match e.reader with
  | none => pure (.error (.fault (.runtime "line editor used before setup()")), e)
  | some reader => do
    let (line, reader) ← readers.ask reader
    pure (line, ⟨some reader⟩)

end LineEditor
end CommandShell
