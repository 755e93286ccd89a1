import CommandShell.Proofs.Files.Written

/-! What an operation on files does not depend on. Two file systems that differ only in what their
files hold refuse the same operations for the same reasons, and differ no more afterwards. -/

namespace CommandShell

def Node.shape : Node → Node
  | directory => directory
  | file _ => file []

namespace Files

variable {fs fs' : Files}

def Place.shape : Place → Place
  | found names node => found names node.shape
  | place => place

/-- What a result leaves: a new file system, or the old one with a refusal. -/
def settle (fs : Files) : Except Fault Files → Files × Option Fault
  | .ok made => (made, none)
  | .error e => (fs, some e)

/-- The same directories, and files of the same names, whatever they hold. -/
def SameShape (fs fs' : Files) : Prop :=
  ∀ names, (fs'.nodeAt names).map Node.shape = (fs.nodeAt names).map Node.shape

namespace SameShape

theorem refl (fs : Files) : SameShape fs fs := fun _ => rfl

theorem trans {fs'' : Files} (first : SameShape fs fs') (second : SameShape fs' fs'') :
    SameShape fs fs'' := fun names => (second names).trans (first names)

theorem put (same : SameShape fs fs') (names : List String) {node node' : Node}
    (h : node'.shape = node.shape) : SameShape (fs.put names node) (fs'.put names node') := by
  intro query
  rw [nodeAt_put, nodeAt_put]
  split
  · simp [h]
  · exact same query

theorem put_file {names : List String} {old : List UInt8}
    (h : fs.nodeAt names = some (.file old)) (new : List UInt8) :
    SameShape fs (fs.put names (.file new)) := by
  intro query
  rw [nodeAt_put]
  split
  · next hq =>
    have hfree : fs.nodeAt names ≠ some .directory := by simp [h]
    rw [nodeAt_eq_of_ofNames_eq (ne_nil_of_nodeAt hfree) hq.1 hq.2, h]
    rfl
  · rfl

theorem walk (same : SameShape fs fs') (done rest : List String) :
    (fs'.walk done rest).shape = (fs.walk done rest).shape := by
  induction rest generalizing done with
  | nil =>
    have hnode := same done.reverse
    rw [Files.walk, Files.walk]
    cases h : fs.nodeAt done.reverse <;> cases h' : fs'.nodeAt done.reverse <;>
      simp_all [Place.shape]
  | cons name rest ih =>
    have hnode := same done.reverse
    rw [Files.walk, Files.walk]
    cases h : fs.nodeAt done.reverse with
    | none =>
      have h' : fs'.nodeAt done.reverse = none := by simpa [h] using hnode
      rw [h']
    | some node =>
      obtain ⟨node', h', hshape⟩ : ∃ node', fs'.nodeAt done.reverse = some node' ∧
          node'.shape = node.shape := by simpa [h] using hnode
      rw [h']
      cases node <;> cases node' <;> simp only [Node.shape, reduceCtorEq] at hshape
      · dsimp only
        split
        · exact ih _
        · split
          · rfl
          · exact ih _
      · rfl

theorem of_write {path : String} {old new : List UInt8} (h : fs.read path = .ok old)
    (hwrite : fs.write path new = .ok fs') : SameShape fs fs' := by
  obtain ⟨-, names, htarget⟩ := read_eq_ok.mp h
  obtain ⟨-, names', node, htarget', -, rfl⟩ := write_eq_ok.mp hwrite
  obtain ⟨rfl, rfl⟩ : names' = names ∧ node = some (.file old) := by
    simpa [htarget, eq_comm] using htarget'
  exact put_file (target_walk htarget).2 new

/-- Two results of one operation: the same refusal, or file systems of the same shape. -/
def Agree : Except Fault Files → Except Fault Files → Prop
  | .ok fs, .ok fs' => SameShape fs fs'
  | .error e, .error e' => e' = e
  | _, _ => False

/-- The same of results that leave a file system when they are refusals, too. -/
def AgreeBoth (result result' : Files × Option Fault) : Prop :=
  SameShape result.1 result'.1 ∧ result'.2 = result.2

theorem agreeBoth_settle (same : SameShape fs fs') {result result' : Except Fault Files}
    (h : Agree result result') : AgreeBoth (settle fs result) (settle fs' result') := by
  cases result <;> cases result' <;> simp_all [Agree, AgreeBoth, settle]

/-- The places that two paths of one shape lead to, case by case. -/
theorem find_cases (same : SameShape fs fs') (path : String) :
    (∃ names, fs.find path = .found names .directory ∧ fs'.find path = .found names .directory) ∨
    (∃ names old old', fs.find path = .found names (.file old) ∧
      fs'.find path = .found names (.file old')) ∨
    (fs'.find path = fs.find path ∧ ∀ names node, fs.find path ≠ .found names node) := by
  have hfind : (fs'.find path).shape = (fs.find path).shape := same.walk _ _
  cases h : fs.find path with
  | found names node =>
    cases h' : fs'.find path with
    | found names' node' =>
      rw [h, h'] at hfind
      cases node <;> cases node' <;> simp_all [Place.shape, Node.shape]
    | _ => simp [h, h', Place.shape] at hfind
  | _ => cases h' : fs'.find path <;> simp_all [Place.shape]

theorem write (same : SameShape fs fs') (path : String) (bytes bytes' : List UInt8) :
    Agree (fs.write path bytes) (fs'.write path bytes') := by
  unfold Files.write
  cases checkPath path with
  | error e => rfl
  | ok u =>
    obtain ⟨names, h, h'⟩ | ⟨names, old, old', h, h'⟩ | ⟨h', h⟩ := same.find_cases path
    · simp only [h, h', bind, Except.bind]
      rfl
    · simp only [h, h', bind, Except.bind]
      exact same.put names rfl
    · rw [h']
      cases hplace : fs.find path with
      | found names node => exact absurd hplace (h names node)
      | free names => exact same.put names rfl
      | _ => rfl

theorem makeDirectory (same : SameShape fs fs') (path : String) :
    Agree (fs.makeDirectory path) (fs'.makeDirectory path) := by
  unfold Files.makeDirectory
  cases checkPath path with
  | error e => rfl
  | ok u =>
    obtain ⟨names, h, h'⟩ | ⟨names, old, old', h, h'⟩ | ⟨h', h⟩ := same.find_cases path
    · simp only [h, h', bind, Except.bind]
      exact same
    · simp only [h, h', bind, Except.bind]
      rfl
    · rw [h']
      cases hplace : fs.find path with
      | found names node => exact absurd hplace (h names node)
      | free names => exact same.put names rfl
      | _ => rfl

theorem makeDirectories (same : SameShape fs fs') (path : String) (fuel : Nat) :
    AgreeBoth (fs.makeDirectories path fuel) (fs'.makeDirectories path fuel) := by
  induction fuel generalizing path fs fs' with
  | zero => exact agreeBoth_settle same (same.makeDirectory path)
  | succ fuel ih =>
    have one := same.makeDirectory path
    rw [Files.makeDirectories, Files.makeDirectories]
    cases h : fs.makeDirectory path <;> cases h' : fs'.makeDirectory path <;>
      rw [h, h'] at one
    · next e e' =>
      obtain rfl : e' = e := one
      cases e' with
      | file f =>
        cases f with
        | missing p =>
          obtain ⟨hparents, hresult⟩ := ih same (Location.parent path)
          dsimp only
          cases hp : fs.makeDirectories (Location.parent path) fuel with
          | mk parents result =>
            cases hp' : fs'.makeDirectories (Location.parent path) fuel with
            | mk parents' result' =>
              rw [hp, hp'] at hparents hresult
              obtain rfl : result' = result := hresult
              cases result' with
              | some e => exact ⟨hparents, rfl⟩
              | none => exact agreeBoth_settle hparents (SameShape.makeDirectory hparents path)
        | _ => exact ⟨same, rfl⟩
      | _ => exact ⟨same, rfl⟩
    · exact one.elim
    · exact one.elim
    · exact ⟨one, rfl⟩

theorem writeBelow (same : SameShape fs fs') (path : String) (bytes bytes' : List UInt8) :
    AgreeBoth (fs.writeBelow path bytes) (fs'.writeBelow path bytes') := by
  obtain ⟨hmade, hresult⟩ :=
    same.makeDirectories (Location.parent path) (Location.parts path).length
  unfold Files.writeBelow
  cases h : fs.makeDirectories (Location.parent path) (Location.parts path).length with
  | mk made result =>
    cases h' : fs'.makeDirectories (Location.parent path) (Location.parts path).length with
    | mk made' result' =>
      rw [h, h'] at hmade hresult
      obtain rfl : result' = result := hresult
      cases result' with
      | some e => exact ⟨hmade, rfl⟩
      | none => exact agreeBoth_settle hmade (SameShape.write hmade path bytes bytes')

theorem writable (same : SameShape fs fs') {path : String} (h : fs.Writable path) :
    fs'.Writable path := fun bytes =>
  (same.writeBelow path bytes bytes).2.trans (h bytes)

end SameShape

end Files
end CommandShell
