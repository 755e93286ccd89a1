import CommandShell.KeyValue
import CommandShell.Proofs.Entries
import CommandShell.Proofs.Table
import CommandShell.Proofs.Text.Colour

/-! The store as a map. Requests to it are answered from what is bound at the time, and whatever
requests came before, what is bound is what the last one that changed the key left. -/

namespace CommandShell.KeyValue

inductive Request
  | set (key value : String)
  | get (key : String)
  | unset (key : String)
  | list (start : String)

namespace Request

def name : Request → String
  | set .. => "set"
  | get _ => "get"
  | unset _ => "unset"
  | list _ => "list"

def values : Request → List String
  | set key value => [key, value]
  | get key | unset key => [key]
  | list start => [start]

/-- A request that settles what a key is bound to. Nothing is ever set under the empty key. -/
@[simp]
def Settles (key : String) : Request → Prop
  | set k _ => k = key ∧ key ≠ ""
  | unset k => k = key
  | _ => False

end Request

inductive Reply
  | done (text : String)
  | refused (message : String)

namespace Reply

/-- What a reply adds to an output: nothing if there is nothing to say. -/
def line (isTerminal : Bool) : Reply → String
  | done text =>
    if text = "" then "" else (if isTerminal then text else Text.stripEscapes text) ++ "\n"
  | refused message => Text.styledLine "\x1b[31m" isTerminal ("Error: " ++ message)

def shownOn (o : Output) (reply : Reply) : Output :=
  { o with written := o.written ++ reply.line o.isTerminal }

theorem shownOn_done (o : Output) (text : String) :
    (done text).shownOn o = if text != "" then o.printLine text else o := by
  by_cases h : text = ""
  · simp [shownOn, line, h]
  · simp [shownOn, line, h, Output.printLine, Output.visible, String.append_assoc]

theorem shownOn_refused (o : Output) (message : String) :
    (refused message).shownOn o = o.printLine (Text.paint [.red] ("Error: " ++ message)) :=
  (Text.printLine_paint o .red ("Error: " ++ message)).symm

theorem shownOn_foldl (o : Output) (replies : List Reply) :
    replies.foldl shownOn o =
      { o with written := o.written ++ String.join (replies.map (line o.isTerminal)) } := by
  induction replies generalizing o with
  | nil => simp
  | cons reply replies ih =>
    rw [List.foldl_cons, ih]
    simp [shownOn, String.append_assoc]

def of : Outcome → Reply
  | .result r => if r.ok then done r.message else refused r.text
  | .text s => done s
  | _ => done ""

end Reply

structure Lists (m : String → Option String) (start : String) (rows : List (String × String)) :
    Prop where
  ordered : rows.Pairwise fun a b => a.1 < b.1
  complete : ∀ key value, (key, value) ∈ rows ↔ m key = some value ∧ start.toList <+: key.toList

def filled (width : Nat) (cell : String) : String :=
  cell ++ String.ofList (List.replicate (width - Text.visibleLength cell) ' ')

def dashes (n : Nat) : String := String.ofList (List.replicate n '-')

/-- A row for each key with its value, under a heading, in columns of two widths. -/
def drawing (keys values : Nat) (rows : List (String × String)) : List String :=
  let row := fun p => "| " ++ filled keys p.1 ++ " | " ++ filled values p.2 ++ " |"
  let rule := dashes (keys + values + 7)
  [rule, row ("Key", "Value"), "| " ++ dashes keys ++ " | " ++ dashes values ++ " |"] ++
    rows.map row ++ [rule]

/-- A text shows rows, in columns just wide enough for them, or says that there are none. -/
inductive Shows (rows : List (String × String)) : String → Prop
  | nothing (none : rows = []) : Shows rows "(empty)"
  | drawn (some : rows ≠ []) {keys values : Nat}
      (hkeys : IsGreatest {n | ∃ p ∈ ("Key", "Value") :: rows, n = Text.visibleLength p.1} keys)
      (hvalues : IsGreatest {n | ∃ p ∈ ("Key", "Value") :: rows, n = Text.visibleLength p.2} values) :
      Shows rows ("\n".intercalate (drawing keys values rows))

inductive Answers (m : String → Option String) :
    Request → Reply → (String → Option String) → Prop
  | set {key : String} (named : key ≠ "") (value : String) :
      Answers m (.set key value) (.done (key ++ " = " ++ value))
        (Function.update m key (some value))
  | unnamed (value : String) : Answers m (.set "" value) (.refused "set: missing key") m
  | get {key value : String} (bound : m key = some value) : Answers m (.get key) (.done value) m
  | notGot {key : String} (free : m key = none) :
      Answers m (.get key) (.refused ("get: no such key: " ++ key)) m
  | unset {key value : String} (bound : m key = some value) :
      Answers m (.unset key) (.done ("removed " ++ key)) (Function.update m key none)
  | notUnset {key : String} (free : m key = none) :
      Answers m (.unset key) (.refused ("unset: no such key: " ++ key)) m
  | list {start shown : String} {rows : List (String × String)} (lists : Lists m start rows)
      (shows : Shows rows shown) : Answers m (.list start) (.done shown) m

inductive Exchange : (String → Option String) → List Request → List Reply →
    (String → Option String) → Prop
  | nil (m : String → Option String) : Exchange m [] [] m
  | cons {m m₁ m₂ : String → Option String} {request : Request} {reply : Reply}
      {requests : List Request} {replies : List Reply} (first : Answers m request reply m₁)
      (others : Exchange m₁ requests replies m₂) :
      Exchange m (request :: requests) (reply :: replies) m₂

/-- The value that a key is left with: that of a `set` after which no request settles the key, or
the one it had if none does. -/
def LeftWith (m : String → Option String) (requests : List Request) (key value : String) : Prop :=
  (∃ before after, requests = before ++ .set key value :: after ∧ key ≠ "" ∧
    ∀ r ∈ after, ¬ r.Settles key) ∨
  m key = some value ∧ ∀ r ∈ requests, ¬ r.Settles key

theorem lengthsIn_cells (cells : List (String × String)) :
    (Table.lengthsIn (cells.map fun p => [p.1, p.2]) 0 =
        {n | ∃ p ∈ cells, n = Text.visibleLength p.1}) ∧
      Table.lengthsIn (cells.map fun p => [p.1, p.2]) 1 =
        {n | ∃ p ∈ cells, n = Text.visibleLength p.2} := by
  constructor <;> ext n <;> simp [Table.lengthsIn]

theorem renderRow_pair (keys values : Nat) (key value : String) :
    Table.renderRow 1 [keys, values] [key, value] =
      "| " ++ filled keys key ++ " | " ++ filled values value ++ " |" := by
  have cell (width : Nat) (text : String) :
      Table.renderCell 1 width text = " " ++ filled width text ++ " " := by
    simp [Table.renderCell, filled, Table.spaces, String.append_assoc]
  have left : "|" ++ " " = "| " := rfl
  have middle : " " ++ ("|" ++ " ") = " | " := rfl
  have right : " " ++ "|" = " |" := rfl
  simp only [Table.renderRow, List.zipWith_cons_cons, List.zipWith_nil_left, cell,
    String.intercalate_cons_cons, String.intercalate_singleton]
  simp only [← left, ← middle, ← right, String.append_assoc]

theorem rule_pair (keys values : Nat) :
    Table.rule 1 [keys, values] = dashes (keys + values + 7) := by
  have width : ((([keys, values].foldr (· + ·) 0 : Nat) : Int) +
      1 * 2 * [keys, values].length + ([keys, values].length + 1)).toNat = keys + values + 7 := by
    simp
    omega
  rw [Table.rule, width]
  rfl

theorem filled_dashes (n : Nat) : filled n (Table.dashes n) = dashes n := by
  rw [filled, Table.visibleLength_dashes, Nat.sub_self]
  exact String.append_empty

theorem shows_standard (rows : List (String × String)) :
    Shows rows (if (rows.map fun p => [p.1, p.2]).isEmpty then "(empty)"
      else Table.standard ["Key", "Value"] (rows.map fun p => [p.1, p.2])) := by
  cases rows with
  | nil => exact .nothing rfl
  | cons first rest =>
    let cells := ("Key", "Value") :: first :: rest
    let all := cells.map fun p => [p.1, p.2]
    have fits := Table.fits_columnWidths all
    have two : (Table.columnWidths all).length = 2 := by
      refine le_antisymm (fits.length_le fun row hrow => ?_) (fits.covers _ List.mem_cons_self)
      obtain ⟨p, -, rfl⟩ := List.mem_map.mp hrow
      rfl
    obtain ⟨keys, values, widths⟩ := List.length_eq_two.mp two
    obtain ⟨inKeys, inValues⟩ := lengthsIn_cells cells
    have hkeys := fits.greatest 0 keys (by rw [widths]; rfl)
    have hvalues := fits.greatest 1 values (by rw [widths]; rfl)
    rw [inKeys] at hkeys
    rw [inValues] at hvalues
    have drawn : Table.standard ["Key", "Value"] ((first :: rest).map fun p => [p.1, p.2]) =
        "\n".intercalate (drawing keys values (first :: rest)) := by
      rw [Table.standard, Table.format]
      change "\n".intercalate (Table.lines (1 : Nat) true _ _) = _
      rw [Table.lines_eq]
      dsimp only [Option.toList_some, List.singleton_append]
      rw [show Table.columnWidths (["Key", "Value"] :: _) = _ from widths]
      simp [drawing, renderRow_pair, rule_pair, filled_dashes, Function.comp_def]
    rw [if_neg (by simp), drawn]
    exact .drawn (List.cons_ne_nil _ _) hkeys hvalues

variable {m m₁ m₂ : String → Option String} {request : Request} {reply : Reply}
  {requests more : List Request} {replies others : List Reply}

/-- A request changes only the key that it settles, and binds it only by setting it. -/
theorem Answers.bound_iff (h : Answers m request reply m₁) (key value : String) :
    m₁ key = some value ↔
      request = .set key value ∧ key ≠ "" ∨ ¬ request.Settles key ∧ m key = some value := by
  cases h with
  | @set k named v =>
    by_cases hkey : key = k
    · subst hkey
      simp [named, eq_comm]
    · have hother : ¬ k = key := fun e => hkey e.symm
      simp [Function.update_of_ne hkey, hother]
  | unnamed v =>
    have unsettled : ¬ (Request.set "" v).Settles key := fun ⟨e, hne⟩ => hne e.symm
    have unset : ¬ (Request.set "" v = .set key value ∧ key ≠ "") := by
      rintro ⟨e, hne⟩
      cases e
      exact hne rfl
    simp only [unsettled, unset, not_false_eq_true, true_and, false_or]
  | get bound => simp
  | notGot free => simp
  | @unset k v bound =>
    by_cases hkey : key = k
    · subst hkey
      simp
    · have hother : ¬ k = key := fun e => hkey e.symm
      simp [Function.update_of_ne hkey, hother]
  | @notUnset k free =>
    by_cases hkey : k = key
    · subst hkey
      simp [free]
    · simp [hkey]
  | list lists shows => simp

theorem Exchange.append (first : Exchange m requests replies m₁)
    (second : Exchange m₁ more others m₂) :
    Exchange m (requests ++ more) (replies ++ others) m₂ := by
  induction first with
  | nil m => exact second
  | cons answers _ ih => exact .cons answers (ih second)

theorem leftWith_cons (h : Answers m request reply m₁) {key value : String} :
    LeftWith m (request :: requests) key value ↔ LeftWith m₁ requests key value := by
  constructor
  · rintro (⟨before, after, split, named, kept⟩ | ⟨bound, kept⟩)
    · cases before with
      | nil =>
        cases split
        exact .inr ⟨(h.bound_iff key value).mpr (.inl ⟨rfl, named⟩), kept⟩
      | cons _ before =>
        cases split
        exact .inl ⟨before, after, rfl, named, kept⟩
    · obtain ⟨hrequest, kept⟩ := List.forall_mem_cons.mp kept
      exact .inr ⟨(h.bound_iff key value).mpr (.inr ⟨hrequest, bound⟩), kept⟩
  · rintro (⟨before, after, rfl, named, kept⟩ | ⟨bound, kept⟩)
    · exact .inl ⟨request :: before, after, rfl, named, kept⟩
    · rcases (h.bound_iff key value).mp bound with ⟨rfl, named⟩ | ⟨hrequest, bound⟩
      · exact .inl ⟨[], requests, rfl, named, kept⟩
      · exact .inr ⟨bound, List.forall_mem_cons.mpr ⟨hrequest, kept⟩⟩

/-- After any requests, a key is bound to what the last one that settles it left. -/
theorem Exchange.bound_iff (h : Exchange m requests replies m₁) (key value : String) :
    m₁ key = some value ↔ LeftWith m requests key value := by
  induction h with
  | nil m => simp [LeftWith]
  | cons first others ih => rw [ih, leftWith_cons first]

theorem Exchange.split {before after : List Request}
    (h : Exchange m (before ++ request :: after) replies m₂) :
    ∃ earlier reply later n n₁, replies = earlier ++ reply :: later ∧
      Exchange m before earlier n ∧ Answers n request reply n₁ ∧ Exchange n₁ after later m₂ := by
  induction before generalizing m replies with
  | nil =>
    cases h with
    | cons first others => exact ⟨[], _, _, _, _, rfl, .nil m, first, others⟩
  | cons _ before ih =>
    cases h with
    | cons first others =>
      obtain ⟨earlier, reply, later, n, n₁, rfl, hbefore, answers, hafter⟩ := ih others
      exact ⟨_ :: earlier, reply, later, n, n₁, rfl, .cons first hbefore, answers, hafter⟩

end CommandShell.KeyValue
