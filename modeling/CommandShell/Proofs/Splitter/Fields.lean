import CommandShell.Proofs.Binding
import CommandShell.Proofs.Splitter.Token

/-! The fields of a text. A splitter that keeps empty pieces drops at most one piece at each end of
a text, and only a blank one. What a token of a line binds is therefore the token without its
quotes, less an equals sign at either end. -/

namespace CommandShell

namespace Splitter
open Atom

variable {sp : Splitter} {text : String}

def trimmedPieces (sp : Splitter) (text : String) : Except OpenQuote (List Piece) :=
  (sp.atoms text).map fun as => (cut sp.isBoundary as).map sp.piece

theorem split_eq_select (sp : Splitter) (text : String) :
    sp.split text = (sp.trimmedPieces text).map fun ps =>
      (sp.select ps).map fun p => String.ofList p.text := by
  rw [split, trimmedPieces]
  cases sp.atoms text <;> rfl

/-- A piece of which nothing is left and that held no quotes. -/
def Piece.blank : Piece := ⟨[], false⟩

theorem Piece.isEmpty_iff {p : Piece} : p.isEmpty = true ↔ p = .blank := by
  obtain ⟨text, quoted⟩ := p
  simp [Piece.isEmpty, Piece.blank]

def Piece.unlessBlank (p : Piece) : List Piece := if p = .blank then [] else [p]

theorem Piece.reverse_unlessBlank (p : Piece) : p.unlessBlank.reverse = p.unlessBlank := by
  rw [unlessBlank]
  split <;> rfl

theorem dropOuterEmpties_singleton (p : Piece) : dropOuterEmpties [p] = p.unlessBlank := by
  by_cases h : p = .blank <;> simp [dropOuterEmpties, Piece.unlessBlank, Piece.isEmpty_iff, h]

theorem dropOuterEmpties_cons_append (first : Piece) (middle : List Piece) (last : Piece) :
    dropOuterEmpties (first :: (middle ++ [last])) =
      first.unlessBlank ++ middle ++ last.unlessBlank := by
  have hlast (ps : List Piece) :
      (if (ps ++ [last]).getLast?.any Piece.isEmpty then (ps ++ [last]).dropLast
        else ps ++ [last]) = ps ++ last.unlessBlank := by
    by_cases h : last = .blank <;> simp [Piece.unlessBlank, Piece.isEmpty_iff, h]
  by_cases h : first = .blank
  · subst h
    exact hlast middle
  · have hfirst : first.isEmpty = false := Bool.eq_false_iff.mpr (mt Piece.isEmpty_iff.mp h)
    simpa [dropOuterEmpties, hfirst, Piece.unlessBlank, h] using hlast (first :: middle)

theorem dropOuterEmpties_reverse (ps : List Piece) :
    dropOuterEmpties ps.reverse = (dropOuterEmpties ps).reverse := by
  induction ps using List.bidirectionalRec with
  | nil => rfl
  | singleton p =>
    rw [List.reverse_singleton, dropOuterEmpties_singleton, Piece.reverse_unlessBlank]
  | cons_append first middle last _ =>
    have reversed : (first :: (middle ++ [last])).reverse =
        last :: (middle.reverse ++ [first]) := by simp
    rw [reversed, dropOuterEmpties_cons_append, dropOuterEmpties_cons_append]
    simp [Piece.reverse_unlessBlank]

theorem Piece.exists_append_unlessBlank (p : Piece) :
    ∃ gone, [p] = gone ++ p.unlessBlank ∧ [p] = p.unlessBlank ++ gone ∧
      (gone = [] ∨ gone = [.blank]) := by
  by_cases h : p = .blank
  · exact ⟨[.blank], by simp [unlessBlank, h], by simp [unlessBlank, h], .inr rfl⟩
  · exact ⟨[], by simp [unlessBlank, h], by simp [unlessBlank, h], .inl rfl⟩

theorem exists_dropOuterEmpties (ps : List Piece) :
    ∃ left right, ps = left ++ dropOuterEmpties ps ++ right ∧
      (left = [] ∨ left = [.blank]) ∧ (right = [] ∨ right = [.blank]) := by
  induction ps using List.bidirectionalRec with
  | nil => exact ⟨[], [], rfl, .inl rfl, .inl rfl⟩
  | singleton p =>
    obtain ⟨gone, hp, -, hgone⟩ := p.exists_append_unlessBlank
    rw [dropOuterEmpties_singleton]
    exact ⟨gone, [], by rwa [List.append_nil], hgone, .inl rfl⟩
  | cons_append first middle last _ =>
    obtain ⟨left, hfirst, -, hleft⟩ := first.exists_append_unlessBlank
    obtain ⟨right, -, hlast, hright⟩ := last.exists_append_unlessBlank
    refine ⟨left, right, ?_, hleft, hright⟩
    rw [dropOuterEmpties_cons_append]
    calc first :: (middle ++ [last]) = [first] ++ middle ++ [last] := by simp
      _ = left ++ first.unlessBlank ++ middle ++ (last.unlessBlank ++ right) := by
        rw [hfirst, hlast]
      _ = left ++ (first.unlessBlank ++ middle ++ last.unlessBlank) ++ right := by simp

theorem head?_dropOuterEmpties (ps : List Piece) :
    (dropOuterEmpties ps).head? = some .blank ↔ [.blank, .blank] <+: ps ∧ 2 < ps.length := by
  induction ps using List.bidirectionalRec with
  | nil => simp [dropOuterEmpties]
  | singleton p =>
    by_cases h : p = .blank <;> simp [dropOuterEmpties_singleton, Piece.unlessBlank, h]
  | cons_append first middle last _ =>
    rw [dropOuterEmpties_cons_append]
    by_cases hfirst : first = .blank
    · cases middle with
      | nil => by_cases hlast : last = .blank <;> simp [Piece.unlessBlank, hfirst, hlast]
      | cons next middle => simp [Piece.unlessBlank, hfirst, eq_comm]
    · simp [Piece.unlessBlank, hfirst, eq_comm]

theorem getLast?_dropOuterEmpties (ps : List Piece) :
    (dropOuterEmpties ps).getLast? = some .blank ↔ [.blank, .blank] <:+ ps ∧ 2 < ps.length := by
  have h := head?_dropOuterEmpties ps.reverse
  rw [dropOuterEmpties_reverse, List.head?_reverse, List.length_reverse] at h
  rw [h, ← List.reverse_prefix]
  rfl

theorem split_of_trimmedPieces (keeps : sp.ignoreEmpties = false) {ps : List Piece}
    (read : sp.trimmedPieces text = .ok ps) :
    sp.split text = .ok ((dropOuterEmpties ps).map fun p => String.ofList p.text) := by
  rw [split_eq_select, read, Except.map, select, keeps]
  rfl

theorem trimmedPieces_eq_ok {ps : List Piece} :
    sp.trimmedPieces text = .ok ps ↔ ∃ as, sp.atoms text = .ok as ∧
      (cut sp.isBoundary as).map sp.piece = ps := by
  rw [trimmedPieces]
  cases sp.atoms text <;> simp [Except.map]

theorem quoted_of_plain (plain : ∀ c ∈ text.toList, c ∉ sp.quotes) {ps : List Piece}
    (read : sp.trimmedPieces text = .ok ps) : ∀ p ∈ ps, p.quoted = false := by
  obtain ⟨as, hatoms, rfl⟩ := trimmedPieces_eq_ok.mp read
  obtain ⟨hclosed, htext⟩ := atoms_eq_ok.mp hatoms
  simp only [List.forall_mem_map, piece, List.any_eq_false]
  intro p hp a ha opens
  cases a with
  | opening q =>
    have hq : opening q ∈ as := mem_of_mem_cut hp ha
    have shown : q ∈ text.toList := by
      rw [← htext]
      exact List.mem_flatMap.mpr ⟨opening q, hq, by simp [source]⟩
    exact plain q shown (hclosed.mem_quotes hq)
  | _ => cases opens

theorem empty_iff_of_plain (plain : ∀ c ∈ text.toList, c ∉ sp.quotes) {ps : List Piece}
    (read : sp.trimmedPieces text = .ok ps) {p : Piece} (hp : p ∈ ps) :
    String.ofList p.text = "" ↔ p = .blank := by
  have hquoted := quoted_of_plain plain read p hp
  obtain ⟨chars, quoted⟩ := p
  subst hquoted
  simp [Piece.blank]

theorem blank_iff_of_pair {ps : List Piece} {key value : Piece}
    (pair : dropOuterEmpties ps = [key, value]) :
    (key = .blank ↔ [.blank, .blank] <+: ps) ∧ (value = .blank ↔ [.blank, .blank] <:+ ps) := by
  -- two blank pieces alone would both be dropped
  have long (h : [.blank, .blank] <+: ps ∨ [.blank, .blank] <:+ ps) : 2 < ps.length := by
    by_contra short
    have hle : ps.length ≤ 2 := Nat.le_of_not_lt short
    obtain rfl : [.blank, .blank] = ps :=
      h.elim (fun h => h.eq_of_length_le hle) fun h => h.eq_of_length_le hle
    cases pair
  have first := head?_dropOuterEmpties ps
  have last := getLast?_dropOuterEmpties ps
  simp only [pair, List.head?_cons, List.getLast?_cons_cons, List.getLast?_singleton,
    Option.some_inj] at first last
  constructor
  · rw [first]
    exact and_iff_left_of_imp fun h => long (.inl h)
  · rw [last]
    exact and_iff_left_of_imp fun h => long (.inr h)

/-- One blank piece is dropped at each end of a text and every other piece is given. The pieces
given begin or end with a blank one just when two blank pieces stand at that end, beside others; and
a text without quotes that is read as a key and a value, which it then binds, has an empty key or an
empty value in this case alone. -/
theorem split_drops_one (keeps : sp.ignoreEmpties = false) {ps : List Piece}
    (read : sp.trimmedPieces text = .ok ps) :
    ∃ left shown right, ps = left ++ shown ++ right ∧
      sp.split text = .ok (shown.map fun p => String.ofList p.text) ∧
      (left = [] ∨ left = [.blank]) ∧ (right = [] ∨ right = [.blank]) ∧
      (shown.head? = some .blank ↔ [.blank, .blank] <+: ps ∧ 2 < ps.length) ∧
      (shown.getLast? = some .blank ↔ [.blank, .blank] <:+ ps ∧ 2 < ps.length) ∧
      ((∀ c ∈ text.toList, c ∉ sp.quotes) → ∀ key value, sp.split text = .ok [key, value] →
        (key = "" ↔ [.blank, .blank] <+: ps) ∧ (value = "" ↔ [.blank, .blank] <:+ ps) ∧
        ∀ parameters b, Binding.addAll sp parameters b [text] =
          ({ b with arguments := Entries.put b.arguments key value }, none)) := by
  obtain ⟨left, right, hps, hleft, hright⟩ := exists_dropOuterEmpties ps
  have hsplit := split_of_trimmedPieces keeps read
  refine ⟨left, dropOuterEmpties ps, right, hps, hsplit, hleft, hright,
    head?_dropOuterEmpties ps, getLast?_dropOuterEmpties ps, ?_⟩
  intro plain key value pair
  have texts : (dropOuterEmpties ps).map (fun p => String.ofList p.text) = [key, value] := by
    rw [hsplit] at pair
    exact Except.ok.inj pair
  obtain ⟨k, v, shown, rfl, rfl⟩ : ∃ k v, dropOuterEmpties ps = [k, v] ∧
      String.ofList k.text = key ∧ String.ofList v.text = value := by
    simpa [List.map_eq_cons_iff] using texts
  have given : ∀ p ∈ [k, v], p ∈ ps := by
    intro p hp
    rw [hps, shown]
    exact List.mem_append_left _ (List.mem_append_right _ hp)
  obtain ⟨first, last⟩ := blank_iff_of_pair shown
  refine ⟨?_, ?_, fun parameters b => ?_⟩
  · rw [empty_iff_of_plain plain read (given k (by simp)), first]
  · rw [empty_iff_of_plain plain read (given v (by simp)), last]
  · rw [Binding.addAll, pair]
    rfl

theorem split_drops_one_blank :
    fields.trimmedPieces "= =b" = .ok [.blank, .blank, ⟨['b'], false⟩] ∧
      ∀ parameters bound, Binding.addAll fields parameters bound ["= =b"] =
        ({ bound with arguments := Entries.put bound.arguments "" "b" }, none) := by
  have read : fields.trimmedPieces "= =b" = .ok [.blank, .blank, ⟨['b'], false⟩] := by decide
  have plain : ∀ c ∈ "= =b".toList, c ∉ fields.quotes := by simp [fields]
  obtain ⟨left, shown, right, -, -, -, -, -, -, pair⟩ := split_drops_one rfl read
  obtain ⟨-, -, binds⟩ := pair plain "" "b" (by decide)
  exact ⟨read, binds⟩

/-- Of two delimiters at the end one is left over: the piece given last is blank, and the text binds
a key to an empty value. -/
theorem split_drops_one_run :
    fields.trimmedPieces "a==" = .ok [⟨['a'], false⟩, .blank, .blank] ∧
      fields.split "a==" = .ok ["a", ""] ∧
      Binding.ofTokens fields [⟨"p", "", ""⟩] ["a=="] = (⟨[("a", "")], 0, []⟩, none) := by
  decide

theorem intercalate_concat_nil (d : Char) {ls : List (List Char)} (hne : ls ≠ []) :
    [d].intercalate (ls ++ [[]]) = [d].intercalate ls ++ [d] := by
  induction ls with
  | nil => exact absurd rfl hne
  | cons l ls ih =>
    cases ls with
    | nil => simp
    | cons m ls =>
      have hrest := ih (List.cons_ne_nil m ls)
      simp only [List.cons_append, List.intercalate_cons_cons] at hrest ⊢
      rw [hrest]
      simp

theorem exists_intercalate_outer (d : Char) {left right : List (List Char)}
    (shown : List (List Char)) (hleft : left = [] ∨ left = [[]])
    (hright : right = [] ∨ right = [[]]) :
    ∃ before after, (before = [] ∨ before = [d]) ∧ (after = [] ∨ after = [d]) ∧
      [d].intercalate (left ++ shown ++ right) = before ++ [d].intercalate shown ++ after := by
  by_cases hshown : shown = []
  · subst hshown
    rcases hleft with rfl | rfl <;> rcases hright with rfl | rfl
    case inr.inr => exact ⟨[d], [], .inr rfl, .inl rfl, by simp⟩
    all_goals exact ⟨[], [], .inl rfl, .inl rfl, by simp⟩
  · obtain ⟨after, hafter, heq⟩ : ∃ after, (after = [] ∨ after = [d]) ∧
        [d].intercalate (shown ++ right) = [d].intercalate shown ++ after := by
      rcases hright with rfl | rfl
      · exact ⟨[], .inl rfl, by simp⟩
      · exact ⟨[d], .inr rfl, intercalate_concat_nil d hshown⟩
    rcases hleft with rfl | rfl
    · exact ⟨[], after, .inl rfl, hafter, by simpa using heq⟩
    · refine ⟨[d], after, .inr rfl, hafter, ?_⟩
      have hne : shown ++ right ≠ [] := by simp [hshown]
      rw [List.append_assoc, List.singleton_append, List.intercalate_cons_of_ne_nil hne, heq]
      simp

/-- A text is another one but for at most one equals sign more at each end. -/
def LosesOuter (word rest : String) : Prop :=
  word = rest ∨ word = "=" ++ rest ∨ word = rest ++ "=" ∨ word = "=" ++ rest ++ "="

theorem LosesOuter.of_append {before after : List Char} (hbefore : before = [] ∨ before = ['='])
    (hafter : after = [] ∨ after = ['=']) (rest : List Char) :
    LosesOuter (String.ofList (before ++ rest ++ after)) (String.ofList rest) := by
  rcases hbefore with rfl | rfl <;> rcases hafter with rfl | rfl <;>
    simp [LosesOuter, ← String.toList_inj]

end Splitter

namespace Binding

/-- A token that stands for `word` is bound in full: what is written for it, as the value of the
next parameter, as a key and its value, or as surplus, spells the word but for outer equals
signs. -/
inductive Carries (parameters : List Parameter) (word : String) (b next : Binding) : Prop
  | value {p : Parameter} {value : String} (declared : parameters[b.position]? = some p)
      (written : next.arguments = Entries.put b.arguments p.name value)
      (spells : Splitter.LosesOuter word value)
  | pair {key value : String} (written : next.arguments = Entries.put b.arguments key value)
      (spells : Splitter.LosesOuter word (key ++ "=" ++ value))
  | surplus {value : String} (undeclared : parameters[b.position]? = none)
      (unbound : next.arguments = b.arguments) (written : next.surplus = b.surplus ++ [value])
      (spells : Splitter.LosesOuter word value)

theorem carries_of_add {parameters : List Parameter} {word : String} {b next : Binding}
    {fields : List String} (loses : Splitter.LosesOuter word ("=".intercalate fields))
    (added : b.add parameters fields = some next) : Carries parameters word b next := by
  match fields with
  | [] | _ :: _ :: _ :: _ => cases added
  | [key, value] =>
    cases added
    exact .pair rfl (by simpa [String.intercalate_cons_cons] using loses)
  | [value] =>
    rw [String.intercalate_singleton] at loses
    simp only [add] at added
    split at added
    · next p declared =>
      cases added
      exact .value declared rfl loses
    · next undeclared =>
      cases added
      exact .surplus undeclared rfl rfl loses

end Binding

namespace Splitter
open Atom

theorem intercalate_texts (ps : List Piece) :
    "=".intercalate (ps.map fun p => String.ofList p.text) =
      String.ofList (['='].intercalate (ps.map (·.text))) := by
  apply String.toList_injective
  simp [String.toList_intercalate, Function.comp_def]

theorem losesOuter_dropOuterEmpties (ps : List Piece) :
    LosesOuter (String.ofList (['='].intercalate (ps.map (·.text))))
      ("=".intercalate ((dropOuterEmpties ps).map fun p => String.ofList p.text)) := by
  obtain ⟨left, right, hps, hleft, hright⟩ := exists_dropOuterEmpties ps
  have texts {side : List Piece} (h : side = [] ∨ side = [.blank]) :
      side.map (·.text) = [] ∨ side.map (·.text) = [[]] := by
    rcases h with rfl | rfl
    · exact .inl rfl
    · exact .inr rfl
  obtain ⟨before, after, hbefore, hafter, joined⟩ := exists_intercalate_outer '='
    ((dropOuterEmpties ps).map (·.text)) (texts hleft) (texts hright)
  rw [← List.map_append, ← List.map_append, ← hps] at joined
  rw [joined, intercalate_texts]
  exact .of_append hbefore hafter _

theorem IsToken.exists_trimmedPieces {quotes : List String} {argument : Splitter} {p : List Atom}
    (hargument : forArgument quotes = .ok argument) (token : IsToken argument.quotes p) :
    ∃ ps, argument.trimmedPieces (String.ofList (sourceOf p)) = .ok ps ∧
      ['='].intercalate (ps.map (·.text)) = Atom.text false p := by
  obtain ⟨hd, hk, -⟩ := forArgument_eq_ok hargument
  refine ⟨_, trimmedPieces_eq_ok.mpr ⟨p, atoms_sourceOf token.legible, rfl⟩, ?_⟩
  rw [← intercalate_text_cut false '=' p, hd, List.map_map]
  congr 1
  apply List.map_congr_left
  intro q hq
  have uncut : Uncut Text.isBlank q := fun c hc => token.uncut c (mem_of_mem_cut hq hc)
  rw [Function.comp_apply, piece_text uncut, hk]

/-- Reading a token of a line as an argument loses nothing but an equals sign at either end. Its
fields joined by equals signs are the token without its quotes, which may have one more at each end;
and whatever binds the token writes all of that. -/
theorem split_loses_outer {quotes : List String} {line argument : Splitter}
    (hline : forLine quotes = .ok line) (hargument : forArgument quotes = .ok argument)
    {text : String} {tokens : List String} (h : line.split text = .ok tokens) {token : String}
    (ht : token ∈ tokens) :
    ∃ word fields, line.unquote token = .ok word ∧ argument.split token = .ok fields ∧
      LosesOuter word ("=".intercalate fields) ∧
      ∀ parameters b next, b.add parameters fields = some next →
        Binding.Carries parameters word b next := by
  obtain ⟨ps, htokens, rfl⟩ := exists_isToken_of_split hline h
  obtain ⟨p, hp, rfl⟩ := List.mem_map.mp ht
  have isToken := htokens p hp
  have hquotes := quotes_of_build hargument hline
  obtain ⟨pieces, read, joined⟩ := IsToken.exists_trimmedPieces hargument (hquotes ▸ isToken)
  have loses := losesOuter_dropOuterEmpties pieces
  rw [joined] at loses
  exact ⟨_, _, unquote_sourceOf isToken.legible isToken.uncut,
    split_of_trimmedPieces (forArgument_eq_ok hargument).2.2 read, loses,
    fun _ _ _ => Binding.carries_of_add loses⟩

theorem split_loses_outer_quoted :
    commandWords.split "set \"=\"=b= " = .ok ["set", "\"=\"=b="] ∧
      LosesOuter "==b=" "==b" ∧
      Binding.Carries [] "==b=" .empty ⟨[("=", "b")], 0, []⟩ := by
  have read : commandWords.split "set \"=\"=b= " = .ok ["set", "\"=\"=b="] := by decide
  have unquoted : commandWords.unquote "\"=\"=b=" = .ok "==b=" := by decide
  have given : fields.split "\"=\"=b=" = .ok ["=", "b"] := by decide
  obtain ⟨word, pair, hword, hpair, loses, carries⟩ := split_loses_outer forLine_defaultQuotes
    forArgument_defaultQuotes read (List.mem_cons_of_mem _ List.mem_cons_self)
  rw [unquoted] at hword
  rw [given] at hpair
  cases hword
  cases hpair
  exact ⟨read, loses, carries [] .empty _ rfl⟩

end Splitter
end CommandShell
