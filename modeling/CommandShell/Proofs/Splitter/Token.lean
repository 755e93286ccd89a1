import CommandShell.Proofs.Atom.Cutting

/-! The tokens of a line. A splitter at blanks gives the pieces between bare blanks; each piece can
be read again by itself, without its quotes or as an argument, and tokens that are joined by blanks
are found again. -/

namespace CommandShell.Splitter
open Atom

theorem build_eq_ok {delimiter : String} {quotes : List String} {keepQuotes : Bool}
    {ignoreEmpties : Option Bool} {sp : Splitter}
    (h : build delimiter quotes keepQuotes ignoreEmpties = .ok sp) :
    single? delimiter = some sp.delimiter ∧ quotes.mapM single? = some sp.quotes ∧
      sp.keepQuotes = keepQuotes ∧
      sp.ignoreEmpties = ignoreEmpties.getD (Text.isBlank sp.delimiter) := by
  unfold build at h
  split at h
  · cases h
  · next c hc =>
    split at h
    · cases h
    · split at h
      · cases h
      · next qs hqs =>
        split at h
        · cases h
          exact ⟨hc, hqs, rfl, rfl⟩
        · cases h

theorem build_other_mode {delimiter : String} {quotes : List String} {keepQuotes : Bool}
    {ignoreEmpties : Option Bool} {sp : Splitter}
    (h : build delimiter quotes keepQuotes ignoreEmpties = .ok sp) (keepQuotes' : Bool)
    (ignoreEmpties' : Option Bool) :
    build delimiter quotes keepQuotes' ignoreEmpties' =
      .ok { sp with
        keepQuotes := keepQuotes'
        ignoreEmpties := ignoreEmpties'.getD (Text.isBlank sp.delimiter) } := by
  unfold build at h ⊢
  split at h
  · cases h
  · next c hc =>
    split at h
    · cases h
    · next hfree =>
      split at h
      · cases h
      · next qs hqs =>
        split at h
        · next hd =>
          cases h
          rw [if_neg hfree, dif_pos hd]
        · cases h

theorem atoms_eq_ok {sp : Splitter} {text : String} {as : List Atom} :
    sp.atoms text = .ok as ↔ Legible sp.quotes none as none ∧ sourceOf as = text.toList := by
  rw [← read_eq_iff, atoms]
  split
  · next bs hr => simp [hr]
  · next bs q hr => simp [hr]

theorem atoms_sourceOf {sp : Splitter} {as : List Atom} (h : Legible sp.quotes none as none) :
    sp.atoms (String.ofList (sourceOf as)) = .ok as :=
  atoms_eq_ok.mpr ⟨h, String.toList_ofList.symm⟩

theorem atoms_congr {sp sp' : Splitter} (h : sp.quotes = sp'.quotes) (text : String) :
    sp.atoms text = sp'.atoms text := by
  rw [atoms, atoms, h]

variable {sp : Splitter} {p : List Atom}

theorem split_eq_error_iff {text : String} {e : OpenQuote} :
    sp.split text = .error e ↔ sp.atoms text = .error e := by
  rw [split]
  cases sp.atoms text <;> simp [Except.map]

theorem unquote_eq_error_iff {text : String} {e : OpenQuote} :
    sp.unquote text = .error e ↔ sp.atoms text = .error e := by
  rw [unquote]
  cases sp.atoms text <;> simp [Except.map]

theorem text_of_split_error {text : String} {e : OpenQuote} (h : sp.split text = .error e) :
    e.text = text := by
  rw [split_eq_error_iff, atoms] at h
  split at h <;> cases h
  rfl

theorem piece_text (hu : Uncut Text.isBlank p) :
    (sp.piece p).text = Atom.text sp.keepQuotes p := map_trimMarks_of_uncut hu sp.keepQuotes

theorem piece_isEmpty (hl : Legible sp.quotes none p none) (hu : Uncut Text.isBlank p) :
    (sp.piece p).isEmpty = p.isEmpty := by
  cases p with
  | nil => cases sp.keepQuotes <;> rfl
  | cons a as =>
    rw [List.isEmpty_cons, Piece.isEmpty, piece_text hu, Bool.eq_false_iff]
    intro h
    simp only [Bool.and_eq_true, List.isEmpty_iff, Bool.not_eq_true'] at h
    cases hk : sp.keepQuotes with
    | false => exact absurd (hl.eq_nil (hk ▸ h.1) h.2) (List.cons_ne_nil a as)
    | true =>
      have hs : sourceOf (a :: as) = [] := by rw [← text_true, ← hk, h.1]
      exact absurd (sourceOf_eq_nil.mp hs) (List.cons_ne_nil a as)

theorem unquote_sourceOf (hl : Legible sp.quotes none p none) (hu : Uncut Text.isBlank p) :
    sp.unquote (String.ofList (sourceOf p)) = .ok (String.ofList (Atom.text false p)) := by
  rw [unquote, atoms_sourceOf hl, Except.map, map_trimMarks_of_uncut hu]

/-- The pieces between bare blanks of which something was read. -/
def pieces (as : List Atom) : List (List Atom) :=
  (cut Text.isBlank as).filter fun p => !p.isEmpty

theorem uncut_of_mem_pieces {as : List Atom} (hp : p ∈ pieces as) : Uncut Text.isBlank p :=
  uncut_of_mem_cut (List.mem_filter.mp hp).1

theorem legible_of_mem_pieces {quotes : List Char} {as : List Atom}
    (h : Legible quotes none as none) (hp : p ∈ pieces as) : Legible quotes none p none :=
  h.of_mem_cut (List.mem_filter.mp hp).1

theorem ne_nil_of_mem_pieces {as : List Atom} (hp : p ∈ pieces as) : p ≠ [] := by
  simpa using (List.mem_filter.mp hp).2

theorem pieces_uncut (hu : Uncut Text.isBlank p) (hne : p ≠ []) : pieces p = [p] := by
  rw [pieces, cut_uncut hu]
  simpa using hne

theorem pieces_append_bare {c : Char} (hc : Text.isBlank c = true) (as rest : List Atom) :
    pieces (as ++ bare c :: rest) = pieces as ++ pieces rest := by
  rw [pieces, cut_append_bare hc, List.filter_append, pieces, pieces]

theorem pieces_bare {c : Char} (hc : Text.isBlank c = true) (rest : List Atom) :
    pieces (bare c :: rest) = pieces rest := pieces_append_bare hc [] rest

theorem split_of_blank (hb : Text.isBlank sp.delimiter = true) (hi : sp.ignoreEmpties = true)
    (text : String) :
    sp.split text = (sp.atoms text).map fun as =>
      (pieces as).map fun p => String.ofList (Atom.text sp.keepQuotes p) := by
  have hboundary : sp.isBoundary = Text.isBlank := by
    funext c
    rw [isBoundary, if_pos hb]
  rw [split, hboundary]
  cases ha : sp.atoms text with
  | error e => rfl
  | ok as =>
    have hclosed := (atoms_eq_ok.mp ha).1
    -- emptiness does not depend on the mode, so with and without quotes the same pieces are kept
    have hempty : ∀ p ∈ cut Text.isBlank as, (!(sp.piece p).isEmpty) = !p.isEmpty := by
      intro p hp
      rw [piece_isEmpty (hclosed.of_mem_cut hp) (uncut_of_mem_cut hp)]
    simp only [Except.map, select, hi, if_true, List.filter_map, List.map_map]
    congr 1
    rw [List.filter_congr (q := fun p => !p.isEmpty) hempty]
    apply List.map_congr_left
    intro p hp
    exact congrArg String.ofList (piece_text (uncut_of_mem_pieces hp))

theorem split_sourceOf_single (hi : sp.ignoreEmpties = false) (hl : Legible sp.quotes none p none)
    (hu : Uncut Text.isBlank p) (hd : Uncut sp.isBoundary p) (hp : p ≠ []) :
    sp.split (String.ofList (sourceOf p)) = .ok [String.ofList (Atom.text sp.keepQuotes p)] := by
  have hempty : (sp.piece p).isEmpty = false := by
    rw [piece_isEmpty hl hu]
    simpa using hp
  rw [split, atoms_sourceOf hl, Except.map, cut_uncut hd]
  simp [select, hi, dropOuterEmpties, hempty, piece_text hu]

theorem quotes_of_build {d d' : String} {quotes : List String} {keep keep' : Bool}
    {empties empties' : Option Bool} {sp' : Splitter} (h : build d quotes keep empties = .ok sp)
    (h' : build d' quotes keep' empties' = .ok sp') : sp.quotes = sp'.quotes := by
  have hq := (build_eq_ok h).2.1
  have hq' := (build_eq_ok h').2.1
  exact Option.some.inj (hq.symm.trans hq')

theorem split_of_build_blank {quotes : List String} {keepQuotes : Bool}
    (h : build " " quotes keepQuotes none = .ok sp) (text : String) :
    sp.split text = (sp.atoms text).map fun as =>
      (pieces as).map fun p => String.ofList (Atom.text keepQuotes p) := by
  obtain ⟨hd, -, hk, hi⟩ := build_eq_ok h
  have hd : ' ' = sp.delimiter := by simpa [single?] using hd
  have hb : Text.isBlank sp.delimiter = true := by rw [← hd]; decide
  have hi : sp.ignoreEmpties = true := hi.trans hb
  rw [split_of_blank hb hi, hk]

theorem forArgument_eq_ok {quotes : List String} {argument : Splitter}
    (h : forArgument quotes = .ok argument) :
    argument.isBoundary = (· == '=') ∧ argument.keepQuotes = false ∧
      argument.ignoreEmpties = false := by
  obtain ⟨hd, -, hk, hi⟩ := build_eq_ok h
  have hd : '=' = argument.delimiter := by simpa [single?] using hd
  refine ⟨?_, hk, hi⟩
  funext c
  have hb : Text.isBlank '=' = false := by decide
  simp [isBoundary, ← hd, hb]

theorem split_forArgument_single {quotes : List String} {argument : Splitter}
    (ha : forArgument quotes = .ok argument) (hl : Legible argument.quotes none p none)
    (hu : Uncut Text.isBlank p) (hp : p ≠ []) (hs : bare '=' ∉ p) :
    argument.split (String.ofList (sourceOf p)) = .ok [String.ofList (Atom.text false p)] := by
  obtain ⟨hd, hk, hi⟩ := forArgument_eq_ok ha
  have hcut : Uncut argument.isBoundary p := by
    intro c hc
    have hne : c ≠ '=' := fun e => hs (e ▸ hc)
    simpa [hd] using hne
  rw [split_sourceOf_single hi hl hu hcut hp, hk]

structure IsToken (quotes : List Char) (p : List Atom) : Prop where
  legible : Legible quotes none p none
  uncut : Uncut Text.isBlank p
  ne_nil : p ≠ []

theorem split_eq_ok_iff {quotes : List String} (hline : forLine quotes = .ok sp) {text : String}
    {tokens : List String} :
    sp.split text = .ok tokens ↔ ∃ as, sp.atoms text = .ok as ∧
      (pieces as).map (fun p => String.ofList (sourceOf p)) = tokens := by
  rw [split_of_build_blank hline]
  simp only [text_true]
  cases sp.atoms text <;> simp [Except.map]

theorem exists_isToken_of_split {quotes : List String} (hline : forLine quotes = .ok sp)
    {text : String} {tokens : List String} (h : sp.split text = .ok tokens) :
    ∃ ps : List (List Atom), (∀ p ∈ ps, IsToken sp.quotes p) ∧
      tokens = ps.map fun p => String.ofList (sourceOf p) := by
  obtain ⟨as, hatoms, rfl⟩ := (split_eq_ok_iff hline).mp h
  refine ⟨pieces as, fun p hp => ?_, rfl⟩
  exact ⟨legible_of_mem_pieces (atoms_eq_ok.mp hatoms).1 hp, uncut_of_mem_pieces hp,
    ne_nil_of_mem_pieces hp⟩

theorem readable_of_mem_split {quotes : List String} {line argument : Splitter}
    (hline : forLine quotes = .ok line) (hargument : forArgument quotes = .ok argument)
    {text token : String} {tokens : List String} (h : line.split text = .ok tokens)
    (ht : token ∈ tokens) :
    (∃ word, line.unquote token = .ok word) ∧ ∃ fields, argument.split token = .ok fields := by
  obtain ⟨ps, htokens, rfl⟩ := exists_isToken_of_split hline h
  obtain ⟨p, hp, rfl⟩ := List.mem_map.mp ht
  have hl := (htokens p hp).legible
  have hquotes := quotes_of_build hargument hline
  refine ⟨⟨_, unquote_sourceOf hl (htokens p hp).uncut⟩, ?_⟩
  rw [split, atoms_sourceOf (hquotes ▸ hl)]
  exact ⟨_, rfl⟩

theorem legible_intercalate {quotes : List Char} (hq : ' ' ∉ quotes) {ps : List (List Atom)}
    (h : ∀ p ∈ ps, IsToken quotes p) : Legible quotes none ([bare ' '].intercalate ps) none := by
  induction ps with
  | nil => exact .nil none
  | cons p ps ih =>
    have hp := (h p List.mem_cons_self).legible
    have hrest := ih fun q hmem => h q (List.mem_cons_of_mem p hmem)
    cases ps with
    | nil => simpa using hp
    | cons q ps =>
      rw [List.intercalate_cons_cons, List.append_assoc]
      refine hp.append (.bare hq (.of_ne (by decide) _) hrest) ?_
      simpa [source] using hq

theorem pieces_intercalate {ps : List (List Atom)} (hu : ∀ p ∈ ps, Uncut Text.isBlank p)
    (hne : ∀ p ∈ ps, p ≠ []) : pieces ([bare ' '].intercalate ps) = ps := by
  induction ps with
  | nil => rfl
  | cons p ps ih =>
    have hp := pieces_uncut (hu p List.mem_cons_self) (hne p List.mem_cons_self)
    cases ps with
    | nil => simpa using hp
    | cons q ps =>
      have hrest := ih (fun r hr => hu r (List.mem_cons_of_mem p hr))
        fun r hr => hne r (List.mem_cons_of_mem p hr)
      rw [List.intercalate_cons_cons, List.append_assoc, List.singleton_append,
        pieces_append_bare (by decide), hp, hrest]
      rfl

theorem sourceOf_intercalate (ps : List (List Atom)) :
    sourceOf ([bare ' '].intercalate ps) = [' '].intercalate (ps.map sourceOf) := by
  induction ps with
  | nil => rfl
  | cons p ps ih =>
    cases ps with
    | nil => simp
    | cons q ps => simp_all [source]

theorem split_intercalate {quotes : List String} {line : Splitter}
    (hline : forLine quotes = .ok line) {ps : List (List Atom)}
    (h : ∀ p ∈ ps, IsToken line.quotes p) :
    line.split (" ".intercalate (ps.map fun p => String.ofList (sourceOf p))) =
      .ok (ps.map fun p => String.ofList (sourceOf p)) := by
  have hd : ' ' = line.delimiter := by simpa [single?] using (build_eq_ok hline).1
  have hq : ' ' ∉ line.quotes := hd ▸ line.delimiter_not_quote
  have hatoms : line.atoms (" ".intercalate (ps.map fun p => String.ofList (sourceOf p))) =
      .ok ([bare ' '].intercalate ps) := by
    rw [atoms_eq_ok]
    refine ⟨legible_intercalate hq h, ?_⟩
    rw [sourceOf_intercalate, String.toList_intercalate, List.map_map]
    congr 1
    apply List.map_congr_left
    intro p _
    exact String.toList_ofList.symm
  rw [split_of_build_blank hline, hatoms, Except.map,
    pieces_intercalate (fun p hp => (h p hp).uncut) fun p hp => (h p hp).ne_nil]
  simp only [text_true]

/-- A text may follow a token: it is empty or begins with a blank that is no quote. -/
def Follows (sp : Splitter) (text : String) : Prop :=
  ∀ c ∈ text.toList.head?, Text.isBlank c = true ∧ c ∉ sp.quotes

theorem split_append_of_follows {quotes : List String} (hline : forLine quotes = .ok sp)
    {text : String} {tokens : List String} (before : sp.split text = .ok tokens) {rest : String}
    (follows : sp.Follows rest) :
    sp.split (text ++ rest) = match sp.split rest with
      | .ok more => .ok (tokens ++ more)
      | .error e => .error ⟨text ++ rest, e.quote⟩ := by
  obtain ⟨as, hatoms, rfl⟩ := (split_eq_ok_iff hline).mp before
  obtain ⟨hclosed, htext⟩ := atoms_eq_ok.mp hatoms
  cases hread : read sp.quotes none rest.toList with
  | mk bs opened =>
    obtain ⟨hl, hs⟩ := read_eq_iff.mp hread
    have seam : ∀ q ∈ (sourceOf bs).head?, q ∉ sp.quotes := fun q hq => (follows q (hs ▸ hq)).2
    have hwhole : read sp.quotes none (text ++ rest).toList = (as ++ bs, opened) :=
      read_eq_iff.mpr ⟨hclosed.append hl seam, by simp [htext, hs]⟩
    rw [split_of_build_blank hline, split_of_build_blank hline, Splitter.atoms, Splitter.atoms,
      hwhole, hread]
    cases opened with
    | some q => rfl
    | none =>
      have hpieces : pieces (as ++ bs) = pieces as ++ pieces bs := by
        cases hrest : rest.toList with
        | nil =>
          obtain rfl : bs = [] := sourceOf_eq_nil.mp (hs.trans hrest)
          rw [List.append_nil]
          exact (List.append_nil _).symm
        | cons c cs =>
          obtain ⟨hblank, hquote⟩ := follows c (by rw [hrest]; rfl)
          have hc : c ≠ backslash := by
            rintro rfl
            exact absurd hblank (by decide)
          obtain ⟨more, rfl⟩ := hl.eq_bare_cons (hs.trans hrest) hquote hc
          rw [pieces_append_bare hblank, pieces_bare hblank]
      simp only [Except.map, hpieces, List.map_append, text_true]

def commandWords : Splitter := { words with keepQuotes := true }

theorem forLine_defaultQuotes : forLine defaultQuotes = .ok commandWords := rfl

end CommandShell.Splitter
