import CommandShell.Proofs.Session.Call
import CommandShell.Proofs.Splitter.Written
import CommandShell.Proofs.Statement
import Mathlib.Data.List.Forall2

/-! Typing arguments. Any values and any pairs of a key and a value can be written on a line so that
the handler of a command gets exactly what they denote: the line is one statement, its tokens are
the written texts, and these are bound as if they had never been quoted. -/

namespace CommandShell

namespace Splitter
open Atom Statement

theorem toList_enclose (v : String) :
    (enclose v).toList = '"' :: escapeQuotes (v.toList.rdropWhile (· = backslash)) ++
      '"' :: v.toList.rtakeWhile (· = backslash) := by
  simp [enclose]

theorem mem_of_mem_escapeQuotes {c : Char} {cs : List Char} (h : c ∈ escapeQuotes cs)
    (hc : c ≠ backslash) : c ∈ cs := by
  obtain ⟨d, hd, hcd⟩ := List.mem_flatMap.mp h
  unfold escapeChar at hcd
  split at hcd
  · have : c = d := by simpa [hc] using hcd
    rwa [this]
  · have : c = d := by simpa using hcd
    rwa [this]

theorem solid_enclose {v : String} (h : separator ∉ v.toList) : Solid (enclose v) where
  whole := by
    rw [toList_enclose, List.mem_append, List.mem_cons, List.mem_cons]
    rintro ((hm | hm) | (hm | hm))
    · exact absurd hm (by decide)
    · exact h ((List.rdropWhile_prefix _ _).subset (mem_of_mem_escapeQuotes hm (by decide)))
    · exact absurd hm (by decide)
    · exact h ((List.rtakeWhile_suffix _ _).subset hm)
  first := ⟨'"', by simp [toList_enclose], by decide⟩
  last := by
    rw [toList_enclose, List.getLast?_append, List.getLast?_cons, Option.some_or]
    cases hlast : (v.toList.rtakeWhile (· = backslash)).getLast? with
    | none => exact ⟨'"', rfl, by decide⟩
    | some c =>
      have hc : c = backslash := by simpa using List.mem_rtakeWhile_imp (List.mem_of_getLast? hlast)
      exact ⟨c, rfl, by rw [hc]; decide⟩

theorem solid_enclosePair {p : String × String} (hk : separator ∉ p.1.toList)
    (hv : separator ∉ p.2.toList) : Solid (enclosePair p) :=
  (solid_enclose hk).append (solid_enclose hv) (by decide)

theorem split_statement_commandLine {name : String} {values : List String}
    {pairs : List (String × String)} (hname : separator ∉ name.toList)
    (hvalues : ∀ v ∈ values, separator ∉ v.toList)
    (hpairs : ∀ p ∈ pairs, separator ∉ p.1.toList ∧ separator ∉ p.2.toList) :
    Statement.split (commandLine name values pairs) = [commandLine name values pairs] := by
  refine (Solid.intercalate (List.cons_ne_nil _ _) ?_).split_eq
  intro t ht
  simp only [List.mem_cons, List.mem_append, List.mem_map] at ht
  rcases ht with rfl | ⟨v, hv, rfl⟩ | ⟨p, hp, rfl⟩
  · exact solid_enclose hname
  · exact solid_enclose (hvalues v hv)
  · exact solid_enclosePair (hpairs p hp).1 (hpairs p hp).2

end Splitter

/-- What values for the first parameters and pairs after them bind: each pair is written over what
is there. -/
def Signature.denoted (signature : Signature) (values : List String)
    (pairs : List (String × String)) : Arguments :=
  Entries.merge (Entries.ofList (signature.names.zip values)) pairs

namespace Binding
open Splitter

variable {parameters : List Parameter}

theorem addAll_values_append {sp : Splitter} {tokens values : List String}
    (denoted : List.Forall₂ (fun token value => sp.split token = .ok [value]) tokens values)
    {b : Binding} (fit : b.position + values.length ≤ parameters.length) (rest : List String) :
    addAll sp parameters b (tokens ++ rest) =
      addAll sp parameters
        ⟨Entries.merge b.arguments (((parameters.map Parameter.name).drop b.position).zip values),
          b.position + values.length, b.surplus⟩ rest := by
  -- generalised over the binding, whose position moves with each value
  induction denoted generalizing b with
  | nil => simp [Entries.merge]
  | @cons token v tokens values split denoted ih =>
    rw [List.length_cons] at fit
    have hposition : b.position < parameters.length := by omega
    have hadd : b.add parameters [v] = some ⟨Entries.put b.arguments parameters[b.position].name v,
        b.position + 1, b.surplus⟩ := by
      simp [add, List.getElem?_eq_getElem hposition]
    have hnames : (parameters.map Parameter.name).drop b.position =
        parameters[b.position].name :: (parameters.map Parameter.name).drop (b.position + 1) := by
      rw [List.drop_eq_getElem_cons (by simpa using hposition), List.getElem_map]
    rw [List.cons_append, addAll, split]
    simp only [hadd]
    rw [ih (by dsimp only; omega), hnames]
    simp only [List.zip_cons_cons, Entries.merge, List.foldl_cons, List.length_cons,
      Nat.add_assoc, Nat.add_comm 1]

theorem ofTokens_values {sp : Splitter} {tokens values : List String} (signature : Signature)
    (denoted : List.Forall₂ (fun token value => sp.split token = .ok [value]) tokens values)
    (fit : values.length ≤ signature.parameters.length) (rest : List String) :
    ofTokens sp signature.parameters (tokens ++ rest) = addAll sp signature.parameters
      ⟨signature.denoted values [], values.length, []⟩ rest := by
  have hvalues : addAll sp signature.parameters empty _ = _ :=
    addAll_values_append denoted (by simpa [empty] using fit) rest
  rw [ofTokens, hvalues]
  simp [empty, Signature.denoted, Signature.names, Entries.ofList, Entries.merge]

theorem fits_of_values {sp : Splitter} {tokens values : List String}
    (denoted : List.Forall₂ (fun token value => sp.split token = .ok [value]) tokens values) :
    ∀ t ∈ tokens, Fits sp t := by
  induction denoted with
  | nil => simp
  | cons split denoted ih => exact List.forall_mem_cons.mpr ⟨⟨_, split, .inl rfl⟩, ih⟩

theorem forall₂_split_enclose (values : List String) :
    List.Forall₂ (fun token value => fields.split token = .ok [value]) (values.map enclose)
      values :=
  List.forall₂_map_left_iff.mpr (List.forall₂_same.mpr fun v _ => split_fields_enclose v)

theorem addAll_enclosePair (pairs : List (String × String)) (b : Binding) :
    addAll fields parameters b (pairs.map enclosePair) =
      ({ b with arguments := Entries.merge b.arguments pairs }, none) := by
  induction pairs generalizing b with
  | nil => rfl
  | cons p pairs ih =>
    rw [List.map_cons, addAll, split_fields_enclosePair]
    exact ih _

theorem ofTokens_enclosed (signature : Signature) {values : List String}
    (pairs : List (String × String)) (fit : values.length ≤ signature.parameters.length) :
    ofTokens fields signature.parameters (values.map enclose ++ pairs.map enclosePair) =
      (⟨signature.denoted values pairs, values.length, []⟩, none) := by
  rw [ofTokens_values signature (forall₂_split_enclose values) fit, addAll_enclosePair]
  rfl

end Binding

namespace Session
open Splitter Statement

variable {δ : Type}

theorem runStatements_singleton (nested : Nested δ) (sp : Splitter) (statement : String) :
    runStatements nested sp [statement] = reported (runStatement nested sp statement) := by
  funext s
  rw [runStatements, bind_apply]
  cases reported (runStatement nested sp statement) s with
  | error e t => rfl
  | ok ended t => cases ended <;> rfl

theorem calls_commandLine {s : Session δ} (lawful : s.commands.Built) {name : String}
    {command : Command δ} (registered : Entries.find? s.commands.entries name = some command)
    {values : List String} (pairs : List (String × String))
    (fit : values.length ≤ command.signature.parameters.length) :
    Calls standardSplitters s (commandLine name values pairs)
      ⟨name, command, command.signature.denoted values pairs, values.length, []⟩ := by
  have tokens := split_commandLine name values pairs
  have free : isReserved name = false :=
    lawful.isReserved_eq_false (Entries.mem_keys_of_find? registered)
  have fits : ∀ t ∈ values.map enclose ++ pairs.map enclosePair, Binding.Fits fields t := by
    intro t ht
    rcases List.mem_append.mp ht with hvalue | hpair
    · exact Binding.fits_of_values (Binding.forall₂_split_enclose values) t hvalue
    · obtain ⟨p, -, rfl⟩ := List.mem_map.mp hpair
      exact ⟨_, split_fields_enclosePair p, .inr rfl⟩
  have calls : Calls standardSplitters s _ _ := .intro tokens (unquote_enclose name) free
    (Registry.lookup_of_find? registered) fits
  have hbinding : Binding.ofTokens standardSplitters.argument _ _ = _ :=
    Binding.ofTokens_enclosed command.signature pairs fit
  rwa [hbinding] at calls

/-- Every map of arguments can be typed. A line of written texts runs the handler of its command
once, on exactly what the texts denote, in a state that differs by the record of the call and a log
entry: nothing is printed before the handler runs. -/
theorem executeAt_commandLine (depth : Nat) {splitters : Splitters} {s : Session δ}
    (standard : buildSplitters defaultQuotes = .ok splitters)
    (built : s.splitters = some splitters) (lawful : s.commands.Built) {name : String}
    {command : Command δ} (registered : Entries.find? s.commands.entries name = some command)
    {values : List String} {pairs : List (String × String)}
    (fit : values.length ≤ command.signature.parameters.length)
    (clear : separator ∉ name.toList ∧ (∀ v ∈ values, separator ∉ v.toList) ∧
      ∀ p ∈ pairs, separator ∉ p.1.toList ∧ separator ∉ p.2.toList) :
    let arguments := command.signature.denoted values pairs
    let start := called name command arguments s
    executeAt depth (commandLine name values pairs) s = reported (do
        discard (handled (nestedAt depth) name command arguments)
        pure false) start ∧
      start.invocations = s.invocations ++ [⟨name, command.handler.origin, arguments⟩] ∧
      start.output = s.output := by
  obtain ⟨hname, hvalues, hpairs⟩ := clear
  obtain rfl : splitters = standardSplitters := by
    rw [buildSplitters_defaultQuotes] at standard
    cases standard
    rfl
  refine ⟨?_, rfl, rfl⟩
  rw [executeAt_eq, executeLineWith, bind_apply, getLineSplitter_of_some built,
    split_statement_commandLine hname hvalues hpairs]
  dsimp only
  rw [runStatements_singleton, reported_apply, reported_apply,
    runStatement_of_calls built (calls_commandLine lawful registered pairs fit)]
  rfl

theorem executeAt_commandLine_help :
    let line := "\"help\" \"it\\'s \"\\ \"a=b\"=\"\""
    let arguments := [("command", "it's \\"), ("a=b", "")]
    let start := called "help" Help.command arguments ready
    executeAt 0 line ready = reported (do
        discard (handled (nestedAt 0) "help" Help.command arguments)
        pure false) start ∧
      start.invocations = [⟨"help", .bundled, arguments⟩] ∧ start.output = ⟨false, ""⟩ ∧
      (after (executeAt 0 line) ready).output.written = "Error: unknown command: it's \\\n" := by
  intro line
  have lawful : ready.commands.Built := withHelp_built (.empty false)
  have registered : Entries.find? ready.commands.entries "help" = some Help.command := rfl
  have fit : ["it's \\"].length ≤ Help.signature.parameters.length := by decide
  have clear : separator ∉ "help".toList ∧ (∀ v ∈ ["it's \\"], separator ∉ v.toList) ∧
      ∀ p ∈ [("a=b", "")], separator ∉ p.1.toList ∧ separator ∉ p.2.toList := by decide
  have hline : commandLine "help" ["it's \\"] [("a=b", "")] = line := by decide
  have harguments : (Help.command (δ := Unit)).signature.denoted ["it's \\"] [("a=b", "")] =
      [("command", "it's \\"), ("a=b", "")] := by decide
  have run := executeAt_commandLine 0 buildSplitters_defaultQuotes (s := ready) rfl lawful
    registered fit clear
  rw [hline, harguments] at run
  obtain ⟨heq, invocations, output⟩ := run
  exact ⟨heq, invocations, output, by decide +kernel⟩

end Session
end CommandShell
