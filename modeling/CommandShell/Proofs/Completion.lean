import CommandShell.Completion
import CommandShell.Proofs.Registry.Changes
import CommandShell.Proofs.Statement
import CommandShell.Proofs.Text.Lower

/-! Completing the beginning of a name. Whatever of a registered name is typed, behind any white
space, the name completes it when it is taken. It is offered unless the typed part breaks a word of
the name off behind a capital sigma. -/

namespace CommandShell

namespace Text

theorem isBlank_head?_of_strip_eq_self {s : String} (h : strip s = s) :
    ∀ c ∈ s.toList.head?, isBlank c = false := by
  have htrim : trim s.toList = s.toList := by simpa [strip] using congrArg String.toList h
  have hsuffix : trimLeft s.toList <:+ s.toList := List.dropWhile_suffix isBlank
  have kept := trimRight_prefix (trimLeft s.toList)
  have hlength := kept.length_le
  rw [← trim, htrim] at hlength
  have hkept : s.toList.dropWhile isBlank = s.toList := hsuffix.eq_of_length_le hlength
  intro c hc
  have hfirst := List.head?_dropWhile_not isBlank s.toList
  rw [hkept, hc] at hfirst
  exact hfirst

theorem stripLeft_append {blanks typed rest : String} (blank : isBlankText blanks = true)
    (h : strip (typed ++ rest) = typed ++ rest) : stripLeft (blanks ++ typed) = typed := by
  have hblank : ∀ c ∈ blanks.toList, isBlank c = true := by simpa [isBlankText] using blank
  have hfirst : ∀ c ∈ typed.toList.head?, isBlank c = false := by
    intro c hc
    refine isBlank_head?_of_strip_eq_self h c ?_
    rw [String.toList_append]
    exact List.mem_head?_append_of_mem_head? hc
  rw [stripLeft, trimLeft, String.toList_append, List.dropWhile_append_of_pos hblank,
    dropWhile_isBlank_eq_self hfirst, String.ofList_toList]

end Text

namespace Completion
open Text

variable {names : List String} {name line : String}

theorem mem_suggest : name ∈ suggest names line ↔
    name ∈ names ∧ (lower (stripLeft line)).toList <+: (lower name).toList := by
  rw [suggest, (List.mergeSort_perm ..).mem_iff, List.mem_filter, fits, List.isPrefixOf_iff_prefix]

theorem mem_offers {offer : Offer} : offer ∈ offers names line ↔
    offer.name ∈ suggest names line ∧ offer.replaced = (stripLeft line).length := by
  obtain ⟨name, replaced⟩ := offer
  simp [offers, eq_comm]

theorem accept_append {offer : Offer} {typed : String} (h : offer.replaced = typed.length)
    (before : String) : offer.accept (before ++ typed) = before ++ offer.name := by
  have hlength : (before ++ typed).length - typed.length = before.toList.length := by
    rw [String.length_append, Nat.add_sub_cancel, String.length_toList]
  rw [Offer.accept, h, hlength, String.toList_append, List.take_left]
  simp

/-- What is offered for the beginning of a registered name, white space standing before it or not,
and the line that comes of it. Each offer that is taken replaces all that was typed, the white space
apart; and the name is offered unless a word of it is broken off behind a capital sigma, which is
then taken for the end of the word. Nothing is broken off before the first character nor behind the
last. -/
theorem offers_prefix {α : Type} {r : Registry α} (built : r.Built) {typed rest blanks : String}
    (registered : typed ++ rest ∈ r.names) (blank : isBlankText blanks = true) :
    let offer : Offer := ⟨typed ++ rest, typed.length⟩
    let line := blanks ++ typed
    (offer ∈ offers r.names line ↔ breaksWordAtSigma typed.toList rest.toList = false) ∧
    (typed = "" ∨ rest = "" → offer ∈ offers r.names line) ∧
    ∀ o ∈ offers r.names line, o.accept line = blanks ++ o.name := by
  intro offer line
  have stripped : stripLeft line = typed := by
    obtain ⟨-, padless, -⟩ := Registry.checkName_eq_none_iff.mp (built.checkName_eq_none registered)
    exact stripLeft_append blank padless
  have offered : offer ∈ offers r.names line ↔
      breaksWordAtSigma typed.toList rest.toList = false := by
    rw [mem_offers, mem_suggest, stripped, lower_prefix_iff]
    exact ⟨fun h => h.1.2, fun h => ⟨⟨registered, h⟩, rfl⟩⟩
  refine ⟨offered, fun whole => offered.mpr ?_, fun o ho => ?_⟩
  · rcases whole with rfl | rfl
    · rfl
    · exact breaksWordAtSigma_nil _
  · obtain ⟨-, replaced⟩ := mem_offers.mp ho
    rw [stripped] at replaced
    exact accept_append replaced blanks

def mystery : Registry Unit := (Registry.empty false).insert "ΜΥΣΤΗΡΙΟ" ()

theorem built_mystery : mystery.Built := by
  have accepted : (Registry.empty false).register "ΜΥΣΤΗΡΙΟ" (.command ()) = .ok mystery := rfl
  exact .register (.empty false) accepted

theorem offers_prefix_mystery :
    "ΜΥΣΤ" ++ "ΗΡΙΟ" ∈ mystery.names ∧ isBlankText " \t" = true ∧
      ⟨"ΜΥΣΤΗΡΙΟ", 4⟩ ∈ offers mystery.names " \tΜΥΣΤ" ∧
      Offer.accept ⟨"ΜΥΣΤΗΡΙΟ", 4⟩ " \tΜΥΣΤ" = " \tΜΥΣΤΗΡΙΟ" := by
  have registered : "ΜΥΣΤ" ++ "ΗΡΙΟ" ∈ mystery.names := by decide
  have blank : isBlankText " \t" = true := by decide
  have unbroken : breaksWordAtSigma "ΜΥΣΤ".toList "ΗΡΙΟ".toList = false := by decide +kernel
  obtain ⟨offered, -, accepted⟩ := offers_prefix built_mystery registered blank
  have offered := offered.mpr unbroken
  exact ⟨registered, blank, offered, accepted _ offered⟩

/-- Up to the sigma nothing is offered: the sigma that ends what is typed is another letter in lower
case than the one in the name. -/
theorem offers_mystery_broken :
    mystery.Built ∧ "ΜΥΣ" ++ "ΤΗΡΙΟ" ∈ mystery.names ∧ lower "ΜΥΣ" = "μυς" ∧
      lower "ΜΥΣΤΗΡΙΟ" = "μυστηριο" ∧ offers mystery.names "ΜΥΣ" = [] :=
  ⟨built_mystery, by decide, by decide +kernel, by decide +kernel, by decide +kernel⟩

end Completion
end CommandShell
