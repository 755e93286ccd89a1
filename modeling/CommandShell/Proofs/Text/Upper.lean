import CommandShell.Text.Case
import Mathlib.Data.List.Basic

/-! Upper case is final. Whatever character is in the upper case of a text is its own upper case, so
that names that are compared in upper case may be mapped again and again. The runs and expansions of
the case table are taken apart once, run by run, and not code by code. -/

namespace CommandShell.Text

def isCapital (c : Char) : Bool := upperChar c == [c]

namespace CaseRun

def moved (run : CaseRun) : CaseRun :=
  ⟨(run.first + run.shift).toNat, (run.last + run.shift).toNat, run.step, 0⟩

def hasParity (run : CaseRun) : Bool := Nat.beq (run.step % 2) 0 || Nat.beq run.first run.last

/-- No code is in both runs: one ends before the other begins, or their parities differ. -/
def isApart (a b : CaseRun) : Bool :=
  Nat.blt a.last b.first || Nat.blt b.last a.first ||
    (Nat.beq ((a.first + b.first) % 2) 1 && a.hasParity && b.hasParity)

/-- What a run moves to are capitals: one of ASCII, or codes that no part of the table moves. -/
def isSettled (run : CaseRun) : Bool :=
  let image := run.moved
  0 ≤ run.first + run.shift &&
    (image.last < 128 && image.first == image.last && isCapital (Char.ofNat image.first) ||
      (128 ≤ image.first && (image.last < 0xD800 || 0xDFFF < image.first && image.last < 0x110000) &&
        upperRuns.all image.isApart &&
        upperExpansions.all fun p => image.isApart ⟨p.1, p.1, 1, 0⟩))

theorem covers_iff {run : CaseRun} {n : Nat} :
    run.covers n = true ↔ run.first ≤ n ∧ n ≤ run.last ∧ (n - run.first) % run.step = 0 := by
  simp [covers, and_assoc]

theorem parity_of_covers {run : CaseRun} (parity : run.hasParity = true) {n : Nat}
    (h : run.covers n = true) : n % 2 = run.first % 2 := by
  obtain ⟨hfirst, hlast, hstep⟩ := covers_iff.mp h
  simp only [hasParity, Bool.or_eq_true, Nat.beq_eq] at parity
  rcases parity with even | single
  · have : 2 ∣ n - run.first :=
      Nat.dvd_trans (Nat.dvd_of_mod_eq_zero even) (Nat.dvd_of_mod_eq_zero hstep)
    omega
  · omega

theorem covers_of_isApart {a b : CaseRun} (apart : a.isApart b = true) {n : Nat}
    (h : a.covers n = true) : b.covers n = false := by
  by_contra hb
  have hb : b.covers n = true := by simpa using hb
  obtain ⟨ha₁, ha₂, -⟩ := covers_iff.mp h
  obtain ⟨hb₁, hb₂, -⟩ := covers_iff.mp hb
  simp only [isApart, Bool.or_eq_true, Bool.and_eq_true, Nat.blt_eq, Nat.beq_eq] at apart
  rcases apart with (before | behind) | ⟨⟨odd, parity⟩, parity'⟩
  · omega
  · omega
  · have := parity_of_covers parity h
    have := parity_of_covers parity' hb
    omega

theorem covers_moved {run : CaseRun} (nonneg : 0 ≤ run.first + run.shift) {n : Nat}
    (h : run.covers n = true) : run.moved.covers (Int.ofNat n + run.shift).toNat = true := by
  obtain ⟨hfirst, hlast, hstep⟩ := covers_iff.mp h
  refine covers_iff.mpr ⟨?_, ?_, ?_⟩
  · simp only [moved, Int.ofNat_eq_natCast]
    omega
  · simp only [moved, Int.ofNat_eq_natCast]
    omega
  · have hdistance : (Int.ofNat n + run.shift).toNat - (run.first + run.shift).toNat =
        n - run.first := by
      simp only [Int.ofNat_eq_natCast]
      omega
    simpa only [moved, hdistance] using hstep

theorem isSettled_of_mem : ∀ run ∈ upperRuns, run.isSettled = true :=
  List.all_eq_true.mp (by decide +kernel)

end CaseRun

theorem isCapital_of_mem_expansion :
    ∀ p ∈ upperExpansions, ∀ code ∈ p.2, isCapital (Char.ofNat code) = true := by
  have checked : (upperExpansions.all fun p => p.2.all fun code => isCapital (Char.ofNat code)) =
      true := by decide +kernel
  simpa [List.all_eq_true] using checked

theorem isCapital_toUpper : ∀ code < 128, isCapital (Char.ofNat code).toUpper = true := by
  decide +kernel

theorem isCapital_of_unmoved {code : Nat} (valid : code.isValidChar) (ascii : 128 ≤ code)
    (unmoved : ∀ run ∈ upperRuns, run.covers code = false)
    (unexpanded : ∀ p ∈ upperExpansions, p.1 ≠ code) : isCapital (Char.ofNat code) = true := by
  have hcode : (Char.ofNat code).toNat = code := by
    rw [Char.ofNat, dif_pos valid]
    rfl
  have hlookup : upperExpansions.lookup code = none := by
    rw [List.lookup_eq_none_iff]
    exact fun p hp => by simpa using (unexpanded p hp).symm
  have hfind : upperRuns.find? (·.covers code) = none :=
    List.find?_eq_none.mpr fun run hrun => by simp [unmoved run hrun]
  rw [isCapital, upperChar, hcode, if_neg (by omega), hlookup]
  simp [shiftBy, hfind]

theorem CaseRun.isCapital_moved {run : CaseRun} (hrun : run ∈ upperRuns) {n : Nat}
    (h : run.covers n = true) : isCapital (Char.ofNat (Int.ofNat n + run.shift).toNat) = true := by
  have settled := isSettled_of_mem run hrun
  simp only [isSettled, Bool.and_eq_true, Bool.or_eq_true, decide_eq_true_eq, beq_iff_eq,
    List.all_eq_true] at settled
  obtain ⟨nonneg, settled⟩ := settled
  have hmoved := covers_moved nonneg h
  obtain ⟨hfirst, hlast, -⟩ := covers_iff.mp hmoved
  rcases settled with ⟨⟨-, single⟩, capital⟩ | ⟨⟨⟨ascii, valid⟩, runs⟩, expansions⟩
  · have hcode : (Int.ofNat n + run.shift).toNat = run.moved.first := by omega
    rwa [hcode]
  · refine isCapital_of_unmoved ?_ (by omega) (fun other hother => ?_) fun p hp heq => ?_
    · rw [Nat.isValidChar]
      omega
    · exact covers_of_isApart (runs other hother) hmoved
    · have free := covers_of_isApart (expansions p hp) hmoved
      simp [covers, heq] at free

theorem isCapital_of_mem_upperChar {c d : Char} (h : d ∈ upperChar c) : isCapital d = true := by
  unfold upperChar at h
  split at h
  · next ascii =>
    obtain rfl : d = c.toUpper := by simpa using h
    have := isCapital_toUpper c.toNat ascii
    rwa [Char.ofNat_toNat] at this
  · next ascii =>
    split at h
    · next codes found =>
      obtain ⟨code, hcode, rfl⟩ := List.mem_map.mp h
      obtain ⟨before, after, htable, -⟩ := List.lookup_eq_some_iff.mp found
      have hp : (c.toNat, codes) ∈ upperExpansions := by simp [htable]
      exact isCapital_of_mem_expansion _ hp code hcode
    · next unexpanded =>
      obtain rfl : d = Char.ofNat (shiftBy upperRuns c.toNat) := by simpa using h
      cases hfind : upperRuns.find? (·.covers c.toNat) with
      | some run =>
        have covered := List.find?_some hfind
        have moved := CaseRun.isCapital_moved (List.mem_of_find?_eq_some hfind) covered
        simpa only [shiftBy, hfind] using moved
      | none => simp [isCapital, upperChar, ascii, unexpanded, shiftBy, hfind]

theorem flatMap_upperChar {cs : List Char} (h : ∀ c ∈ cs, isCapital c = true) :
    cs.flatMap upperChar = cs := by
  induction cs with
  | nil => rfl
  | cons c rest ih =>
    obtain ⟨hc, hrest⟩ := List.forall_mem_cons.mp h
    rw [List.flatMap_cons, beq_iff_eq.mp hc, ih hrest]
    rfl

theorem upper_upper (s : String) : upper (upper s) = upper s := by
  have capitals : ∀ c ∈ s.toList.flatMap upperChar, isCapital c = true := by
    intro c hc
    obtain ⟨d, -, hd⟩ := List.mem_flatMap.mp hc
    exact isCapital_of_mem_upperChar hd
  rw [upper, upper, String.toList_ofList, flatMap_upperChar capitals]

end CommandShell.Text
