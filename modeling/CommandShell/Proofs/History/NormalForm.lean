import CommandShell.Proofs.Files.Parent
import CommandShell.Proofs.History.RoundTrip

/-! The normal form of a history file: one record a line, each ended by a line feed, none of them
blank, and no more than the limit. A store that was loaded from any text saves it in that form, and
from then on loading and saving change nothing. -/

namespace CommandShell

namespace History
open Text

variable {h : History} {fs : Files}

theorem recorded_eq_self {lines : List String}
    (nonblank : ∀ line ∈ lines, isBlankText line = false) : recorded lines = lines :=
  List.filter_eq_self.mpr fun line hline => by simp [nonblank line hline]

theorem load_of_text {bytes : List UInt8} {content : String} (found : fs.read h.path = .ok bytes)
    (text : Utf8.decode bytes = .ok content) :
    h.load fs = .ok (some (recorded (splitLines content)).length,
      h.prepend (recorded (splitLines content))) := by
  rw [load, readRecords, found]
  simp only [text, recordsOf_eq]

theorem exists_save_of_read {bytes : List UInt8} (found : fs.read h.path = .ok bytes) :
    ∃ fs', h.save fs = (fs', none) ∧ fs'.read h.path = .ok (Utf8.encode h.content) := by
  obtain ⟨fs', saved⟩ := exists_save (Files.writable_of_read found)
  exact ⟨fs', saved, Files.read_writeBelow (save_eq_none saved)⟩

/-- A file that holds a text is loaded and saved. What is saved has for its lines the newest of the
lines that are not blank; loaded again it gives the same entries, all of them counted, and saved
again the same text. -/
theorem load_save_normal {path : String} {limit : Nat} (pos : 0 < limit) {bytes : List UInt8}
    {content : String} (found : fs.read path = .ok bytes) (text : Utf8.decode bytes = .ok content) :
    let fresh : History := ⟨path, limit, [], pos⟩
    let lines := (splitLines content).filter (!isBlankText ·)
    let store : History := { fresh with entries := newest limit lines }
    fresh.load fs = .ok (some lines.length, store) ∧
    splitLines store.content = newest limit lines ∧
    ∃ fs', store.save fs = (fs', none) ∧ fs'.read path = .ok (Utf8.encode store.content) ∧
      fresh.load fs' = .ok (some store.entries.length, store) ∧
      ∃ fs'', store.save fs' = (fs'', none) ∧
        fs''.read path = .ok (Utf8.encode store.content) := by
  intro fresh lines store
  have unbroken : ∀ entry ∈ store.entries, Unbroken entry := fun entry hentry =>
    unbroken_of_mem_splitLines (List.mem_filter.mp (newest_subset _ _ hentry)).1
  have nonblank : ∀ entry ∈ store.entries, isBlankText entry = false := fun entry hentry =>
    (mem_recorded.mp (newest_subset _ _ hentry)).2
  have split : splitLines store.content = store.entries := splitLines_join unbroken
  have loaded (records : List String) (kept : newest limit records = store.entries) :
      fresh.prepend records = store := by
    rw [prepend, List.append_nil, kept]
  have first : fresh.load fs = .ok (some lines.length, store) := by
    rw [load_of_text (h := fresh) found text, loaded (recorded (splitLines content)) rfl]
    rfl
  obtain ⟨fs', saved, read⟩ := exists_save_of_read (h := store) found
  have second : fresh.load fs' = .ok (some store.entries.length, store) := by
    have whole : newest limit store.entries = store.entries :=
      newest_eq_self (length_newest_le limit lines)
    rw [load_of_text (h := fresh) read (Utf8.decode_encode _), split, recorded_eq_self nonblank,
      loaded _ whole]
  exact ⟨first, split, fs', saved, read, second, exists_save_of_read (h := store) read⟩

theorem load_save_normal_mixed :
    let file := Utf8.encode "one\r\n two \r\t\nthree\x1c\u2028four"
    let fs : Files := ⟨[("/history", .file file)]⟩
    let fresh : History := ⟨"/history", 3, [], by decide⟩
    let store : History := { fresh with entries := [" two ", "three", "four"] }
    store.content = " two \nthree\nfour\n" ∧ fresh.load fs = .ok (some 4, store) ∧
      ∃ fs', store.save fs = (fs', none) ∧
        fs'.read "/history" = .ok (Utf8.encode " two \nthree\nfour\n") ∧
        fresh.load fs' = .ok (some 3, store) := by
  intro file fs fresh store
  have content : store.content = " two \nthree\nfour\n" := by decide
  have lines : (splitLines "one\r\n two \r\t\nthree\x1c\u2028four").filter (!isBlankText ·) =
      ["one", " two ", "three", "four"] := by decide
  have found : fs.read "/history" = .ok file := rfl
  have normal := load_save_normal (show 0 < 3 by decide) found
    (Utf8.decode_encode "one\r\n two \r\t\nthree\x1c\u2028four")
  rw [lines] at normal
  obtain ⟨loaded, -, fs', saved, read, again, -⟩ := normal
  exact ⟨content, loaded, fs', saved, content ▸ read, again⟩

end History
end CommandShell
