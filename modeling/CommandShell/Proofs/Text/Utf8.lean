import CommandShell.Text.Utf8
import Mathlib.Data.List.TakeWhile

/-! Reading back what was written. The bytes of a text are those of its characters, one after the
other, and decoding takes them off in the same order. -/

namespace CommandShell.Text.Utf8

theorem isContinuation_iff (b : UInt8) :
    isContinuation b = true ↔ 128 ≤ b.toNat ∧ b.toNat ≤ 191 := by
  simp [isContinuation, UInt8.le_iff_toNat_le]

theorem sequenceLength_eq (b : UInt8) :
    sequenceLength b =
      if b.toNat < 128 then some 1
      else if 194 ≤ b.toNat ∧ b.toNat ≤ 223 then some 2
      else if 224 ≤ b.toNat ∧ b.toNat ≤ 239 then some 3
      else if 240 ≤ b.toNat ∧ b.toNat ≤ 244 then some 4
      else none := by
  simp [sequenceLength, UInt8.le_iff_toNat_le, UInt8.lt_iff_toNat_lt]

theorem fitsSecond_iff (first second : UInt8) :
    fitsSecond first second = true ↔ isContinuation second = true ∧
      (first.toNat = 224 → 160 ≤ second.toNat) ∧ (first.toNat = 237 → second.toNat < 160) ∧
      (first.toNat = 240 → 144 ≤ second.toNat) ∧ (first.toNat = 244 → second.toNat < 144) := by
  simp [fitsSecond, UInt8.le_iff_toNat_le, UInt8.lt_iff_toNat_lt, ← UInt8.toNat_inj, and_assoc,
    imp_iff_not_or]

theorem step_of_fits {first : UInt8} (tail : List UInt8) {size : Nat}
    (hsize : sequenceLength first = some size) (hlength : tail.length + 1 = size)
    (hsecond : ∀ b ∈ tail.head?, fitsSecond first b = true)
    (htail : ∀ b ∈ tail, isContinuation b = true) (rest : List UInt8) :
    step first (tail ++ rest) = .ok (Char.ofNat (tail.foldl (fun n b => n * 64 + b.toNat % 64)
      (first.toNat % if size == 1 then 128 else Nat.pow 2 (7 - size))), size) := by
  have hgood : goodTail first (size - 1) (tail ++ rest) = tail.length := by
    subst hlength
    cases tail with
    | nil => cases rest <;> simp [goodTail]
    | cons second more =>
      have hfits := hsecond second rfl
      have hmore : more.takeWhile isContinuation = more := by
        rw [List.takeWhile_eq_self_iff]
        exact fun b hb => htail b (List.mem_cons_of_mem second hb)
      simp [goodTail, hfits, hmore, Nat.add_comm]
  have hequal : tail.length = size - 1 := by omega
  simp [step, hsize, hgood, hequal]

def tailByte (n : Nat) : UInt8 := UInt8.ofNat (n % 64 + 128)

theorem toNat_tailByte (n : Nat) : (tailByte n).toNat = n % 64 + 128 := by
  rw [tailByte, UInt8.toNat_ofNat']
  omega

theorem isContinuation_tailByte (n : Nat) : isContinuation (tailByte n) = true := by
  rw [isContinuation_iff, toNat_tailByte]
  omega

theorem step_tailBytes {first : UInt8} {second : Nat} (more : List Nat)
    (hsize : sequenceLength first = some (more.length + 2))
    (hsecond : fitsSecond first (tailByte second) = true) (rest : List UInt8) :
    step first ((second :: more).map tailByte ++ rest) =
      .ok (Char.ofNat ((second :: more).foldl (fun n d => n * 64 + d % 64)
        (first.toNat % Nat.pow 2 (5 - more.length))), more.length + 2) := by
  have htail : ∀ b ∈ (second :: more).map tailByte, isContinuation b = true := by
    intro b hb
    obtain ⟨n, -, rfl⟩ := List.mem_map.mp hb
    exact isContinuation_tailByte n
  have hstep := step_of_fits _ hsize (by simp) (by simpa using hsecond) htail rest
  have hbits : 7 - (more.length + 2) = 5 - more.length := by omega
  have hdigit (d : Nat) : (d % 64 + 128) % 64 = d % 64 := by omega
  simpa [List.foldl_map, toNat_tailByte, hbits, hdigit] using hstep

theorem step_one {n : Nat} (h : n ≤ 127) (rest : List UInt8) :
    step (UInt8.ofNat n) rest = .ok (Char.ofNat n, 1) := by
  have hfirst : (UInt8.ofNat n).toNat = n := by
    rw [UInt8.toNat_ofNat']
    omega
  have hsize : sequenceLength (UInt8.ofNat n) = some 1 := by
    rw [sequenceLength_eq, hfirst, if_pos (by omega)]
  have hstep := step_of_fits [] hsize rfl (by simp) (by simp) rest
  simpa [hfirst, Nat.mod_eq_of_lt (show n < 128 by omega)] using hstep

theorem step_two {n : Nat} (low : 128 ≤ n) (high : n ≤ 2047) (rest : List UInt8) :
    step (UInt8.ofNat (n / 64 % 32 + 192)) (tailByte n :: rest) = .ok (Char.ofNat n, 2) := by
  have hfirst : (UInt8.ofNat (n / 64 % 32 + 192)).toNat = n / 64 + 192 := by
    rw [UInt8.toNat_ofNat']
    omega
  have hsize : sequenceLength (UInt8.ofNat (n / 64 % 32 + 192)) = some 2 := by
    rw [sequenceLength_eq, hfirst, if_neg (by omega), if_pos (by omega)]
  have hsecond : fitsSecond (UInt8.ofNat (n / 64 % 32 + 192)) (tailByte n) = true := by
    rw [fitsSecond_iff, hfirst]
    exact ⟨isContinuation_tailByte n, by omega⟩
  have hcode : (n / 64 + 192) % 32 * 64 + n % 64 = n := by omega
  simpa [hfirst, hcode] using step_tailBytes [] hsize hsecond rest

theorem step_three {n : Nat} (low : 2048 ≤ n) (high : n ≤ 65535)
    (valid : n < 55296 ∨ 57343 < n) (rest : List UInt8) :
    step (UInt8.ofNat (n / 4096 % 16 + 224)) (tailByte (n / 64) :: tailByte n :: rest) =
      .ok (Char.ofNat n, 3) := by
  have hfirst : (UInt8.ofNat (n / 4096 % 16 + 224)).toNat = n / 4096 + 224 := by
    rw [UInt8.toNat_ofNat']
    omega
  have hsize : sequenceLength (UInt8.ofNat (n / 4096 % 16 + 224)) = some 3 := by
    rw [sequenceLength_eq, hfirst, if_neg (by omega), if_neg (by omega), if_pos (by omega)]
  have hsecond : fitsSecond (UInt8.ofNat (n / 4096 % 16 + 224)) (tailByte (n / 64)) = true := by
    rw [fitsSecond_iff, hfirst, toNat_tailByte]
    exact ⟨isContinuation_tailByte _, by omega⟩
  have hcode : ((n / 4096 + 224) % 16 * 64 + n / 64 % 64) * 64 + n % 64 = n := by omega
  simpa [hfirst, hcode] using step_tailBytes [n] hsize hsecond rest

theorem step_four {n : Nat} (low : 65536 ≤ n) (high : n < 1114112) (rest : List UInt8) :
    step (UInt8.ofNat (n / 262144 % 8 + 240))
      (tailByte (n / 4096) :: tailByte (n / 64) :: tailByte n :: rest) = .ok (Char.ofNat n, 4) := by
  have hfirst : (UInt8.ofNat (n / 262144 % 8 + 240)).toNat = n / 262144 + 240 := by
    rw [UInt8.toNat_ofNat']
    omega
  have hsize : sequenceLength (UInt8.ofNat (n / 262144 % 8 + 240)) = some 4 := by
    rw [sequenceLength_eq, hfirst, if_neg (by omega), if_neg (by omega), if_neg (by omega),
      if_pos (by omega)]
  have hsecond : fitsSecond (UInt8.ofNat (n / 262144 % 8 + 240)) (tailByte (n / 4096)) = true := by
    rw [fitsSecond_iff, hfirst, toNat_tailByte]
    exact ⟨isContinuation_tailByte _, by omega⟩
  have hcode : (((n / 262144 + 240) % 8 * 64 + n / 4096 % 64) * 64 + n / 64 % 64) * 64 + n % 64 =
      n := by omega
  simpa [hfirst, hcode] using step_tailBytes [n / 64, n] hsize hsecond rest

theorem exists_step_utf8EncodeChar (c : Char) :
    ∃ first tail, String.utf8EncodeChar c = first :: tail ∧
      ∀ rest, step first (tail ++ rest) = .ok (c, tail.length + 1) := by
  have hvalid : c.val.toNat < 55296 ∨ 57343 < c.val.toNat ∧ c.val.toNat < 1114112 := c.valid
  have hc : Char.ofNat c.val.toNat = c := Char.ofNat_toNat c
  unfold String.utf8EncodeChar
  generalize c.val.toNat = n at hvalid hc
  dsimp only
  rw [← hc]
  split
  · next h => exact ⟨_, [], rfl, step_one h⟩
  · split
    · next h => exact ⟨_, [tailByte n], rfl, step_two (by omega) h⟩
    · split
      · next h =>
        exact ⟨_, [tailByte (n / 64), tailByte n], rfl, step_three (by omega) h (by omega)⟩
      · exact ⟨_, [tailByte (n / 4096), tailByte (n / 64), tailByte n], rfl,
          step_four (by omega) (by omega)⟩

theorem decodeFrom_append (position : Nat) (skipped rest : List UInt8) :
    decodeFrom position skipped.length (skipped ++ rest) =
      decodeFrom (position + skipped.length) 0 rest := by
  induction skipped generalizing position with
  | nil => rfl
  | cons b skipped ih =>
    rw [List.cons_append, List.length_cons, decodeFrom, ih, Nat.add_assoc, Nat.add_comm 1]

theorem decodeFrom_encode (position : Nat) (cs : List Char) :
    decodeFrom position 0 (cs.flatMap String.utf8EncodeChar) = (cs, none) := by
  induction cs generalizing position with
  | nil => rfl
  | cons c cs ih =>
    obtain ⟨first, tail, hbytes, hstep⟩ := exists_step_utf8EncodeChar c
    rw [List.flatMap_cons, hbytes, List.cons_append, decodeFrom, hstep]
    simp only [Nat.add_sub_cancel, decodeFrom_append, ih]

theorem toList_loop_eq (bytes : ByteArray) (i : Nat) (done : List UInt8) :
    ByteArray.toList.loop bytes i done = done.reverse ++ bytes.data.toList.drop i := by
  induction i, done using ByteArray.toList.loop.induct bytes with
  | case1 i done h ih =>
    have hi : i < bytes.data.toList.length := by simpa using h
    have hget : bytes.get! i = bytes.data.toList[i] := by
      simp [ByteArray.get!, getElem!_pos bytes.data i (by simpa using hi)]
    rw [ByteArray.toList.loop, if_pos h, ih, List.drop_eq_getElem_cons hi, hget]
    simp
  | case2 i done h =>
    have hi : bytes.data.toList.length ≤ i := by simpa using h
    rw [ByteArray.toList.loop, if_neg h, List.drop_eq_nil_of_le hi, List.append_nil]

theorem encode_eq (s : String) : encode s = s.toList.flatMap String.utf8EncodeChar := by
  rw [encode, String.toUTF8, ← String.utf8Encode_toList, List.utf8Encode, ByteArray.toList,
    toList_loop_eq, List.toList_data_toByteArray]
  rfl

theorem decode_encode (s : String) : decode (encode s) = .ok s := by
  rw [decode, decodePrefix, encode_eq, decodeFrom_encode]
  simp

end CommandShell.Text.Utf8
