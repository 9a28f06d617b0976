import Interchain.Text.Utf8
import Mathlib.Tactic.SplitIfs

/-!
# Texts are read back from their bytes

A character is written as one to four bytes, by its size.  The first of them tells how
many there are and within which bounds the second one lies, so the character is read
in one step, whatever comes after it.
-/

namespace Interchain.Utf8

/-- Bytes are listed from some place on, behind those that were listed in reverse. -/
theorem loop_of_remaining {bytes : ByteArray} {left place : Nat} (h : place + left = bytes.size)
    (listed : List UInt8) :
    ByteArray.toList.loop bytes place listed =
      listed.reverse ++ bytes.data.toList.drop place := by
  induction left generalizing place listed with
  | zero =>
    have hend : ¬ place < bytes.size := by omega
    have hnone : bytes.data.toList.drop place = [] := by
      simpa using Nat.le_of_not_lt hend
    rw [ByteArray.toList.loop, if_neg hend, hnone, List.append_nil]
  | succ left ih =>
    have hplace : place < bytes.size := by omega
    have hbyte : bytes.get! place = bytes.data[place] := by
      obtain ⟨data⟩ := bytes
      exact getElem!_pos data place hplace
    have hdrop := List.drop_eq_getElem_cons (l := bytes.data.toList) (i := place) hplace
    rw [ByteArray.toList.loop, if_pos hplace, ih (by omega), hdrop, hbyte, List.reverse_cons,
      List.append_assoc]
    rfl

/-- The bytes of a text are those of its characters. -/
theorem toList_toUTF8 (s : String) :
    s.toUTF8.toList = s.toList.flatMap String.utf8EncodeChar := by
  have hloop : s.toUTF8.toList = s.toUTF8.data.toList := by
    rw [ByteArray.toList, loop_of_remaining (Nat.zero_add _)]
    rfl
  have hs : s.toUTF8 = s.toList.utf8Encode := String.utf8Encode_toList.symm
  rw [hloop, hs, List.utf8Encode, List.toList_data_toByteArray]

theorem toNat_ofNat {n : Nat} (h : n < 256) : (UInt8.ofNat n).toNat = n := by
  simp; omega

/-- A byte after the first. -/
def tail (n : Nat) : UInt8 := UInt8.ofNat (n % 64 + 0x80)

@[simp] theorem toNat_tail (n : Nat) : (tail n).toNat = n % 64 + 0x80 :=
  toNat_ofNat (by omega)

@[simp] theorem tailBits_tail (n : Nat) : tailBits (tail n) = n % 64 := by
  rw [tailBits, toNat_tail]
  omega

@[simp] theorem isTail_tail (n : Nat) : isTail (tail n) = true := by
  simp [isTail, UInt8.le_iff_toNat_le]
  omega

/-- The bytes of a character, by its size. -/
theorem encodeChar_eq (c : Char) : String.utf8EncodeChar c =
    if c.toNat ≤ 0x7f then [UInt8.ofNat c.toNat]
    else if c.toNat ≤ 0x7ff then [UInt8.ofNat (c.toNat / 64 % 32 + 0xc0), tail c.toNat]
    else if c.toNat ≤ 0xffff then
      [UInt8.ofNat (c.toNat / 4096 % 16 + 0xe0), tail (c.toNat / 64), tail c.toNat]
    else
      [UInt8.ofNat (c.toNat / 262144 % 8 + 0xf0), tail (c.toNat / 4096), tail (c.toNat / 64),
        tail c.toNat] := rfl

theorem step_two {v : Nat} (hl : 0x7f < v) (hh : v ≤ 0x7ff) (rest : List UInt8) :
    step (UInt8.ofNat (v / 64 % 32 + 0xc0)) (tail v :: rest) = (1, Char.ofNat v) := by
  have hb : (UInt8.ofNat (v / 64 % 32 + 0xc0)).toNat = v / 64 + 0xc0 := by
    rw [toNat_ofNat (by omega)]; omega
  generalize UInt8.ofNat (v / 64 % 32 + 0xc0) = b at *
  have hlead : lead? b = some (0x80, 0xBF, 1) := by
    simp [lead?, UInt8.le_iff_toNat_le, hb]
    omega
  have hv : b.toNat % 32 * 64 + v % 64 = v := by omega
  have hs : ¬ b < 0x80 := by simp [UInt8.lt_iff_toNat_lt, hb]
  have ht : 0x80 ≤ tail v ∧ tail v ≤ 0xBF := by simp [UInt8.le_iff_toNat_le]; omega
  simp [step, hlead, hs, ht, hv]

theorem step_three {v : Nat} (hl : 0x7ff < v) (hh : v ≤ 0xffff) (hv : v < 0xD800 ∨ 0xDFFF < v)
    (rest : List UInt8) :
    step (UInt8.ofNat (v / 4096 % 16 + 0xe0)) (tail (v / 64) :: tail v :: rest) =
      (2, Char.ofNat v) := by
  have hb : (UInt8.ofNat (v / 4096 % 16 + 0xe0)).toNat = v / 4096 + 0xe0 := by
    rw [toNat_ofNat (by omega)]
    omega
  generalize UInt8.ofNat (v / 4096 % 16 + 0xe0) = b at *
  obtain ⟨low, high, hlead, hlow, hhigh⟩ : ∃ low high, lead? b = some (low, high, 2) ∧
      low ≤ tail (v / 64) ∧ tail (v / 64) ≤ high := by
    by_cases hfirst : v < 0x1000
    · refine ⟨0xA0, 0xBF, ?_, ?_⟩
      · have : b = 0xE0 := UInt8.toNat_inj.mp (by rw [hb]; simp; omega)
        subst this
        rfl
      · simp [UInt8.le_iff_toNat_le]
        omega
    · by_cases hsecond : 0xD000 ≤ v ∧ v < 0xE000
      · refine ⟨0x80, 0x9F, ?_, ?_⟩
        · have : b = 0xED := UInt8.toNat_inj.mp (by rw [hb]; simp; omega)
          subst this
          rfl
        · simp [UInt8.le_iff_toNat_le]
          omega
      · refine ⟨0x80, 0xBF, ?_, ?_⟩
        · simp only [lead?, UInt8.le_iff_toNat_le, ← UInt8.toNat_inj, hb, UInt8.reduceToNat]
          rw [if_neg (by omega), if_neg (by omega), if_neg (by omega), if_pos (by omega)]
        · simp [UInt8.le_iff_toNat_le]
          omega
  have hv : (b.toNat % 16 * 64 + v / 64 % 64) * 64 + v % 64 = v := by omega
  have hs : ¬ b < 0x80 := by simp [UInt8.lt_iff_toNat_lt, hb]
  simp [step, hlead, hs, hlow, hhigh, hv]

theorem step_four {v : Nat} (hl : 0xffff < v) (hh : v ≤ 0x10ffff) (rest : List UInt8) :
    step (UInt8.ofNat (v / 262144 % 8 + 0xf0))
        (tail (v / 4096) :: tail (v / 64) :: tail v :: rest) = (3, Char.ofNat v) := by
  have hb : (UInt8.ofNat (v / 262144 % 8 + 0xf0)).toNat = v / 262144 + 0xf0 := by
    rw [toNat_ofNat (by omega)]
    omega
  generalize UInt8.ofNat (v / 262144 % 8 + 0xf0) = b at *
  obtain ⟨low, high, hlead, hlow, hhigh⟩ : ∃ low high, lead? b = some (low, high, 3) ∧
      low ≤ tail (v / 4096) ∧ tail (v / 4096) ≤ high := by
    by_cases hfirst : v < 0x40000
    · refine ⟨0x90, 0xBF, ?_, ?_⟩
      · have : b = 0xF0 := UInt8.toNat_inj.mp (by rw [hb]; simp; omega)
        subst this
        rfl
      · simp [UInt8.le_iff_toNat_le]
        omega
    · by_cases hlast : 0x100000 ≤ v
      · refine ⟨0x80, 0x8F, ?_, ?_⟩
        · have : b = 0xF4 := UInt8.toNat_inj.mp (by rw [hb]; simp; omega)
          subst this
          rfl
        · simp [UInt8.le_iff_toNat_le]
          omega
      · refine ⟨0x80, 0xBF, ?_, ?_⟩
        · simp only [lead?, UInt8.le_iff_toNat_le, ← UInt8.toNat_inj, hb, UInt8.reduceToNat]
          rw [if_neg (by omega), if_neg (by omega), if_neg (by omega), if_neg (by omega),
            if_neg (by omega), if_pos (by omega)]
        · simp [UInt8.le_iff_toNat_le]
          omega
  have hv : ((b.toNat % 8 * 64 + v / 4096 % 64) * 64 + v / 64 % 64) * 64 + v % 64 = v := by omega
  have hs : ¬ b < 0x80 := by simp [UInt8.lt_iff_toNat_lt, hb]
  simp [step, hlead, hs, hlow, hhigh, hv]

theorem decode_cons {b : UInt8} {rest : List UInt8} {n : Nat} {c : Char}
    (h : step b rest = (n, c)) : decode (b :: rest) = c :: decode (rest.drop n) := by
  rw [decode, h]

/-- A character in front is read from its bytes. -/
theorem decode_encode (c : Char) (rest : List UInt8) :
    decode (String.utf8EncodeChar c ++ rest) = c :: decode rest := by
  have hc : Char.ofNat c.toNat = c := Char.ofNat_toNat c
  have hvalid : c.toNat < 0xD800 ∨ 0xDFFF < c.toNat ∧ c.toNat < 0x110000 := c.valid
  rw [encodeChar_eq]
  split_ifs with hone htwo hthree
  · have hb : (UInt8.ofNat c.toNat).toNat = c.toNat := toNat_ofNat (by omega)
    have hlt : UInt8.ofNat c.toNat < 0x80 := by
      simp [UInt8.lt_iff_toNat_lt, hb]
      omega
    have hs : step (UInt8.ofNat c.toNat) rest = (0, c) := by
      unfold step
      rw [if_pos hlt, hb, hc]
    exact decode_cons hs
  · have hs := step_two (by omega) htwo rest
    rw [hc] at hs
    exact decode_cons hs
  · have hs := step_three (by omega) hthree (by omega) rest
    rw [hc] at hs
    exact decode_cons hs
  · have hs := step_four (v := c.toNat) (by omega) (by omega) rest
    rw [hc] at hs
    exact decode_cons hs

theorem decode_flatMap (cs : List Char) : decode (cs.flatMap String.utf8EncodeChar) = cs := by
  induction cs with
  | nil => simp [decode]
  | cons c cs ih => rw [List.flatMap_cons, decode_encode, ih]

/-- A text is read back from its bytes. -/
@[simp] theorem text_toUTF8 (s : String) : text s.toUTF8.toList = s := by
  rw [text, toList_toUTF8, decode_flatMap, String.ofList_toList]

end Interchain.Utf8
