import Interchain.Proofs.Text.Utf8
import Interchain.Text.Hex

/-!
# Byte strings are read back from their digits

Digits are characters of ASCII, so the bytes of a text of digits are those of the
digits one by one, and they are read in pairs.
-/

namespace Interchain.Hex

/-- The byte of a digit stands for the digit's value. -/
theorem value?_digit {n : Nat} (h : n < 16) :
    String.utf8EncodeChar (digit n) = [UInt8.ofNat (digit n).toNat] ∧
      value? (UInt8.ofNat (digit n).toNat) = some n := by
  have hall : ∀ n < 16, String.utf8EncodeChar (digit n) = [UInt8.ofNat (digit n).toNat] ∧
      value? (UInt8.ofNat (digit n).toNat) = some n := by decide
  exact hall n h

theorem readDigit_digit {n : Nat} (h : n < 16) (position : Nat) :
    readDigit position (UInt8.ofNat (digit n).toNat) = .ok n := by
  rw [readDigit, (value?_digit h).2]

/-- The bytes of the digits of a byte string. -/
def digitBytes (bytes : List UInt8) : List UInt8 :=
  bytes.flatMap fun b =>
    [UInt8.ofNat (digit (b.toNat / 16)).toNat, UInt8.ofNat (digit (b.toNat % 16)).toNat]

theorem flatMap_digits (bytes : List UInt8) :
    (digits bytes).flatMap String.utf8EncodeChar = digitBytes bytes := by
  induction bytes with
  | nil => rfl
  | cons b bytes ih =>
    have hb := b.toNat_lt
    have hh := (value?_digit (show b.toNat / 16 < 16 by omega)).1
    have hl := (value?_digit (show b.toNat % 16 < 16 by omega)).1
    rw [digits, digitBytes] at *
    simp only [List.flatMap_cons, List.cons_append, List.nil_append, hh, hl, ih]

theorem length_digitBytes (bytes : List UInt8) : (digitBytes bytes).length = 2 * bytes.length := by
  induction bytes with
  | nil => rfl
  | cons b bytes ih =>
    rw [digitBytes] at *
    simp only [List.flatMap_cons, List.length_append, List.length_cons, List.length_nil, ih]
    omega

theorem readPairs_digitBytes (bytes : List UInt8) (position : Nat) :
    readPairs position (digitBytes bytes) = .ok bytes := by
  induction bytes generalizing position with
  | nil => rfl
  | cons b bytes ih =>
    have hb := b.toNat_lt
    have hh : b.toNat / 16 < 16 := by omega
    have hl : b.toNat % 16 < 16 := by omega
    have hsum : 16 * (b.toNat / 16) + b.toNat % 16 = b.toNat := by omega
    change (do
      let h ← readDigit position (UInt8.ofNat (digit (b.toNat / 16)).toNat)
      let l ← readDigit (position + 1) (UInt8.ofNat (digit (b.toNat % 16)).toNat)
      let bytes ← readPairs (position + 2) (digitBytes bytes)
      return UInt8.ofNat (16 * h + l) :: bytes) = _
    rw [readDigit_digit hh, readDigit_digit hl, ih]
    simp [bind, Except.bind, pure, Except.pure, hsum]

/-- A byte string is read back from its digits. -/
theorem decode_encode (bytes : List UInt8) : decode (encode bytes) = .ok bytes := by
  have heven : (digitBytes bytes).length % 2 ≠ 1 := by
    rw [length_digitBytes]
    omega
  rw [decode, encode, Utf8.toList_toUTF8, String.toList_ofList, flatMap_digits, decodeBytes,
    if_neg heven, readPairs_digitBytes]

end Interchain.Hex
