import Interchain.Proofs.Text.Utf8
import Mathlib.Data.String.Basic

/-!
# The order of texts is that of their bytes

Texts are compared character by character, and characters by their code points.  Of two
characters the greater has the greater first byte, or the first bytes are equal and those
after them are the digits in base 64 of what is left.  So texts stand in the same order when
they are compared byte by byte.
-/

namespace Interchain.Utf8

/-- Whatever follows, the first bytes come before the second. -/
def Precedes (as bs : List UInt8) : Prop :=
  ∀ x y : List UInt8, as ++ x < bs ++ y

theorem precedes_of_head {a b : UInt8} (h : a < b) (as bs : List UInt8) :
    Precedes (a :: as) (b :: bs) := by
  intro x y
  exact List.cons_lt_cons_iff.mpr (.inl h)

theorem Precedes.cons {as bs : List UInt8} (h : Precedes as bs) (a : UInt8) :
    Precedes (a :: as) (a :: bs) := by
  intro x y
  exact List.cons_lt_cons_iff.mpr (.inr ⟨rfl, h x y⟩)

/-! ## Characters -/

/-- How many bytes a character has after the first. -/
def width (v : Nat) : Nat :=
  if v ≤ 0x7f then 0 else if v ≤ 0x7ff then 1 else if v ≤ 0xffff then 2 else 3

/-- The first byte of a character with so many bytes after it, but for the bits of the
character. -/
def leadMark : Nat → Nat
  | 0 => 0
  | 1 => 0xc0
  | 2 => 0xe0
  | _ => 0xf0

/-- The first byte of a character. -/
def lead (v : Nat) : Nat := leadMark (width v) + v / 64 ^ width v

/-- The bytes after the first: the last digits in base 64. -/
def tails : Nat → Nat → List UInt8
  | 0, _ => []
  | k + 1, v => tail (v / 64 ^ k) :: tails k v

theorem encodeChar_eq_lead (c : Char) :
    String.utf8EncodeChar c = UInt8.ofNat (lead c.toNat) :: tails (width c.toNat) c.toNat := by
  have hvalid : c.toNat < 0xD800 ∨ 0xDFFF < c.toNat ∧ c.toNat < 0x110000 := c.valid
  rw [encodeChar_eq, lead, width]
  split_ifs with hone htwo hthree
  · simp [tails, leadMark]
  · have hfirst : leadMark 1 + c.toNat / 64 ^ 1 = c.toNat / 64 % 32 + 0xc0 := by
      simp only [leadMark]
      omega
    rw [hfirst]
    simp [tails]
  · have hfirst : leadMark 2 + c.toNat / 64 ^ 2 = c.toNat / 4096 % 16 + 0xe0 := by
      simp only [leadMark]
      omega
    rw [hfirst]
    simp [tails]
  · have hfirst : leadMark 3 + c.toNat / 64 ^ 3 = c.toNat / 262144 % 8 + 0xf0 := by
      simp only [leadMark]
      omega
    rw [hfirst]
    simp [tails]

theorem lead_lt {v : Nat} (h : v < 0x110000) : lead v < 256 := by
  unfold lead width
  split_ifs <;> simp only [leadMark] <;> omega

/-- Of two characters the greater has the greater first byte, or as many bytes after an equal
one. -/
theorem lead_of_lt {v w : Nat} (h : v < w) (hw : w < 0x110000) :
    lead v < lead w ∨ lead v = lead w ∧ width v = width w ∧
      v / 64 ^ width v = w / 64 ^ width w := by
  unfold lead width
  split_ifs <;> simp only [leadMark, true_and] <;> omega

/-- Numbers that differ in their last digits only stand in the order of these. -/
theorem precedes_tails {k v w : Nat} (h : v < w) (heq : v / 64 ^ k = w / 64 ^ k) :
    Precedes (tails k v) (tails k w) := by
  induction k with
  | zero =>
    rw [Nat.pow_zero, Nat.div_one, Nat.div_one] at heq
    omega
  | succ k ih =>
    rw [Nat.pow_succ, ← Nat.div_div_eq_div_mul, ← Nat.div_div_eq_div_mul] at heq
    have hle : v / 64 ^ k ≤ w / 64 ^ k := Nat.div_le_div_right (Nat.le_of_lt h)
    rcases Nat.lt_or_eq_of_le hle with hlt | hdigit
    · apply precedes_of_head
      rw [UInt8.lt_iff_toNat_lt, toNat_tail, toNat_tail]
      omega
    · rw [tails, tails, hdigit]
      exact (ih hdigit).cons _

theorem precedes_of_lt {c d : Char} (h : c < d) :
    Precedes (String.utf8EncodeChar c) (String.utf8EncodeChar d) := by
  have hlt : c.toNat < d.toNat := h
  have hvalid : d.toNat < 0xD800 ∨ 0xDFFF < d.toNat ∧ d.toNat < 0x110000 := d.valid
  have hd : d.toNat < 0x110000 := by omega
  rw [encodeChar_eq_lead, encodeChar_eq_lead]
  rcases lead_of_lt hlt hd with hlead | ⟨hlead, hwidth, hrest⟩
  · apply precedes_of_head
    rwa [UInt8.lt_iff_toNat_lt, toNat_ofNat (lead_lt (Nat.lt_trans hlt hd)),
      toNat_ofNat (lead_lt hd)]
  · rw [hlead, hwidth]
    rw [hwidth] at hrest
    exact (precedes_tails hlt hrest).cons _

/-! ## Texts -/

theorem bytes_lt_of_lt {cs ds : List Char} (h : cs < ds) :
    cs.flatMap String.utf8EncodeChar < ds.flatMap String.utf8EncodeChar := by
  induction h with
  | @nil d ds =>
    rw [List.flatMap_cons, encodeChar_eq_lead]
    exact List.nil_lt_cons _ _
  | rel h =>
    rw [List.flatMap_cons, List.flatMap_cons]
    exact precedes_of_lt h _ _
  | cons _ ih =>
    rw [List.flatMap_cons, List.flatMap_cons]
    exact List.append_left_lt ih

/-- Texts stand in the order of their bytes. -/
theorem bytes_lt_iff {s t : String} : s.toUTF8.toList < t.toUTF8.toList ↔ s < t := by
  have hmono : ∀ {s t : String}, s < t → s.toUTF8.toList < t.toUTF8.toList := by
    intro s t h
    rw [toList_toUTF8, toList_toUTF8]
    exact bytes_lt_of_lt (String.lt_iff.mp h)
  constructor
  · intro h
    rcases lt_trichotomy s t with hlt | rfl | hgt
    · exact hlt
    · exact absurd h (List.lt_irrefl _)
    · exact absurd h (List.lt_asymm (hmono hgt))
  · exact hmono

end Interchain.Utf8
