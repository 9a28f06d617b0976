import Interchain.Text.Ascii
import Interchain.Text.Upper
import Mathlib.Tactic.SplitIfs

/-!
# Upper case in ASCII and beyond

In ASCII the full case mapping raises the letters `a` to `z`, each to a letter of its own, and
keeps everything else.  Nothing like that holds beyond ASCII, where an upper case may belong to
several characters, a letter of ASCII among them.
-/

namespace Interchain.Upper

/-- The lower-case letters of ASCII are one run of the tables, and all else in them is beyond
ASCII. -/
theorem tables_split :
    (∃ rest, runs = ⟨0x61, 0x7A, 1, 0x41⟩ :: rest ∧ ∀ r ∈ rest, 128 ≤ r.first) ∧
      ∀ s ∈ sequences, 128 ≤ s.1 := by
  have checked : (∀ r ∈ runs.tail, 128 ≤ r.first) ∧ ∀ s ∈ sequences, 128 ≤ s.1 := by
    decide +kernel
  exact ⟨⟨runs.tail, rfl, checked.1⟩, checked.2⟩

/-- A letter of ASCII has a mapping only if it is a lower-case one. -/
theorem find?_mapping {n : Nat} (h : n < 128) :
    mapping.find? n = if 0x61 ≤ n ∧ n ≤ 0x7A then some [n - 0x20] else none := by
  obtain ⟨⟨rest, hruns, hrest⟩, hsequences⟩ := tables_split
  have hbeyond : (rest.findSome? fun r => r.image? n) = none := by
    rw [List.findSome?_eq_none_iff]
    intro r hr
    exact if_neg fun ⟨hfirst, _⟩ => absurd (hrest r hr) (by omega)
  have halone : (sequences.find? fun s => s.1 == n) = none := by
    rw [List.find?_eq_none]
    intro s hs heq
    exact absurd (hsequences s hs) (by rw [beq_iff_eq.mp heq]; omega)
  by_cases hn : 0x61 ≤ n ∧ n ≤ 0x7A
  · have hletter : CodeRun.image? ⟨0x61, 0x7A, 1, 0x41⟩ n = some (n - 0x20) := by
      simp only [CodeRun.image?, hn, Nat.mod_one, and_self, if_true, Option.some.injEq]
      omega
    simp only [CodeMap.find?, mapping, hruns, List.findSome?_cons, hletter, if_pos hn]
  · have hother : CodeRun.image? ⟨0x61, 0x7A, 1, 0x41⟩ n = none :=
      if_neg fun hrun => hn ⟨hrun.1, hrun.2.1⟩
    simp only [CodeMap.find?, mapping, hruns, List.findSome?_cons, hother, hbeyond, halone,
      if_neg hn, Option.map_none]

theorem toNat_toUpper (c : Char) :
    c.toUpper.toNat = if 0x61 ≤ c.toNat ∧ c.toNat ≤ 0x7A then c.toNat - 0x20 else c.toNat := by
  have hletter : 'a'.val ≤ c.val ∧ c.val ≤ 'z'.val ↔ 0x61 ≤ c.toNat ∧ c.toNat ≤ 0x7A := by
    simp [UInt32.le_iff_toNat_le]
  by_cases h : 0x61 ≤ c.toNat ∧ c.toNat ≤ 0x7A
  · have hraised : c.toUpper = _ := dif_pos (hletter.mpr h)
    rw [hraised, if_pos h]
    show (c.val + ('A'.val - 'a'.val)).toNat = _
    rw [UInt32.toNat_add, Char.toNat_val]
    show (c.toNat + 0xFFFFFFE0) % 2 ^ 32 = _
    omega
  · have hkept : c.toUpper = c := dif_neg (mt hletter.mp h)
    rw [hkept, if_neg h]

theorem toNat_toLower (c : Char) :
    c.toLower.toNat = if 0x41 ≤ c.toNat ∧ c.toNat ≤ 0x5A then c.toNat + 0x20 else c.toNat := by
  have hletter : 'A'.val ≤ c.val ∧ c.val ≤ 'Z'.val ↔ 0x41 ≤ c.toNat ∧ c.toNat ≤ 0x5A := by
    simp [UInt32.le_iff_toNat_le]
  by_cases h : 0x41 ≤ c.toNat ∧ c.toNat ≤ 0x5A
  · have hlowered : c.toLower = _ := dif_pos (hletter.mpr h)
    rw [hlowered, if_pos h]
    show (c.val + ('a'.val - 'A'.val)).toNat = _
    rw [UInt32.toNat_add, Char.toNat_val]
    show (c.toNat + 0x20) % 2 ^ 32 = _
    omega
  · have hkept : c.toLower = c := dif_neg (mt hletter.mp h)
    rw [hkept, if_neg h]

/-- A character of ASCII is raised to one character. -/
theorem ofChar_ascii {c : Char} (h : c.toNat < 128) : ofChar c = [c.toUpper] := by
  have hraised : Char.ofNat c.toUpper.toNat = c.toUpper := Char.ofNat_toNat _
  rw [toNat_toUpper] at hraised
  rw [ofChar, find?_mapping h]
  split_ifs at hraised ⊢ with hc
  · exact congrArg (fun d => [d]) hraised
  · rw [← hraised, Char.ofNat_toNat]

/-- Raising undoes no difference between lowered characters. -/
theorem toUpper_toLower_inj {c d : Char} (h : c.toLower.toUpper = d.toLower.toUpper) :
    c.toLower = d.toLower := by
  have hnat : c.toLower.toUpper.toNat = d.toLower.toUpper.toNat := by rw [h]
  rw [toNat_toUpper, toNat_toUpper] at hnat
  have hc := toNat_toLower c
  have hd := toNat_toLower d
  apply Char.toNat_inj.mp
  split_ifs at hnat hc hd <;> omega

end Interchain.Upper
