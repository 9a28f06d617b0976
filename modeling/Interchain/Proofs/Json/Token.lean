import Interchain.Json.Parser
import Interchain.Json.Printer
import Interchain.Proofs.Attempt
import Mathlib.Tactic.SplitIfs

/-!
# Strings and numbers are read as they are written

A string between quotes is read up to its closing quote, whatever it contains, and
the digits of an integer up to the first character that is no digit.
-/

namespace Interchain

namespace Document.Parser

/-! ## Strings -/

/-- The four digits after `\u` of a control character. -/
theorem unit?_hexDigit {n : Nat} (h : n < 32) :
    unit? '0' '0' (Json.hexDigit (n / 16)) (Json.hexDigit (n % 16)) = some n := by
  have hall : ∀ n < 32,
      unit? '0' '0' (Json.hexDigit (n / 16)) (Json.hexDigit (n % 16)) = some n := by decide
  exact hall n h

/-- A letter after a backslash stands for the character that it was chosen for. -/
theorem letter?_of_escapeLetter? {c l : Char} (h : Json.escapeLetter? c = some l) :
    letter? l = some c := by
  unfold Json.escapeLetter? at h
  split_ifs at h <;> cases h <;> subst_vars <;> rfl

theorem ne_of_escapeLetter? {c : Char} (h : Json.escapeLetter? c = none) :
    c ≠ '"' ∧ c ≠ '\\' := by
  constructor <;> (rintro rfl; cases h)

/-- How a character is written: after a backslash by a letter, by its number, or as
it is. -/
theorem renderChar_cases (c : Char) :
    (∃ l, letter? l = some c ∧ Json.renderChar c = ['\\', l]) ∨
    (c.toNat < 32 ∧ Json.renderChar c = ['\\', 'u', '0', '0', Json.hexDigit (c.toNat / 16),
      Json.hexDigit (c.toNat % 16)]) ∨
    (32 ≤ c.toNat ∧ c ≠ '"' ∧ c ≠ '\\' ∧ Json.renderChar c = [c]) := by
  unfold Json.renderChar
  cases h : Json.escapeLetter? c with
  | some l => exact .inl ⟨l, letter?_of_escapeLetter? h, rfl⟩
  | none =>
    obtain ⟨hquote, hslash⟩ := ne_of_escapeLetter? h
    by_cases hc : c.toNat < 32
    · exact .inr (.inl ⟨hc, if_pos hc⟩)
    · exact .inr (.inr ⟨Nat.le_of_not_lt hc, hquote, hslash, if_neg hc⟩)

/-- A character of a string is passed over in one turn. -/
theorem skipString_renderChar (fuel : Nat) (c : Char) (rest : List Char) :
    skipString (fuel + 1) (Json.renderChar c ++ rest) = skipString fuel rest := by
  obtain ⟨l, hl, hr⟩ | ⟨hc, hr⟩ | ⟨hc, hquote, hslash, hr⟩ := renderChar_cases c
  · have hu : l ≠ 'u' := by rintro rfl; cases hl
    simp [hr, skipString, hl]
  · simp [hr, skipString, unit, unit?_hexDigit hc]
  · simp [hr, skipString, hslash]
    omega

/-- A character of a string is read in one turn. -/
theorem stringBody_renderChar {fuel : Nat} {c : Char} {rest left : List Char} {cs : List Char}
    (h : stringBody fuel rest = .ok (cs, left)) :
    stringBody (fuel + 1) (Json.renderChar c ++ rest) = .ok (c :: cs, left) := by
  obtain ⟨l, hl, hr⟩ | ⟨hc, hr⟩ | ⟨hc, hquote, hslash, hr⟩ := renderChar_cases c
  · have hu : l ≠ 'u' := by rintro rfl; cases hl
    simp [hr, stringBody, hl, h]
  · have hp : paired c.toNat rest = .ok (c, rest) := by
      unfold paired
      rw [if_pos (by omega), Char.ofNat_toNat]
    simp [hr, stringBody, unit, unit?_hexDigit hc, hp, h]
  · simp [hr, stringBody, hslash, h]
    omega

/-- A string is passed over up to its closing quote. -/
theorem skipString_flatMap (cs rest : List Char) {fuel : Nat} (h : cs.length < fuel) :
    skipString fuel (cs.flatMap Json.renderChar ++ '"' :: rest) = .ok rest := by
  induction cs generalizing fuel with
  | nil =>
    obtain ⟨fuel, rfl⟩ := Nat.exists_eq_add_one_of_ne_zero (Nat.ne_zero_of_lt h)
    rfl
  | cons c cs ih =>
    obtain ⟨fuel, rfl⟩ := Nat.exists_eq_add_one_of_ne_zero (Nat.ne_zero_of_lt h)
    rw [List.flatMap_cons, List.append_assoc, skipString_renderChar]
    exact ih (by simpa using h)

/-- A string is read up to its closing quote. -/
theorem stringBody_flatMap (cs rest : List Char) {fuel : Nat} (h : cs.length < fuel) :
    stringBody fuel (cs.flatMap Json.renderChar ++ '"' :: rest) = .ok (cs, rest) := by
  induction cs generalizing fuel with
  | nil =>
    obtain ⟨fuel, rfl⟩ := Nat.exists_eq_add_one_of_ne_zero (Nat.ne_zero_of_lt h)
    rfl
  | cons c cs ih =>
    obtain ⟨fuel, rfl⟩ := Nat.exists_eq_add_one_of_ne_zero (Nat.ne_zero_of_lt h)
    rw [List.flatMap_cons, List.append_assoc]
    exact stringBody_renderChar (ih (by simpa using h))

theorem length_le_flatMap (cs : List Char) :
    cs.length ≤ (cs.flatMap Json.renderChar).length := by
  induction cs with
  | nil => simp
  | cons c cs ih =>
    have hc : 0 < (Json.renderChar c).length := by
      obtain ⟨l, -, hr⟩ | ⟨-, hr⟩ | ⟨-, -, -, hr⟩ := renderChar_cases c <;> simp [hr]
    simp only [List.flatMap_cons, List.length_append, List.length_cons]
    omega

/-- A string is read as it was written. -/
theorem string_renderString (s : String) (rest : List Char) :
    string (s.toList.flatMap Json.renderChar ++ '"' :: rest) = (.string (.ok s), some rest) := by
  have hfuel : s.toList.length <
      (s.toList.flatMap Json.renderChar ++ '"' :: rest).length + 1 := by
    have := length_le_flatMap s.toList
    simp only [List.length_append]
    omega
  rw [string, stringText, skipString_flatMap _ _ hfuel, stringBody_flatMap _ _ hfuel]
  simp [Except.map]

/-! ## Integers -/

/-- What can follow a value: the end of the text, a comma or a bracket. -/
def Delimited (rest : List Char) : Prop :=
  ∀ c cs, rest = c :: cs → c = ',' ∨ c = ']' ∨ c = '\x7d'

theorem delimited_nil : Delimited [] := by
  rintro _ _ ⟨⟩

theorem delimited_comma (rest : List Char) : Delimited (',' :: rest) := by
  rintro _ _ ⟨⟩
  exact .inl rfl

theorem delimited_bracket (rest : List Char) : Delimited (']' :: rest) := by
  rintro _ _ ⟨⟩
  exact .inr (.inl rfl)

theorem delimited_brace (rest : List Char) : Delimited ('\x7d' :: rest) := by
  rintro _ _ ⟨⟩
  exact .inr (.inr rfl)

theorem takeDigits_append {ds rest : List Char} (hds : ∀ c ∈ ds, c.isDigit = true)
    (hrest : Delimited rest) :
    takeDigits (ds ++ rest) = (ds.map fun c => c.toNat - 48, rest) := by
  have hstop : rest.takeWhile Char.isDigit = [] ∧ rest.dropWhile Char.isDigit = rest := by
    cases rest with
    | nil => simp
    | cons c cs =>
      have hc : c.isDigit = false := by
        obtain rfl | rfl | rfl := hrest c cs rfl <;> decide
      simp [hc]
  rw [takeDigits, List.takeWhile_append_of_pos hds, List.dropWhile_append_of_pos hds, hstop.1,
    hstop.2, List.append_nil]

/-- The digits of a number stand for it. -/
theorem naturalOf_digitsOf (n : Nat) : naturalOf (Number.digitsOf n) = n := by
  rw [naturalOf, Number.digitsOf, List.foldl_map]
  simpa [Nat.ofDigitChars_eq_foldl, Nat.mul_comm] using Nat.ofDigitChars_ten_toDigits (n := n)

/-- Only the digits of zero begin with a zero. -/
theorem natural_eq_cons {n : Nat} (h : 0 < n) : ∃ c cs, Decimal.natural n = c :: cs ∧ c ≠ '0' := by
  induction n using Nat.strongRecOn with
  | ind n ih =>
    by_cases hn : n < 10
    · refine ⟨n.digitChar, [], Nat.toDigits_of_lt_base hn, ?_⟩
      have hall : ∀ n < 10, 0 < n → n.digitChar ≠ '0' := by decide
      exact hall n hn h
    · obtain ⟨c, cs, hcs, hc⟩ := ih (n / 10) (by omega) (by omega)
      refine ⟨c, cs ++ [(n % 10).digitChar], ?_, hc⟩
      rw [Decimal.natural] at hcs ⊢
      rw [Nat.toDigits_of_base_le (by omega) (by omega), hcs]
      rfl

theorem isDigit_of_mem_natural {n : Nat} {c : Char} (h : c ∈ Decimal.natural n) :
    c.isDigit = true :=
  Nat.isDigit_of_mem_toDigits (by omega) (by omega) h

theorem takeDigits_natural (n : Nat) {rest : List Char} (h : Delimited rest) :
    takeDigits (Decimal.natural n ++ rest) = (Number.digitsOf n, rest) :=
  takeDigits_append (fun _ => isDigit_of_mem_natural) h

theorem wholeDigits_natural (n : Nat) {rest : List Char} (h : Delimited rest) :
    wholeDigits (Decimal.natural n ++ rest) = .ok (Number.digitsOf n, rest) := by
  by_cases hn : n = 0
  · subst hn
    cases rest with
    | nil => rfl
    | cons c cs =>
      have hc : c.isDigit = false := by
        obtain rfl | rfl | rfl := h c cs rfl <;> decide
      simp [Decimal.natural, wholeDigits, hc, Number.digitsOf]
  · obtain ⟨c, cs, hcs, hc⟩ := natural_eq_cons (Nat.pos_of_ne_zero hn)
    have htake := takeDigits_natural n h
    have hdigits : Number.digitsOf n ≠ [] := by
      simp [Number.digitsOf]
    rw [hcs] at htake ⊢
    simp only [List.cons_append] at htake ⊢
    rw [wholeDigits, digits1, htake]
    · cases hd : Number.digitsOf n with
      | nil => exact absurd hd hdigits
      | cons d ds => rfl
    · intro _ heq
      exact hc (List.cons.inj heq).1

/-- The parts of an integer are its digits. -/
theorem parts_natural (n : Nat) {rest : List Char} (h : Delimited rest) :
    parts (Decimal.natural n ++ rest) = .ok ((Number.digitsOf n, [], none), rest) := by
  have hpoint : fractionDigits rest = .ok ([], rest) ∧ exponent rest = .ok (none, rest) := by
    cases rest with
    | nil => exact ⟨rfl, rfl⟩
    | cons c cs => obtain rfl | rfl | rfl := h c cs rfl <;> exact ⟨rfl, rfl⟩
  simp [parts, wholeDigits_natural n h, hpoint]

/-- An integer of few digits is read as it is. -/
theorem number_digitsOf {n : Nat} {negative : Bool} (h : (Number.digitsOf n).length ≤ safeDigits)
    (hzero : negative = true → n ≠ 0) :
    number negative (Number.digitsOf n) [] none = .ok (.int (if negative then -n else n)) := by
  have hminus : ¬(negative = true ∧ Number.digitsOf n = [0]) := by
    rintro ⟨hneg, hd⟩
    have hn := naturalOf_digitsOf n
    rw [hd] at hn
    exact hzero hneg hn.symm
  rw [number, if_pos ⟨rfl, rfl, hminus⟩, naturalOf_digitsOf]
  dsimp only
  split
  · rfl
  · rw [if_pos (.inl h)]

/-- An integer of few digits is read as it was written. -/
theorem unsigned_natural (n : Nat) (negative : Bool) {rest : List Char} (hrest : Delimited rest)
    (h : (Number.digitsOf n).length ≤ safeDigits) (hzero : negative = true → n ≠ 0) :
    unsigned negative (Decimal.natural n ++ rest) =
      (.number (.ok (.int (if negative then -n else n))), some rest) := by
  rw [unsigned, parts_natural n hrest]
  simp only [number_digitsOf h hzero]

end Document.Parser

end Interchain
