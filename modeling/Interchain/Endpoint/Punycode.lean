/-!
# Labels of host names outside ASCII

A label with characters outside ASCII is written as its ASCII characters, a
hyphen, and then the other characters in ascending order.  Each of these is given
by how far it is from the one before: a step goes to the next place among the
characters that are already there, and behind the last place to the next value.
The distances are numbers of variable length in base thirty-six.
-/

namespace Interchain.Punycode

/-- The character of a digit below thirty-six. -/
def digit (n : Nat) : Char :=
  if n < 26 then Char.ofNat (97 + n) else Char.ofNat (22 + n)

/-- The least value at which the digit at position `k` is not the last. -/
def threshold (k bias : Nat) : Nat :=
  max 1 (min 26 (k - bias))

theorem threshold_pos (k bias : Nat) : 1 ≤ threshold k bias :=
  Nat.le_max_left _ _

/-- The digits of a distance, the least significant first. -/
def digits (bias k q : Nat) : List Char :=
  let t := threshold k bias
  if q < t then [digit q]
  else digit (t + (q - t) % (36 - t)) :: digits bias (k + 36) ((q - t) / (36 - t))
termination_by q
decreasing_by
  have := threshold_pos k bias
  have := Nat.div_le_self (q - threshold k bias) (36 - threshold k bias)
  have : ¬q < threshold k bias := by assumption
  omega

/-- The bias that suits distances of about this size. -/
def suited (bias delta : Nat) : Nat :=
  if 455 < delta then suited (bias + 36) (delta / 35) else bias + 36 * delta / (delta + 38)
termination_by delta
decreasing_by exact Nat.div_lt_self (by omega) (by omega)

/-- The bias after a distance, with `count` characters there. -/
def adapt (delta count : Nat) (first : Bool) : Nat :=
  let d := if first then delta / 700 else delta / 2
  suited 0 (d + d / count)

/-- A character that is put in: its value and its place among those that are there
before it. -/
structure Insertion where
  value : Nat
  place : Nat
deriving DecidableEq, Repr

/-- The characters outside ASCII, in the order in which they are put in. -/
def insertions (label : List Char) : List Insertion :=
  let others := label.zipIdx.filter fun c => 128 ≤ c.1.toNat
  (others.mergeSort fun a b => a.1.toNat ≤ b.1.toNat).map fun c =>
    ⟨c.1.toNat, ((label.take c.2).filter fun d => d.toNat ≤ c.1.toNat).length⟩

/-- Write the distance to each insertion from the one before, beginning at a value
and a place, with `count` characters there. -/
def distances (basic : Nat) : (count value place bias : Nat) → List Insertion → List Char
  | _, _, _, _, [] => []
  | count, value, place, bias, i :: rest =>
    let delta := (i.value - value) * (count + 1) + i.place - place
    digits bias 36 delta ++
      distances basic (count + 1) i.value (i.place + 1) (adapt delta (count + 1) (count == basic))
        rest

/-- The ASCII form of a label, without the mark in front that says so. -/
def encode (label : List Char) : List Char :=
  let basic := label.filter fun c => c.toNat < 128
  basic ++ (if basic.isEmpty then [] else ['-']) ++
    distances basic.length basic.length 128 0 72 (insertions label)

/-! ## Reading -/

/-- What a character stands for as a digit. -/
def value? (c : Char) : Option Nat :=
  if 'a' ≤ c ∧ c ≤ 'z' then some (c.toNat - 97)
  else if 'A' ≤ c ∧ c ≤ 'Z' then some (c.toNat - 65)
  else if '0' ≤ c ∧ c ≤ '9' then some (c.toNat - 22)
  else none

/-- Read a distance: its value and what follows its digits.  The first digit counts
`weight` times. -/
def distance? (bias k weight : Nat) : List Char → Option (Nat × List Char)
  | [] => none
  | c :: rest =>
    match value? c with
    | none => none
    | some d =>
      let t := threshold k bias
      if d < t then some (d * weight, rest)
      else
        match distance? bias (k + 36) (weight * (36 - t)) rest with
        | none => none
        | some (n, after) => some (d * weight + n, after)

/-- A distance has at least one digit. -/
theorem length_of_distance? {bias k weight n : Nat} {cs after : List Char}
    (h : distance? bias k weight cs = some (n, after)) : after.length < cs.length := by
  induction cs generalizing k weight n after with
  | nil => simp [distance?] at h
  | cons c rest ih =>
    rw [distance?] at h
    split at h
    · simp at h
    · simp only at h
      split at h
      · simp only [Option.some.injEq, Prod.mk.injEq] at h
        simp [← h.2]
      · split at h
        · simp at h
        · rename_i n' after' h'
          simp only [Option.some.injEq, Prod.mk.injEq] at h
          have := ih h'
          simp only [List.length_cons, ← h.2]
          omega

/-- Put the characters into a label that the distances from a value and a place on
say. -/
def insertAll? (value place bias : Nat) (label cs : List Char) : Option (List Char) :=
  match cs with
  | [] => some label
  | c :: rest =>
    match h : distance? bias 36 1 (c :: rest) with
    | none => none
    | some (delta, after) =>
      let count := label.length + 1
      let next := value + (place + delta) / count
      let here := (place + delta) % count
      if next.isValidChar then
        insertAll? next (here + 1) (adapt delta count (place == 0))
          (label.insertIdx here (Char.ofNat next)) after
      else none
termination_by cs.length
decreasing_by exact length_of_distance? h

/-- The label whose ASCII form this is.  The last hyphen ends the ASCII characters
of the label if there are any before it. -/
def decode? (cs : List Char) : Option (List Char) :=
  let back := cs.reverse.dropWhile (· ≠ '-')
  match back.drop 1 with
  | [] => insertAll? 128 0 72 [] cs
  | basic => insertAll? 128 0 72 basic.reverse (cs.drop back.length)

end Interchain.Punycode
