/-!
# Reading bytes as text

Bytes that form no character are read as the replacement character.  Each
maximal beginning of a character that is cut short counts as one such place.
-/

namespace Interchain.Utf8

/-- The replacement character. -/
def replacement : Char := Char.ofNat 0xFFFD

/-- The least and greatest second byte, and the number of bytes after the
first, of a character that begins with `b`. -/
def lead? (b : UInt8) : Option (UInt8 × UInt8 × Nat) :=
  if 0xC2 ≤ b ∧ b ≤ 0xDF then some (0x80, 0xBF, 1)
  else if b = 0xE0 then some (0xA0, 0xBF, 2)
  else if b = 0xED then some (0x80, 0x9F, 2)
  else if 0xE1 ≤ b ∧ b ≤ 0xEF then some (0x80, 0xBF, 2)
  else if b = 0xF0 then some (0x90, 0xBF, 3)
  else if 0xF1 ≤ b ∧ b ≤ 0xF3 then some (0x80, 0xBF, 3)
  else if b = 0xF4 then some (0x80, 0x8F, 3)
  else none

/-- The six low bits of a byte after the first. -/
def tailBits (b : UInt8) : Nat := b.toNat % 64

/-- Whether a byte can stand after the second. -/
def isTail (b : UInt8) : Bool := 0x80 ≤ b && b ≤ 0xBF

/-- How many further bytes belong to the beginning `b`, and the character if
it is whole. -/
def step (b : UInt8) (rest : List UInt8) : Nat × Char :=
  if b < 0x80 then (0, Char.ofNat b.toNat)
  else
    match lead? b, rest with
    | some (low, high, n), c :: rest =>
      if low ≤ c ∧ c ≤ high then
        match n, rest with
        | 1, _ => (1, Char.ofNat (b.toNat % 32 * 64 + tailBits c))
        | 2, d :: _ =>
          if isTail d then (2, Char.ofNat ((b.toNat % 16 * 64 + tailBits c) * 64 + tailBits d))
          else (1, replacement)
        | 3, d :: e :: _ =>
          if isTail d then
            if isTail e then
              (3, Char.ofNat
                (((b.toNat % 8 * 64 + tailBits c) * 64 + tailBits d) * 64 + tailBits e))
            else (2, replacement)
          else (1, replacement)
        | 3, [d] => (if isTail d then 2 else 1, replacement)
        | _, _ => (1, replacement)
      else (0, replacement)
    | _, _ => (0, replacement)

/-- The characters that bytes stand for. -/
def decode : List UInt8 → List Char
  | [] => []
  | b :: rest => (step b rest).2 :: decode (rest.drop (step b rest).1)
termination_by bytes => bytes.length
decreasing_by simp only [List.length_drop, List.length_cons]; omega

/-- The text that bytes stand for. -/
def text (bytes : List UInt8) : String :=
  String.ofList (decode bytes)

end Interchain.Utf8
