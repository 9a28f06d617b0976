import Interchain.Text.Quoted

/-!
# Byte strings in hexadecimal

Two digits a byte, high half first.  Writing uses lower case; reading takes
either case.  Lengths and positions count the bytes of the text's UTF-8 form,
so a character outside ASCII occupies several positions.
-/

namespace Interchain.Hex

/-- Why a text is no hexadecimal byte string. -/
inductive Fault where
  /-- The text has an odd number of bytes. -/
  | oddLength
  /-- The byte at `position` is no digit. -/
  | badDigit (byte : UInt8) (position : Nat)
deriving DecidableEq, Repr

/-- A byte that is no digit is shown as the character of that code point. -/
def Fault.message : Fault → String
  | .oddLength => "Odd number of digits"
  | .badDigit byte position =>
    "Invalid character " ++ Quoted.char (Char.ofNat byte.toNat) ++ " at position " ++
      toString position

/-- The lower-case digit of a half byte. -/
def digit (n : Nat) : Char :=
  if n < 10 then Char.ofNat (48 + n) else Char.ofNat (87 + n)

/-- What a digit of either case stands for. -/
def value? (b : UInt8) : Option Nat :=
  if 48 ≤ b ∧ b ≤ 57 then some (b.toNat - 48)
  else if 97 ≤ b ∧ b ≤ 102 then some (b.toNat - 87)
  else if 65 ≤ b ∧ b ≤ 70 then some (b.toNat - 55)
  else none

/-- The digits of a byte string. -/
def digits (bytes : List UInt8) : List Char :=
  bytes.flatMap fun b => [digit (b.toNat / 16), digit (b.toNat % 16)]

/-- The written form of a byte string. -/
def encode (bytes : List UInt8) : String :=
  String.ofList (digits bytes)

/-- The value of the digit at `position`. -/
def readDigit (position : Nat) (b : UInt8) : Except Fault Nat :=
  match value? b with
  | some n => .ok n
  | none => .error (.badDigit b position)

/-- Read digits in pairs, the first of them at `position`. -/
def readPairs (position : Nat) : List UInt8 → Except Fault (List UInt8)
  | [] => .ok []
  | [_] => .error .oddLength
  | high :: low :: rest => do
    let h ← readDigit position high
    let l ← readDigit (position + 1) low
    let bytes ← readPairs (position + 2) rest
    return UInt8.ofNat (16 * h + l) :: bytes

/-- Read the written form of a byte string.  An odd length is reported before
any character is looked at. -/
def decodeBytes (text : List UInt8) : Except Fault (List UInt8) :=
  if text.length % 2 = 1 then .error .oddLength else readPairs 0 text

/-- Read the written form of a byte string. -/
def decode (s : String) : Except Fault (List UInt8) :=
  decodeBytes s.toUTF8.toList

end Interchain.Hex
