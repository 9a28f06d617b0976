import Interchain.Decimal.Shortest

/-!
# Decimal texts

How numbers are written in decimal digits, and how natural numbers are read.
-/

namespace Interchain.Decimal

/-- Decimal digits of a natural number. -/
def natural (n : Nat) : List Char :=
  Nat.toDigits 10 n

/-- Decimal digits of an integer, with a minus sign if it is negative. -/
def integer (i : Int) : List Char :=
  if i < 0 then '-' :: natural i.natAbs else natural i.natAbs

/-- Where the point goes: doubles from `1e-5` up to below `1e16` are written
with a point and no exponent, and always with a digit on either side of it.
Otherwise the first digit stands before the point, the point is left out if no
digit follows, and an exponent that is not negative has a plus sign. -/
def layout (d : Scientific) : List Char :=
  let ds := natural d.digits
  let point : Int := ds.length + d.exponent
  if d.digits = 0 then ['0', '.', '0']
  else if 0 ≤ d.exponent ∧ point ≤ 16 then ds ++ List.replicate d.exponent.toNat '0' ++ ['.', '0']
  else if 0 < point ∧ point ≤ 16 then ds.take point.toNat ++ '.' :: ds.drop point.toNat
  else if -5 < point ∧ point ≤ 0 then '0' :: '.' :: List.replicate (-point).toNat '0' ++ ds
  else
    let tail := match ds with
      | [] => []
      | [c] => [c]
      | c :: rest => c :: '.' :: rest
    tail ++ 'e' :: (if point < 1 then [] else ['+']) ++ integer (point - 1)

/-- A finite double. -/
def double (bits : UInt64) : List Char :=
  let size := layout (Binary.ofBits bits).shortest
  if bits >>> 63 = 0 then size else '-' :: size

/-- A natural number in digits. -/
def naturalText (n : Nat) : String :=
  String.ofList (natural n)

/-- The natural number below a limit that a text stands for.  A plus sign may
stand in front of the digits. -/
def below? (limit : Nat) (text : String) : Option Nat :=
  let digits := match text.toList with
    | '+' :: rest => rest
    | cs => cs
  if digits.isEmpty ∨ !digits.all Char.isDigit then none
  else
    let n := digits.foldl (fun n c => n * 10 + (c.toNat - 48)) 0
    if n < limit then some n else none

end Interchain.Decimal
