import Interchain.Decimal.Real
import Interchain.Text.Octets

/-!
# Values in a layout

How texts, integers and numbers with a fraction are laid out by a directive: with a
sign, in so many digits and in so many characters.
-/

namespace Interchain.Program

/-- What a directive says of the layout. -/
structure Layout where
  /-- Fill up behind the value. -/
  left : Bool
  /-- Fill up with zeros. -/
  zero : Bool
  /-- A plus sign, or a blank in its place, where there is no minus sign. -/
  plus : Bool
  blank : Bool
  /-- The other form of a conversion. -/
  other : Bool
  width : Nat
  precision : Option Nat
deriving DecidableEq, Repr

namespace Layout

def plain : Layout := ⟨false, false, false, false, false, 0, none⟩

/-- Fill up to the width.  Zeros stand behind the sign. -/
def pad (l : Layout) (zero : Bool) (sign cs : Octets) : Octets :=
  let count := l.width - (sign.length + cs.length)
  if l.left then sign ++ cs ++ List.replicate count ' '
  else if zero then sign ++ List.replicate count '0' ++ cs
  else List.replicate count ' ' ++ sign ++ cs

/-- A text, cut to the precision. -/
def text (l : Layout) (cs : Octets) : Octets :=
  l.pad false [] (match l.precision with
    | some n => cs.take n
    | none => cs)

/-- The sign of a number. -/
def sign (l : Layout) (negative : Bool) : Octets :=
  if negative then ['-'] else if l.plus then ['+'] else if l.blank then [' '] else []

/-- The digits of an integer. -/
def digits (l : Layout) (base n : Nat) : Octets :=
  let ds := if n = 0 ∧ l.precision = some 0 then [] else Nat.toDigits base n
  List.replicate (l.precision.getD 0 - ds.length) '0' ++ ds

/-- An integer by its conversion, which has a sign or not. -/
def integer (l : Layout) (conversion : Char) (negative : Bool) (n : Nat) : Octets :=
  let zero := l.zero && l.precision.isNone
  match conversion with
  | 'o' =>
    let ds := l.digits 8 n
    l.pad zero [] (if l.other ∧ ds.head? ≠ some '0' then '0' :: ds else ds)
  | 'x' => l.pad zero (if l.other ∧ n ≠ 0 then ['0', 'x'] else []) (l.digits 16 n)
  | 'X' =>
    l.pad zero (if l.other ∧ n ≠ 0 then ['0', 'X'] else []) ((l.digits 16 n).map Char.toUpper)
  | 'u' => l.pad zero [] (l.digits 10 n)
  | _ => l.pad zero (l.sign negative) (l.digits 10 n)

/-- A number with a fraction by its conversion. -/
def real (l : Layout) (p : Decimal.Precision) (conversion : Char) (r : Decimal.Real) : Octets :=
  let case := fun (cs : Octets) => if conversion.isUpper then cs.map Char.toUpper else cs
  let sign := l.sign r.negative
  match r.magnitude with
  | .infinite => l.pad false sign (case "inf".toList)
  | .undefined => l.pad false sign (case "nan".toList)
  | .finite m e =>
    let places := l.precision.getD 6
    match conversion.toLower with
    | 'f' => l.pad l.zero sign (Decimal.fixed l.other places m e)
    | 'e' => l.pad l.zero sign (case (Decimal.scientific l.other places m e))
    | 'g' => l.pad l.zero sign (case (Decimal.general l.other places m e))
    | _ => l.pad l.zero (sign ++ case ['0', 'x']) (case (p.hexadecimal l.other l.precision m e))

end Layout

end Interchain.Program
