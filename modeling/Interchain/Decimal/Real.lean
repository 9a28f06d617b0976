import Interchain.Decimal.Shortest
import Interchain.Text.Integer

/-!
# Numbers of limited precision

Numbers with a fraction are held in so many binary digits.  A text is read as the
number nearest to what it says, and a number is written in exact digits, rounded
where they end; of two that are as near the even one is taken.
-/

namespace Interchain.Decimal

/-- How precise numbers are. -/
structure Precision where
  /-- The number of binary digits. -/
  bits : Nat
  /-- The exponent of the last digit of the smallest numbers. -/
  least : Int
  /-- That of the greatest. -/
  greatest : Int
  /-- The number of binary digits in front of the point. -/
  lead : Nat
deriving DecidableEq, Repr

namespace Precision

def double : Precision := ⟨53, -1074, 971, 1⟩

def extended : Precision := ⟨64, -16445, 16320, 4⟩

end Precision

/-- How great a number is. -/
inductive Magnitude where
  /-- The product of `m` and two to the power of `e`. -/
  | finite (m : Nat) (e : Int)
  | infinite
  | undefined
deriving DecidableEq, Repr

structure Real where
  negative : Bool
  magnitude : Magnitude
deriving DecidableEq, Repr

/-- A quotient rounded to the nearest integer, or to the even one of two. -/
def roundDiv (n d : Nat) : Nat :=
  let q := n / d
  let twice := 2 * (n % d)
  if d < twice ∨ (d = twice ∧ q % 2 = 1) then q + 1 else q

/-- A number times a power of two, as a fraction. -/
def scaled (n d : Nat) (e : Int) : Nat × Nat :=
  (n <<< e.toNat, d <<< (-e).toNat)

namespace Precision

/-- The number nearest to a quotient, and whether it is out of range. -/
def nearest (p : Precision) (n d : Nat) : Magnitude × Bool :=
  if n = 0 then (.finite 0 0, false)
  else
    let log : Int := (n.log2 : Int) - d.log2
    let (a, b) := scaled n d (-log)
    let log := if a < b then log - 1 else log
    let e := max p.least (log - p.bits + 1)
    let (a, b) := scaled n d (-e)
    let m := roundDiv a b
    let (m, e) := if m < 1 <<< p.bits then (m, e) else (m / 2, e + 1)
    if p.greatest < e then (.infinite, true)
    else (.finite m e, m < 1 <<< (p.bits - 1) && a % b != 0)

/-- The number nearest to a decimal with this exponent. -/
def ofDecimal (p : Precision) (digits : Nat) (exponent : Int) : Magnitude × Bool :=
  let top := (Nat.toDigits 10 digits).length + exponent
  if digits = 0 then (.finite 0 0, false)
  else if 6000 < top then (.infinite, true)
  else if top < -6000 then (.finite 0 0, true)
  else p.nearest (digits * Nat.pow 10 exponent.toNat) (Nat.pow 10 (-exponent).toNat)

/-- The number nearest to a number with this binary exponent. -/
def ofBinary (p : Precision) (digits : Nat) (exponent : Int) : Magnitude × Bool :=
  let top := (digits.log2 : Int) + exponent
  if digits = 0 then (.finite 0 0, false)
  else if 20000 < top then (.infinite, true)
  else if top < -20000 then (.finite 0 0, true)
  else
    let (n, d) := scaled digits 1 exponent
    p.nearest n d

end Precision

/-! ## Reading -/

/-- Digits with a point among them: their value, the number of those behind the point,
and what follows.  There is at least one digit. -/
def pointed? (base : Nat) (cs : List Char) : Option (Nat × Nat × List Char) :=
  let (whole, rest) := Integer.digits base 0 cs
  let (value, behind, after) := match rest with
    | '.' :: more =>
      let (value, after) := Integer.digits base whole more
      (value, more.length - after.length, after)
    | _ => (whole, 0, rest)
  if cs.length = rest.length ∧ behind = 0 then none else some (value, behind, after)

/-- The exponent behind a letter, and what follows. -/
def exponent (letter : Char) (cs : List Char) : Int × List Char :=
  match cs with
  | c :: rest =>
    let (negative, digits) := match rest with
      | '-' :: digits => (true, digits)
      | '+' :: digits => (false, digits)
      | _ => (false, rest)
    if c.toLower = letter ∧ digits.head?.any Char.isDigit then
      let (n, after) := Integer.digits 10 0 digits
      (if negative then -(n : Int) else n, after)
    else (0, cs)
  | [] => (0, cs)

/-- Whether a text begins with a word, in letters of either case. -/
def startsWith (word : String) (cs : List Char) : Bool :=
  word.toList.isPrefixOf (cs.map Char.toLower)

/-- The number that a text begins with, whether it is out of range, and what follows. -/
def Precision.read? (p : Precision) (cs : List Char) : Option (Real × Bool × List Char) :=
  let (negative, cs) := Integer.sign cs
  let hexadecimal := match cs with
    | '0' :: x :: rest => if x.toLower = 'x' then pointed? 16 rest else none
    | _ => none
  if startsWith "infinity" cs then some (⟨negative, .infinite⟩, false, cs.drop 8)
  else if startsWith "inf" cs then some (⟨negative, .infinite⟩, false, cs.drop 3)
  else if startsWith "nan" cs then
    let rest := cs.drop 3
    let inner := (rest.drop 1).takeWhile fun c => c.isAlphanum || c == '_'
    let rest := match rest, (rest.drop 1).drop inner.length with
      | '(' :: _, ')' :: after => after
      | _, _ => rest
    some (⟨negative, .undefined⟩, false, rest)
  else
    match hexadecimal with
    | some (value, behind, rest) =>
      let (e, rest) := exponent 'p' rest
      let (m, isOut) := p.ofBinary value (e - 4 * behind)
      some (⟨negative, m⟩, isOut, rest)
    | none =>
      (pointed? 10 cs).map fun (value, behind, rest) =>
        let (e, rest) := exponent 'e' rest
        let (m, isOut) := p.ofDecimal value (e - behind)
        (⟨negative, m⟩, isOut, rest)

/-! ## Writing -/

/-- Put a point in front of the last digits; `always` if it stands there even without
any. -/
def point (always : Bool) (places : Nat) (digits : List Char) : List Char :=
  let digits := List.replicate (places + 1 - digits.length) '0' ++ digits
  let whole := digits.length - places
  digits.take whole ++ (if places = 0 ∧ !always then [] else '.' :: digits.drop whole)

/-- The digits of a number up to so many places behind the point. -/
def fixed (always : Bool) (places m : Nat) (e : Int) : List Char :=
  let (n, d) := scaled (m * Nat.pow 10 places) 1 e
  point always places (Nat.toDigits 10 (roundDiv n d))

/-- The first digits of a number, one more than `places`, and the decimal exponent of the
first of them. -/
def leading (places m : Nat) (e : Int) : Nat × Int :=
  if m = 0 then (0, 0)
  else
    let x := (⟨m, e, false⟩ : Binary).scale - 1
    let shift := (places : Int) - x
    let (n, d) := scaled (m * Nat.pow 10 shift.toNat) (Nat.pow 10 (-shift).toNat) e
    let digits := roundDiv n d
    if digits < Nat.pow 10 (places + 1) then (digits, x) else (digits / 10, x + 1)

/-- An exponent with its sign and at least so many digits. -/
def signedExponent (digits : Nat) (x : Int) : List Char :=
  let ds := Nat.toDigits 10 x.natAbs
  (if x < 0 then '-' else '+') :: List.replicate (digits - ds.length) '0' ++ ds

/-- A number as a digit, a point, so many digits and an exponent. -/
def scientific (always : Bool) (places m : Nat) (e : Int) : List Char :=
  let (digits, x) := leading places m e
  point always places (Nat.toDigits 10 digits) ++ 'e' :: signedExponent 2 x

/-- Digits without zeros at the end, and without a point there. -/
def withoutZeros (cs : List Char) : List Char :=
  if cs.contains '.' then
    let cs := (cs.reverse.dropWhile (· = '0')).reverse
    if cs.getLast? = some '.' then cs.dropLast else cs
  else cs

/-- A number in so many digits, in the shorter of both ways. -/
def general (always : Bool) (digits m : Nat) (e : Int) : List Char :=
  let digits := max digits 1
  let (_, x) := leading (digits - 1) m e
  if -4 ≤ x ∧ x < digits then
    let cs := fixed always ((digits : Int) - 1 - x).toNat m e
    if always then cs else withoutZeros cs
  else
    let cs := scientific always (digits - 1) m e
    if always then cs
    else
      let mantissa := cs.takeWhile (· ≠ 'e')
      withoutZeros mantissa ++ cs.drop mantissa.length

/-- A number in hexadecimal digits with a binary exponent, in as many places as it takes
or in so many. -/
def Precision.hexadecimal (p : Precision) (always : Bool) (places : Option Nat) (m : Nat)
    (e : Int) : List Char :=
  let all := (p.bits - p.lead) / 4
  let up := p.bits - 1 - m.log2
  let up := min up (e - p.least).toNat
  let m := m <<< up
  let e := if m = 0 then 0 else e - up + (p.bits - p.lead : Nat)
  let (m, count) := match places with
    | none =>
      let ds := (Nat.toDigits 16 m).reverse
      let zeros := if m = 0 then all else min all (ds.takeWhile (· = '0')).length
      (m >>> (4 * zeros), all - zeros)
    | some n =>
      if all ≤ n then (m <<< (4 * (n - all)), n)
      else (roundDiv m (1 <<< (4 * (all - n))), n)
  let (m, e) := if 1 <<< (4 * count + 4) ≤ m then (m >>> 4, e + 4) else (m, e)
  point always count (Nat.toDigits 16 m) ++ 'p' :: signedExponent 1 e

end Interchain.Decimal
