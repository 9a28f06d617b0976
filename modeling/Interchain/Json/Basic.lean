import Interchain.Sorted

/-!
# JSON documents

A document keeps the order of its members, repeated ones included, and integers
of any size, so that it can be read field by field in the order it was written.
`Json.canonical` is the form that opaque values take: members sorted by key with
the last of several equal keys, and integers outside 64 bits as doubles.
-/

namespace Interchain

/-- A number is an integer as written, or a double given by its bits. -/
inductive Number where
  | int (value : Int)
  | double (bits : UInt64)
deriving DecidableEq, Repr, Inhabited

/-- A JSON document. -/
inductive Json where
  | null
  | bool (value : Bool)
  | number (value : Number)
  | string (value : String)
  | array (items : List Json)
  | object (members : List (String × Json))
deriving Repr, Inhabited

def Json.isNull : Json → Bool
  | .null => true
  | _ => false

namespace Number

/-- The powers of ten up to `10 ^ 308` are taken as the nearest doubles. -/
def power (n : Nat) : Float :=
  Float.ofScientific 1 false n

/-- A double divided by a power of ten, in steps of at most `10 ^ 308`. -/
def shrink (x : Float) (n : Nat) : Float :=
  if n ≤ 308 then x / power n
  else if x == 0 then x
  else shrink (x / power 308) (n - 308)
termination_by n
decreasing_by omega

/-- The double `significand * 10 ^ exponent`, computed in doubles; `none` when
it is too large for one. -/
def scaled? (negative : Bool) (significand : Nat) (exponent : Int) : Option Float :=
  let x := (UInt64.ofNat significand).toFloat
  let sign := fun y : Float => if negative then -y else y
  if exponent < 0 then some (sign (shrink x exponent.natAbs))
  else if exponent ≤ 308 then
    let y := x * power exponent.natAbs
    if y.isInf then none else some (sign y)
  else if significand = 0 then some (sign x)
  else none

/-- The greatest significand that is kept. -/
def limit : Nat := UInt64.size - 1

/-- Take digits before the point into a significand.  From the first digit that
does not fit, each one only raises the exponent. -/
def takeWhole : Nat → List Nat → Nat × Nat
  | significand, [] => (significand, 0)
  | significand, d :: ds =>
    if significand * 10 + d ≤ limit then takeWhole (significand * 10 + d) ds
    else (significand, ds.length + 1)

/-- Take digits after the point into a significand, and count them.  The digits
from the first that does not fit are dropped. -/
def takeFraction : Nat → List Nat → Nat × Nat
  | significand, [] => (significand, 0)
  | significand, d :: ds =>
    if significand * 10 + d ≤ limit then
      let (s, n) := takeFraction (significand * 10 + d) ds
      (s, n + 1)
    else (significand, 0)

/-- The double that a written number stands for. -/
def double? (negative : Bool) (whole fraction : List Nat) (exponent : Int) : Option Float :=
  let (s, up) := takeWhole 0 whole
  let (s, down) := takeFraction s fraction
  scaled? negative s ((up : Int) - (down : Int) + exponent)

/-- The decimal digits of a number, most significant first. -/
def digitsOf (n : Nat) : List Nat :=
  (Nat.toDigits 10 n).map fun c => c.toNat - 48

/-- An integer outside 64 bits is a double; others stay.  The integers are those
from `-2 ^ 63` to `2 ^ 64 - 1`. -/
def narrow : Number → Number
  | .int i =>
    if Int64.minValue.toInt ≤ i ∧ i < UInt64.size then .int i
    else .double (((double? (i < 0) (digitsOf i.natAbs) [] 0).getD 0).toBits)
  | .double bits => .double bits

end Number

namespace Json

mutual

/-- The form in which opaque values are kept. -/
def canonical : Json → Json
  | .null => .null
  | .bool b => .bool b
  | .number n => .number n.narrow
  | .string s => .string s
  | .array items => .array (canonicalItems items)
  | .object members => .object (Sorted.ofList (canonicalMembers members))

def canonicalItems : List Json → List Json
  | [] => []
  | v :: rest => v.canonical :: canonicalItems rest

def canonicalMembers : List (String × Json) → List (String × Json)
  | [] => []
  | (k, v) :: rest => (k, v.canonical) :: canonicalMembers rest

end

mutual

/-- Structural equality. -/
def beq : Json → Json → Bool
  | .null, .null => true
  | .bool a, .bool b => a == b
  | .number a, .number b => a == b
  | .string a, .string b => a == b
  | .array a, .array b => beqItems a b
  | .object a, .object b => beqMembers a b
  | _, _ => false

def beqItems : List Json → List Json → Bool
  | [], [] => true
  | a :: as, b :: bs => a.beq b && beqItems as bs
  | _, _ => false

def beqMembers : List (String × Json) → List (String × Json) → Bool
  | [], [] => true
  | (k, a) :: as, (l, b) :: bs => k == l && a.beq b && beqMembers as bs
  | _, _ => false

end

instance : BEq Json := ⟨beq⟩

/-- The value of the first member with this key. -/
def member? (key : String) : Json → Option Json
  | .object members => (members.find? fun m => m.1 == key).map Prod.snd
  | _ => none

end Json

end Interchain
