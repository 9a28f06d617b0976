/-!
# The shortest decimal of a double

A finite double is written with the fewest digits that read back to it; of the
decimals with that many digits, with the one nearest to it.  The search runs on
exact integers: the double is decoded to `m * 2 ^ q`, and a decimal reads back
when it lies between the midpoints to the two neighbouring doubles.
-/

namespace Interchain.Decimal

/-- The size of a finite double, `m * 2 ^ q`. -/
structure Binary where
  m : Nat
  q : Int
  /-- The next smaller double is half as far away as the next larger one. -/
  narrowBelow : Bool
deriving DecidableEq, Repr

/-- The size of the finite double with these bits. -/
def Binary.ofBits (bits : UInt64) : Binary :=
  let e := (bits >>> 52 &&& 0x7FF).toNat
  let f := (bits &&& 0xFFFFFFFFFFFFF).toNat
  if e = 0 then ⟨f, -1074, false⟩ else ⟨(1 <<< 52) + f, (e : Int) - 1075, f == 0 && e > 1⟩

/-- The decimal `digits * 10 ^ exponent`. -/
structure Scientific where
  digits : Nat
  exponent : Int
deriving DecidableEq, Repr

/-- Compare `a * 10 ^ i` with `n * 2 ^ j`. -/
def compareScaled (a : Nat) (i : Int) (n : Nat) (j : Int) : Ordering :=
  compare ((a * Nat.pow 10 i.toNat) <<< (-j).toNat) ((n * Nat.pow 10 (-i).toNat) <<< j.toNat)

/-- Whether a decimal lies among the reals that round to `x`.  The ends of that
interval round to `x` exactly when `m` is even. -/
def Binary.readsBack (x : Binary) (d : Scientific) : Bool :=
  let low := if x.narrowBelow then 4 * x.m - 1 else 4 * x.m - 2
  let closed := x.m % 2 == 0
  let below := compareScaled d.digits d.exponent low (x.q - 2)
  let above := compareScaled d.digits d.exponent (4 * x.m + 2) (x.q - 2)
  (below == .gt || (closed && below == .eq)) && (above == .lt || (closed && above == .eq))

/-- The number of decimal digits before the point, of a size that is not zero:
the least `k` with `m * 2 ^ q < 10 ^ k`, found by a bounded search upwards
from an estimate that is never too large. -/
def Binary.scale (x : Binary) : Int :=
  let log := (x.m.log2 : Int) + x.q
  let estimate := Int.fdiv (log * 30103) 100000 - 1
  go 4 estimate
where
  go : Nat → Int → Int
    | 0, k => k
    | n + 1, k => if compareScaled 1 k x.m x.q == .gt then k else go n (k + 1)

/-- The multiple of `10 ^ e` at or below the size, as a number of units. -/
def Binary.floorUnits (x : Binary) (e : Int) : Nat :=
  ((x.m * Nat.pow 10 (-e).toNat) <<< x.q.toNat) / (Nat.pow 10 e.toNat <<< (-x.q).toNat)

/-- The decimal with unit `10 ^ e` that reads back, the nearer one if two do,
and the even one if both are as near. -/
def Binary.onGrid? (x : Binary) (e : Int) : Option Scientific :=
  let n := x.floorUnits e
  let low : Scientific := ⟨n, e⟩
  let high : Scientific := ⟨n + 1, e⟩
  match x.readsBack low, x.readsBack high with
  | true, true =>
    match compareScaled (2 * n + 1) e (2 * x.m) x.q with
    | .gt => some low
    | .lt => some high
    | .eq => if n % 2 = 0 then some low else some high
  | true, false => some low
  | false, true => some high
  | false, false => none

/-- Drop zeros at the end of the digits. -/
def Scientific.strip : Nat → Scientific → Scientific
  | 0, d => d
  | n + 1, d =>
    if d.digits % 10 = 0 ∧ d.digits ≠ 0 then Scientific.strip n ⟨d.digits / 10, d.exponent + 1⟩
    else d

/-- The size itself, exactly. -/
def Binary.exact (x : Binary) : Scientific :=
  if x.q < 0 then ⟨x.m * Nat.pow 5 (-x.q).toNat, x.q⟩ else ⟨x.m <<< x.q.toNat, 0⟩

/-- The shortest decimal that reads back.  Seventeen digits always do. -/
def Binary.shortest (x : Binary) : Scientific :=
  if x.m = 0 then ⟨0, 0⟩
  else
    let k := x.scale
    match (List.range 17).findSome? fun n : Nat => x.onGrid? (k - ((n : Int) + 1)) with
    | some d => d.strip 17
    | none => x.exact

end Interchain.Decimal
