/-!
# Integers in texts

Commands read integers in decimal, octal behind a zero and hexadecimal behind `0x`,
with white space and a sign in front.  What follows the digits is left to them.
-/

namespace Interchain.Integer

/-- White space in ASCII. -/
def isSpace (c : Char) : Bool :=
  c == ' ' || ('\t' ≤ c && c ≤ '\r')

/-- The value of a digit. -/
def digit? (base : Nat) (c : Char) : Option Nat :=
  let value? :=
    if '0' ≤ c ∧ c ≤ '9' then some (c.toNat - 48)
    else if 'a' ≤ c ∧ c ≤ 'f' then some (c.toNat - 87)
    else if 'A' ≤ c ∧ c ≤ 'F' then some (c.toNat - 55)
    else none
  value?.filter (· < base)

/-- Read digits onto a value. -/
def digits (base value : Nat) : List Char → Nat × List Char
  | [] => (value, [])
  | c :: cs =>
    match digit? base c with
    | some d => digits base (value * base + d) cs
    | none => (value, c :: cs)

/-- The base that digits are written in, and the digits. -/
def base (cs : List Char) : Nat × List Char :=
  match cs with
  | '0' :: x :: d :: rest =>
    if (x = 'x' ∨ x = 'X') ∧ (digit? 16 d).isSome then (16, d :: rest) else (8, cs)
  | '0' :: _ => (8, cs)
  | _ => (10, cs)

/-- The sign of an integer, and what follows it. -/
def sign (cs : List Char) : Bool × List Char :=
  match cs.dropWhile isSpace with
  | '-' :: rest => (true, rest)
  | '+' :: rest => (false, rest)
  | rest => (false, rest)

/-- The magnitude without a sign that a text begins with, and what follows it. -/
def natural? (base : Nat) (cs : List Char) : Option (Nat × List Char) :=
  if cs.head?.any fun c => (digit? base c).isSome then some (digits base 0 cs) else none

/-- The integer that a text begins with, as whether it is negative and how far it is
from zero, and what follows it. -/
def read? (cs : List Char) : Option (Bool × Nat × List Char) :=
  let (negative, rest) := sign cs
  let (b, rest) := base rest
  (natural? b rest).map fun r => (negative, r.1, r.2)

/-- The integer in decimal that a text begins with. -/
def decimal? (cs : List Char) : Option (Bool × Nat × List Char) :=
  let (negative, rest) := sign cs
  (natural? 10 rest).map fun r => (negative, r.1, r.2)

/-- The greatest integer of 64 bits. -/
def greatest : Nat := 9223372036854775807

/-- Whether an integer has 64 bits. -/
def isSmall (negative : Bool) (n : Nat) : Bool :=
  n ≤ if negative then greatest + 1 else greatest

/-- The integer of 64 bits nearest to this. -/
def clamped (negative : Bool) (n : Nat) : Int64 :=
  if negative then Int64.ofInt (-(min n (greatest + 1) : Nat)) else Int64.ofNat (min n greatest)

end Interchain.Integer
