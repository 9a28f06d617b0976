import Interchain.Program.Printing
import Interchain.Program.Quotation

/-!
# The command that prints by a format

It takes numbers of extended precision and integers of 64 bits, and quotes the
arguments that it complains about.
-/

namespace Interchain.Program.Printf

open Printing

def dialect : Escape.Dialect := ⟨false, true, true, true⟩

/-- The escapes in an argument whose escapes are to be replaced. -/
def argumentDialect : Escape.Dialect := { dialect with leadingZero := true }

/-- Print a text with its escapes replaced. -/
def putEscaped (cs : Octets) : Printing Unit := do
  let (text, extent) := Escape.unescape argumentDialect cs
  put text
  match extent with
  | .whole => return ()
  | .stopped => finish 0
  | .failed what => fail 1 what

/-- Complain if a number was not all of an argument, or is out of range. -/
def verify (arg rest : Octets) (isOut : Bool) : Printing Unit := do
  if isOut then blame 1 (quoted arg ++ ": Numerical result out of range".toList)
  else if !rest.isEmpty then
    if rest.length = arg.length then blame 1 (quoted arg ++ ": expected a numeric value".toList)
    else blame 1 (quoted arg ++ ": value not completely converted".toList)

/-- The number that an argument stands for, where a quote stands in front of a
character. -/
def number {α : Type} (code : Nat → α) (read : Octets → α × Octets × Bool) (arg : Octets) :
    Printing α := do
  match arg with
  | q :: c :: rest =>
    if q = '"' ∨ q = '\'' then
      if !rest.isEmpty then
        complain ("warning: ".toList ++ rest ++
          ": character(s) following character constant have been ignored".toList)
      return code c.toNat
    else verified
  | _ => verified
where
  verified : Printing α := do
    let (a, rest, isOut) := read arg
    verify arg rest isOut
    return a

/-- Read an integer that has a sign. -/
def readSigned (arg : Octets) : Int × Octets × Bool :=
  match Integer.read? arg with
  | none => (0, arg, false)
  | some (negative, n, rest) =>
    ((Integer.clamped negative n).toInt, rest, !Integer.isSmall negative n)

/-- Read an integer without a sign; below zero it wraps around. -/
def readUnsigned (arg : Octets) : Nat × Octets × Bool :=
  match Integer.read? arg with
  | none => (0, arg, false)
  | some (negative, n, rest) =>
    if UInt64.size ≤ n then (UInt64.size - 1, rest, true)
    else (if negative then (UInt64.size - n) % UInt64.size else n, rest, false)

/-- Read a number with a fraction. -/
def readReal (p : Decimal.Precision) (arg : Octets) : Decimal.Real × Octets × Bool :=
  match p.read? arg with
  | none => (⟨false, .finite 0 0⟩, arg, false)
  | some (r, isOut, rest) => (r, rest, isOut)

def signed : Octets → Printing Int := number Int.ofNat readSigned

def unsigned : Octets → Printing Nat := number id readUnsigned

def real : Octets → Printing Decimal.Real :=
  number (fun n => ⟨false, .finite n 0⟩) (readReal .extended)

/-- The greatest width. -/
def greatest : Int := 2147483647

/-- The width of a directive. -/
def width : Measure → Printing Int
  | .absent => return 0
  | .given n =>
    if greatest < n then
      fail 1 "cannot perform formatted output: Value too large for defined data type".toList
    else return n
  | .argument => do
    match ← arg? with
    | none => return 0
    | some arg =>
      let n ← signed arg
      if n < -greatest - 1 ∨ greatest < n then
        fail 1 ("invalid field width: ".toList ++ quoted arg)
      else return n

/-- The precision of a directive; a negative one counts as none. -/
def precision : Measure → Printing (Option Nat)
  | .absent => return none
  | .given n => return some n
  | .argument => do
    match ← arg? with
    | none => return some 0
    | some arg =>
      let n ← signed arg
      if greatest < n then fail 1 ("invalid precision: ".toList ++ quoted arg)
      else return if n < 0 then none else some n.toNat

/-- Whether flags and a precision can stand with a conversion. -/
def allows (d : Directive) (c : Char) : Bool :=
  let apart := d.flags.contains '\'' || d.flags.contains 'I'
  ['a', 'A', 'c', 'd', 'e', 'E', 'f', 'F', 'g', 'G', 'i', 'o', 's', 'u', 'x', 'X'].contains c &&
    !(apart && ['a', 'A', 'c', 'e', 'E', 'o', 's', 'x', 'X'].contains c) &&
    !(d.flags.contains '#' && ['c', 'd', 'i', 's', 'u'].contains c) &&
    !(d.flags.contains '0' && ['c', 's'].contains c) &&
    !(d.precision ≠ .absent && c == 'c')

/-- Print an argument by a conversion. -/
def convert (l : Layout) (c : Char) (arg : Octets) : Printing Unit := do
  if c = 's' then put (l.text arg)
  else if c = 'c' then put (l.pad false [] [arg.headD '\x00'])
  else if c = 'd' ∨ c = 'i' then
    let n ← signed arg
    put (l.integer c (n < 0) n.natAbs)
  else if ['o', 'u', 'x', 'X'].contains c then put (l.integer c false (← unsigned arg))
  else put (l.real .extended c (← real arg))

/-- Print what follows a percent sign. -/
def directive (cs : Octets) : Printing Octets := do
  let (d, rest) := Directive.read ['-', '+', ' ', '#', '0', '\'', 'I'] cs
  let w ← match d.width with
    | .argument => width .argument
    | _ => pure 0
  let p ← precision d.precision
  let rest := rest.dropWhile ['l', 'L', 'h', 'j', 't', 'z'].contains
  let c := rest.headD '\x00'
  if !allows d c then
    fail 1 ('%' :: cs.take (cs.length - rest.length) ++ rest.take 1 ++
      ": invalid conversion specification".toList)
  else
    let w ← match d.width with
      | .argument => pure w
      | m => width m
    convert (d.layout w p) c ((← arg?).getD [])
    return rest.drop 1

/-- Print what a format begins with. -/
def item (c : Char) (rest : Octets) : Printing Octets := do
  match c, rest with
  | '%', '%' :: rest =>
    put ['%']
    return rest
  | '%', 'b' :: rest =>
    (← arg?).forM putEscaped
    return rest
  | '%', 'q' :: rest =>
    (← arg?).forM fun arg => put (shellQuoted arg)
    return rest
  | '%', rest => directive rest
  | '\\', c :: rest =>
    match Escape.read dialect c rest with
    | .stop => finish 0
    | .invalid what => fail 1 what
    | .text cs rest =>
      put cs
      return rest
  | c, rest =>
    put [c]
    return rest

/-- Print arguments by a format. -/
def format (cs : Octets) (count : Nat) : Printing Unit := do
  again (through item cs.length cs) (count + 1)
  match (← get).args with
  | [] => return ()
  | arg :: _ => complain ("warning: ignoring excess arguments, starting with ".toList ++ quoted arg)

end Interchain.Program.Printf
