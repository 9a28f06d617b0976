import Interchain.Program.Printing
import Interchain.Program.Basic
import Interchain.Shell.State

/-!
# Printing in a shell

The commands of a shell that print their arguments.  They know fewer escapes and
flags than the programs of the same names, and complain in the shell's own way.
-/

namespace Interchain.Shell

open Program Program.Printing

namespace Printf

def dialect : Escape.Dialect := ⟨false, false, false, false⟩

def argumentDialect : Escape.Dialect := ⟨true, false, true, false⟩

/-- Complain if a number was not all of an argument, or is out of range. -/
def verify (arg rest : Octets) (isOut : Bool) : Printing Unit := do
  if !rest.isEmpty then
    if rest.length = arg.length then blame 1 (arg ++ ": expected numeric value".toList)
    else blame 1 (arg ++ ": not completely converted".toList)
  else if isOut then blame 1 (arg ++ ": Numerical result out of range".toList)

/-- The number that the next argument stands for, where a quote stands in front of a
character. -/
def number {α : Type} (none : α) (code : Nat → α) (read : Octets → α × Octets × Bool) :
    Printing α := do
  match ← arg? with
  | .none => return none
  | some arg =>
    match arg with
    | '"' :: rest | '\'' :: rest => return code ((rest.headD '\x00').toNat)
    | _ =>
      let (a, rest, isOut) := read arg
      verify arg rest isOut
      return a

def signed : Printing Int := number 0 Int.ofNat Program.Printf.readSigned

def unsigned : Printing Nat := number 0 id Program.Printf.readUnsigned

def real : Printing Decimal.Real :=
  number ⟨false, .finite 0 0⟩ (fun n => ⟨false, .finite n 0⟩) (Program.Printf.readReal .double)

/-- The integer of 32 bits that a wider one is cut to. -/
def cut (n : Int) : Int := Int.bmod n 4294967296

/-- A width or a precision. -/
def measure : Measure → Printing (Option Int)
  | .absent => return none
  | .given n => return some n
  | .argument => return some (cut (← signed))

/-- Print the next argument by a conversion. -/
def convert (l : Layout) (c : Char) : Printing Unit := do
  if c = 's' then put (l.text ((← arg?).getD []))
  else if c = 'b' then
    let (text, extent) := Escape.unescape argumentDialect ((← arg?).getD [])
    put (l.text text)
    if extent ≠ .whole then throw ()
  else if c = 'c' then put (l.pad false [] [((← arg?).getD []).headD '\x00'])
  else if c = 'd' ∨ c = 'i' then
    let n ← signed
    put (l.integer c (n < 0) n.natAbs)
  else if ['o', 'u', 'x', 'X'].contains c then put (l.integer c false (← unsigned))
  else put (l.real .double c (← real))

/-- Print what follows a percent sign. -/
def directive (cs : Octets) : Printing Octets := do
  let (d, rest) := Directive.read ['#', '-', '+', ' ', '0'] cs
  let width ← measure d.width
  let precision ← measure d.precision
  match rest with
  | [] => fail 2 "missing format character".toList
  | c :: after =>
    if "sbcdiouxXaAeEfFgG".toList.contains c then
      let precision := precision.bind fun n => if n < 0 then none else some n.toNat
      convert (d.layout (width.getD 0) precision) c
      return after
    else
      fail 2 ('%' :: cs.take (cs.length - after.length) ++ ": invalid directive".toList)

/-- Print what a format begins with. -/
def item (c : Char) (rest : Octets) : Printing Octets := do
  match c, rest with
  | '%', '%' :: rest =>
    put ['%']
    return rest
  | '%', rest => directive rest
  | '\\', c :: rest =>
    match Escape.read dialect c rest with
    | .text cs rest =>
      put cs
      return rest
    | _ => return rest
  | c, rest =>
    put [c]
    return rest

/-- What comes of printing arguments by a format. -/
def outcome (format : Octets) (args : List Octets) : List Printed × Nat :=
  Printing.outcome (again (through item format.length format) (args.length + 1)) args

/-- Run the command behind its options. -/
def run (args : List Octets) : Sh Nat := do
  match args with
  | [] => Sh.fail "usage: printf format [arg ...]".toList
  | format :: args => do
    let (printed, status) := outcome format args
    (printed.filterMap Printed.complaint?).forM Sh.complain
    Sh.print (printed.filterMap Printed.text?).flatten
    if status = 2 then
      Sh.setStatus 2
      throw .error
    else return status

end Printf

/-- Run the command that prints its arguments in a line. -/
def runEcho (args : List Octets) : Sh Nat := do
  let isOpen := args.head? == some ['-', 'n']
  let text := Echo.line Printf.argumentDialect (!isOpen) true (if isOpen then args.drop 1 else args)
  Sh.print text
  return 0

end Interchain.Shell
