import Interchain.Program.Escape
import Interchain.Program.Layout

/-!
# Printing by a format

A format is printed with its directives replaced by the arguments in turn, and once
more as long as arguments are left.  What is printed and what is complained about
are kept in their order.
-/

namespace Interchain.Program

/-- What a command prints. -/
inductive Printed where
  | text (text : Octets)
  | complaint (text : Octets)
deriving DecidableEq, Repr

namespace Printed

def text? : Printed → Option Octets
  | .text cs => some cs
  | .complaint _ => none

def complaint? : Printed → Option Octets
  | .text _ => none
  | .complaint cs => some cs

end Printed

/-- A command while it prints. -/
structure Printer where
  /-- What it printed, last first. -/
  printed : List Printed
  args : List Octets
  /-- Some argument was asked for. -/
  used : Bool
  status : Nat

/-- Steps of printing, any of which may be the last. -/
abbrev Printing := ExceptT Unit (StateM Printer)

namespace Printing

def put (cs : Octets) : Printing Unit :=
  modify fun p => { p with printed := .text cs :: p.printed }

/-- Complain. -/
def complain (cs : Octets) : Printing Unit :=
  modify fun p => { p with printed := .complaint cs :: p.printed }

/-- Complain, and end with this status in the end. -/
def blame (status : Nat) (cs : Octets) : Printing Unit := do
  complain cs
  modify fun p => { p with status }

/-- End with a status. -/
def finish {α : Type} (status : Nat) : Printing α := do
  modify fun p => { p with status }
  throw ()

/-- Complain and end. -/
def fail {α : Type} (status : Nat) (cs : Octets) : Printing α := do
  complain cs
  finish status

/-- The next argument, if there is one. -/
def arg? : Printing (Option Octets) := do
  let p ← get
  match p.args with
  | [] => return none
  | arg :: args =>
    set { p with args, used := true }
    return some arg

/-- Run a step on the rest of a text until nothing is left of it. -/
def through (step : Char → Octets → Printing Octets) : Nat → Octets → Printing Unit
  | 0, _ => return ()
  | _, [] => return ()
  | n + 1, c :: rest => do through step n (← step c rest)

/-- Print a format, and again while it takes up arguments. -/
def again (format : Printing Unit) : Nat → Printing Unit
  | 0 => return ()
  | n + 1 => do
    modify fun p => { p with used := false }
    format
    let p ← get
    if p.used && !p.args.isEmpty then again format n

/-- What comes of printing: what is printed, and the status. -/
def outcome (p : Printing Unit) (args : List Octets) : List Printed × Nat :=
  let (_, p) := p.run ⟨[], args, false, 0⟩
  (p.printed.reverse, p.status)

end Printing

/-! ## Directives -/

/-- How a width or a precision is given. -/
inductive Measure where
  | absent
  | given (n : Nat)
  /-- By an argument. -/
  | argument
deriving DecidableEq, Repr

/-- What stands between a percent sign and the letter of a conversion. -/
structure Directive where
  flags : Octets
  width : Measure
  precision : Measure
deriving DecidableEq, Repr

namespace Directive

/-- A width, or a precision behind its point. -/
def measure (ifNone : Measure) (cs : Octets) : Measure × Octets :=
  match cs with
  | '*' :: rest => (.argument, rest)
  | _ =>
    let (n, rest) := Integer.digits 10 0 cs
    (if rest.length = cs.length then ifNone else .given n, rest)

/-- Read a directive with the given flags, and what follows. -/
def read (flags : Octets) (cs : Octets) : Directive × Octets :=
  let given := cs.takeWhile flags.contains
  let (width, rest) := measure .absent (cs.drop given.length)
  let (precision, rest) := match rest with
    | '.' :: rest => measure (.given 0) rest
    | _ => (.absent, rest)
  (⟨given, width, precision⟩, rest)

/-- The layout of a directive with its width and precision known.  A negative width fills
up behind the value. -/
def layout (d : Directive) (width : Int) (precision : Option Nat) : Layout :=
  ⟨d.flags.contains '-' || width < 0, d.flags.contains '0', d.flags.contains '+',
   d.flags.contains ' ', d.flags.contains '#', width.natAbs, precision⟩

end Directive

end Interchain.Program
