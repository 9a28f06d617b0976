import Interchain.Program.Cat
import Interchain.Program.Printf

/-!
# Programs

The programs that are found in the system beside the files of the user, and what
those come to that are no shell.
-/

namespace Interchain

inductive Program where
  | cat
  | echo
  | printf
  | succeed
  | fail
  | shell
deriving DecidableEq, Repr

namespace Program

/-- The programs by name. -/
def names : List (Octets × Program) :=
  [("cat", .cat), ("echo", .echo), ("printf", .printf), ("true", .succeed), ("false", .fail),
   ("sh", .shell), ("dash", .shell)].map fun n => (n.1.toList, n.2)

/-- Where programs are kept. -/
def directory : Place := ["bin".toList, "usr".toList]

/-- The program at a place. -/
def ofPlace? : Place → Option Program
  | name :: place =>
    if place = directory then (names.find? fun n => n.1 == name).map Prod.snd else none
  | [] => none

/-- Files with those of the system. -/
def withSystem (files : Files) : Files :=
  let empty := fun (place : Place) => (place, Except.ok ([] : List UInt8))
  let made := fun (path : String) => (Place.ofPath path.toList, Except.error FileFault.isDirectory)
  ⟨files.entries ++ names.map (fun n => empty (n.1 :: directory)) ++
    Device.names.map (fun d => empty (d.1.toList :: Place.devices)) ++
    ["/tmp", "/etc", "/home", "/root", "/var", "/dev/fd", "/usr/sbin", "/usr/local/bin",
     "/usr/local/sbin", "/proc"].map made,
   (["bin".toList], directory) :: (["sbin".toList], ["sbin".toList, "usr".toList]) ::
     files.links⟩

/-! ## Printing arguments -/

namespace Echo

/-- The escapes that are replaced on demand. -/
def dialect : Escape.Dialect := ⟨true, true, true, false⟩

/-- The letters of an option. -/
def option? : Octets → Option Octets
  | '-' :: c :: cs => if (c :: cs).all ['n', 'e', 'E'].contains then some (c :: cs) else none
  | _ => none

/-- Arguments in a line, whose end may be left out and whose escapes may be replaced. -/
def line (dialect : Escape.Dialect) (newline escapes : Bool) (args : List Octets) : Octets :=
  let text := [' '].intercalate args
  let (text, extent) := if escapes then Escape.unescape dialect text else (text, .whole)
  if newline ∧ extent = .whole then text ++ ['\n'] else text

/-- What is printed for arguments. -/
def text (newline escapes : Bool) : List Octets → Octets
  | [] => line dialect newline escapes []
  | arg :: args =>
    match option? arg with
    | none => line dialect newline escapes (arg :: args)
    | some letters =>
      text (newline && !letters.contains 'n')
        (letters.foldl (fun on c => if c = 'e' then true else if c = 'E' then false else on) escapes)
        args

end Echo

/-! ## Running programs -/

variable (p : Process) (name : Octets)

/-- Print, and complain under a name.  Output that cannot be written is a failure. -/
def emit : List Printed → Act Bool
  | [] => return true
  | .text text :: rest => do
    let isFine ← p.write 1 text
    let areFine ← emit rest
    return isFine && areFine
  | .complaint text :: rest => do
    let _ ← p.write 2 (name ++ [':', ' '] ++ text ++ ['\n'])
    emit rest

/-- End with a status if all could be printed. -/
def concluded (printed : List Printed) (status : Nat) : Act Nat := do
  if ← emit p name printed then return status
  else
    let _ ← emit p name [.complaint "write error: Bad file descriptor".toList]
    return 1

def runEcho (args : List Octets) : Act Nat :=
  concluded p name [.text (Echo.text true false args)] 0

def runPrintf (args : List Octets) : Act Nat := do
  let args := if args.head? = some ['-', '-'] then args.drop 1 else args
  match args with
  | [] =>
    let _ ← p.write 2 (name ++ ": missing operand\nTry '".toList ++ name ++
      " --help' for more information.\n".toList)
    return 1
  | format :: args =>
    let (printed, status) := Printing.outcome (Printf.format format args.length) args
    concluded p name printed status

/-- Run a program that is no shell. -/
def run (program : Program) (args : List Octets) : Act Nat :=
  match program with
  | .cat => Cat.run p name args
  | .echo => runEcho p name args
  | .printf => runPrintf p name args
  | .succeed => return 0
  | .fail | .shell => return 1

end Program

end Interchain
