import Interchain.Shell.Arguments
import Interchain.Shell.Fields

/-!
# Commands for variables

The commands of a shell that set variables, read them from the input or note what
else holds of them.
-/

namespace Interchain.Shell.Builtin

open Sh

/-- List variables under a word in front, by name. -/
def list (front : Octets) (which : Binding → Bool) : Sh Unit := do
  let s ← session
  let chosen := (s.bindings.filter fun b => which b.2).mergeSort fun a b => a.1.before b.1
  print (chosen.flatMap fun b =>
    let value := match b.2.value with
      | some v => '=' :: quoted v
      | none => []
    (if front.isEmpty then [] else front ++ [' ']) ++ b.1 ++ value ++ ['\n'])

/-- Note that something holds of variables, or list those of which it does. -/
def note (front : Octets) (which : Binding → Bool) (flags : Binding → Binding)
    (args : List Octets) : Sh Nat := do
  let (os, args) ← options ['p'] [] args
  if os.isEmpty && !args.isEmpty then
    args.forM fun arg => do
      let (name, value) := splitAssignment arg
      let s ← session
      match value, s.binding? name with
      | none, some b => modifySession fun s => s.bind name (some (flags b))
      | _, _ => setBinding name value flags
  else list front which
  return 0

def export_ : List Octets → Sh Nat :=
  note "export".toList Binding.exported fun b => { b with exported := true }

def readonly : List Octets → Sh Nat :=
  note "readonly".toList Binding.isReadonly fun b => { b with isReadonly := true }

/-- Make variables local to the function. -/
def local_ (args : List Octets) : Sh Nat := do
  let args ← operands args
  if (← session).locals.isEmpty then fail "not in a function".toList
  args.forM fun arg => do
    if arg = ['-'] then keep (.options (← session).options) else localize arg id
  return 0

/-- Forget variables or functions. -/
def unset (args : List Octets) : Sh Nat := do
  let (os, args) ← options ['v', 'f'] [] args
  let ofFunctions := os.getLast?.any fun o => o.1 == 'f'
  args.forM fun name =>
    if ofFunctions then
      modifySession fun s => { s with functions := s.functions.filter fun f => f.1 != name }
    else Sh.unset name
  return 0

/-- Drop arguments of the script. -/
def shift (args : List Octets) : Sh Nat := do
  let n ← match args with
    | [] => pure 1
    | arg :: _ => number arg
  let s ← session
  if s.args.length < n then fail "can't shift that many".toList
  modifySession fun s => { s with args := s.args.drop n, optionPlace := ⟨1, none⟩ }
  return 0

/-! ## Reading -/

/-- What is read of a line: pieces that are cut where they were not quoted. -/
structure Line where
  /-- The characters that are read, last first. -/
  run : List Cell
  pieces : List Piece
  /-- How many characters were passed over. -/
  count : Nat
  isWhole : Bool

namespace Line

/-- End the run of characters that are not quoted. -/
def settled (l : Line) : Line :=
  { l with run := [], pieces := l.pieces ++ [⟨l.run.reverse, .separators⟩] }

/-- Read characters up to the end of a line, where backslashes quote characters and join
lines unless they are `raw`. -/
def read (raw : Bool) (l : Line) : Octets → Line
  | [] => l.settled
  | '\n' :: _ => { l.settled with count := l.count + 1, isWhole := true }
  | '\\' :: rest =>
    if raw then read raw { l with run := .char '\\' false :: l.run, count := l.count + 1 } rest
    else
      let l := { l.settled with count := l.count + 1 }
      match rest with
      | [] => l
      | c :: rest =>
        let l := { l with count := l.count + 1 }
        if c = '\n' ∨ c = '\x00' then read raw l rest
        else read raw { l with pieces := l.pieces ++ [⟨[.char c true], .nowhere⟩] } rest
  | c :: rest =>
    let l := { l with count := l.count + 1 }
    if c = '\x00' then read raw l rest else read raw { l with run := .char c false :: l.run } rest

end Line

/-- Set variables to fields, those without one to nothing. -/
def assignFields : List Octets → List (List Cell) → Sh Unit
  | [], _ => return ()
  | name :: names, fields => do
    assign name (Cell.text (fields.headD []))
    assignFields names fields.tail

/-- Read a line into variables. -/
def read (args : List Octets) : Sh Nat := do
  let (os, names) ← options ['r'] ['p'] args
  if names.isEmpty then fail "arg count".toList
  let rest ← act fun p => p.rest 0
  let text := match rest with
    | .ok text => text
    | .error _ => []
  let line := Line.read (os.any fun o => o.1 == 'r') ⟨[], [], 0, false⟩ text
  act fun p => p.advance 0 line.count
  let s ← session
  let separators := s.separators.getD [' ', '\t', '\n']
  assignFields names (Fields.cut separators (some names.length) line.pieces)
  return if line.isWhole then 0 else 1

/-! ## Options of scripts -/

/-- An option that was found. -/
structure Found where
  /-- What the variable is set to. -/
  letter : Char
  /-- What the value of the option is set to, or that it is forgotten. -/
  value : Option Octets
  complaint : Option Octets
  place : OptionPlace
  isOver : Bool

/-- Whether an option is among those that are known, and whether it has a value. -/
def known? (c : Char) : Octets → Option Bool
  | [] => none
  | d :: ':' :: rest => if c = d then some true else known? c rest
  | d :: rest => if c = d then some false else known? c rest

/-- Look for the next option among arguments. -/
def nextOption (known : Octets) (args : List Octets) (at_ : OptionPlace) : Found :=
  let before := args.getD (at_.index - 2) []
  let within := match at_.offset with
    | some n => if 1 < at_.index ∧ n ≤ before.length then before.drop n else []
    | none => []
  let silent := known.head? = some ':'
  let exhausted := fun (index : Nat) => (⟨'?', none, none, ⟨index, none⟩, true⟩ : Found)
  let found := fun (index : Nat) (length : Nat) (c : Char) (cs : Octets) =>
    let place : OptionPlace := ⟨index, some (length - cs.length)⟩
    match known? c known with
    | none =>
      if silent then ⟨'?', some [c], none, place, false⟩
      else ⟨'?', none, some ("Illegal option -".toList ++ [c]), place, false⟩
    | some false => ⟨c, some [], none, place, false⟩
    | some true =>
      match cs, args[index - 1]? with
      | [], none =>
        if silent then ⟨':', some [c], none, place, false⟩
        else ⟨'?', none, some ("No arg for -".toList ++ c :: " option".toList), place, false⟩
      | [], some value => ⟨c, some value, none, ⟨index + 1, none⟩, false⟩
      | _, _ => ⟨c, some cs, none, ⟨index, none⟩, false⟩
  match within, args[at_.index - 1]? with
  | c :: cs, _ => found at_.index before.length c cs
  | [], some ['-', '-'] => exhausted (at_.index + 1)
  | [], some ('-' :: c :: cs) => found (at_.index + 1) (cs.length + 2) c cs
  | [], _ => exhausted at_.index

/-- Take up the next option of a script. -/
def getopts (args : List Octets) : Sh Nat := do
  match args with
  | known :: name :: given => do
    let s ← session
    let given := if given.isEmpty then s.args else given
    let at_ := if given.length + 1 < s.optionPlace.index then ⟨1, none⟩ else s.optionPlace
    let f := nextOption known given at_
    f.complaint.forM fun text => mutter (text ++ ['\n'])
    match f.value with
    | some value => assign "OPTARG".toList value
    | none => if !f.isOver then Sh.unset "OPTARG".toList
    assign "OPTIND".toList (Nat.toDigits 10 f.place.index)
    assign name [f.letter]
    modifySession fun s => { s with optionPlace := f.place }
    return if f.isOver then 1 else 0
  | _ => fail "Usage: getopts optstring var [arg...]".toList

end Interchain.Shell.Builtin
