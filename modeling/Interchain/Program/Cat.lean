import Interchain.Program.Quotation
import Interchain.Process.World

/-!
# The command that shows files

It writes files one after the other, on demand with numbers in front of lines and
with characters made visible that are not.
-/

namespace Interchain.Program.Cat

structure Options where
  number : Bool
  /-- Empty lines have no numbers. -/
  nonblank : Bool
  /-- Of empty lines in a row only the first is shown. -/
  squeeze : Bool
  ends : Bool
  tabs : Bool
  nonprinting : Bool
deriving DecidableEq, Repr

/-- What is asked for by the arguments. -/
inductive Request where
  | display (options : Options) (names : List Octets)
  | explain
  /-- An option that cannot be used, and what is said of it. -/
  | refuse (what : Octets)

namespace Options

def none : Options := ⟨false, false, false, false, false, false⟩

/-- The options with the one that a letter stands for. -/
def set? (o : Options) : Char → Option Options
  | 'A' => some { o with ends := true, tabs := true, nonprinting := true }
  | 'b' => some { o with number := true, nonblank := true }
  | 'e' => some { o with ends := true, nonprinting := true }
  | 'E' => some { o with ends := true }
  | 'n' => some { o with number := true }
  | 's' => some { o with squeeze := true }
  | 't' => some { o with tabs := true, nonprinting := true }
  | 'T' => some { o with tabs := true }
  | 'u' => some o
  | 'v' => some { o with nonprinting := true }
  | _ => Option.none

/-- The options by name, with the letters that stand for the same. -/
def names : List (String × Option Char) :=
  [("number-nonblank", some 'b'), ("number", some 'n'), ("squeeze-blank", some 's'),
   ("show-nonprinting", some 'v'), ("show-ends", some 'E'), ("show-tabs", some 'T'),
   ("show-all", some 'A'), ("help", Option.none), ("version", Option.none)]

/-- The options with those in a cluster of letters. -/
def letters (o : Options) : Octets → Except Octets Options
  | [] => .ok o
  | c :: cs =>
    match o.set? c with
    | some o => letters o cs
    | Option.none => .error ("invalid option -- '".toList ++ [c, '\''])

/-- The name of an option, of which the beginning is enough. -/
def name? (written : Octets) : Except Octets (String × Option Char) :=
  let front := written.takeWhile (· ≠ '=')
  let found := match names.find? fun n => n.1.toList == front with
    | some n => [n]
    | Option.none => names.filter fun n => front.isPrefixOf n.1.toList
  match found with
  | [] => .error ("unrecognized option '--".toList ++ written ++ ['\''])
  | [n] =>
    if front.length < written.length then
      .error ("option '--".toList ++ n.1.toList ++ "' doesn't allow an argument".toList)
    else .ok n
  | many =>
    .error ("option '--".toList ++ written ++ "' is ambiguous; possibilities:".toList ++
      many.flatMap fun n => " '--".toList ++ n.1.toList ++ ['\''])

end Options

/-- Read the arguments.  Options may stand behind names. -/
def Request.ofArgs (o : Options) (names : List Octets) : List Octets → Request
  | [] => .display o names.reverse
  | arg :: args =>
    match arg with
    | ['-', '-'] => .display o (names.reverse ++ args)
    | '-' :: '-' :: written =>
      match Options.name? written with
      | .error what => .refuse what
      | .ok (_, none) => .explain
      | .ok (_, some c) => ofArgs ((o.set? c).getD o) names args
    | '-' :: c :: cs =>
      match o.letters (c :: cs) with
      | .error what => .refuse what
      | .ok o => ofArgs o names args
    | _ => ofArgs o (arg :: names) args

/-! ## Showing text -/

/-- Where in the text one is. -/
structure Position where
  /-- Within a line. -/
  inLine : Bool
  /-- The number of empty lines in front. -/
  blanks : Nat
  /-- The number of the last line that has one. -/
  line : Nat
  /-- A return was read that may end the line. -/
  returned : Bool
deriving DecidableEq, Repr

namespace Position

def start : Position := ⟨false, 0, 0, false⟩

end Position

/-- The number of the next line. -/
def lineNumber (n : Nat) : Octets :=
  let ds := Nat.toDigits 10 n
  List.replicate (6 - ds.length) ' ' ++ ds ++ ['\t']

/-- A character that is made visible. -/
def visible (tabs : Bool) (c : Char) : Octets :=
  let low := fun (n : Nat) =>
    if n < 32 then ['^', Char.ofNat (n + 64)] else if n = 127 then ['^', '?'] else [Char.ofNat n]
  if c = '\t' ∧ !tabs then [c]
  else if c.toNat < 128 then low c.toNat
  else 'M' :: '-' :: low (c.toNat - 128)

/-- Read on with a character, and show it. -/
def step (o : Options) (p : Position) (c : Char) : Position × Octets :=
  if c = '\n' then
    let blanks := if p.inLine then 0 else p.blanks + 1
    if o.squeeze ∧ 2 ≤ blanks then ({ p with blanks }, [])
    else
      let counted := !p.inLine && o.number && !o.nonblank
      let line := if counted then p.line + 1 else p.line
      ({ p with inLine := false, blanks, line, returned := false },
        (if counted then lineNumber line else []) ++ (if p.returned then ['^', 'M'] else []) ++
          (if o.ends then ['$'] else []) ++ ['\n'])
  else
    let counted := !p.inLine && o.number
    let line := if counted then p.line + 1 else p.line
    let held := o.ends && !o.nonprinting && c == '\r'
    ({ p with inLine := true, blanks := 0, line, returned := held },
      (if p.returned then ['\r'] else []) ++ (if counted then lineNumber line else []) ++
        if held then [] else if o.nonprinting then visible o.tabs c
        else if o.tabs ∧ c = '\t' then ['^', 'I'] else [c])

/-- Show a text. -/
def shown (o : Options) (p : Position) : Octets → Position × Octets
  | [] => (p, [])
  | c :: cs =>
    let (p, front) := step o p c
    let (p, rest) := shown o p cs
    (p, front ++ rest)

/-! ## Files -/

/-- Whether a stream leads to the file that another writes to, which it would not come to
the end of. -/
def feedsItself (w : World) (input output : Option Nat) : Bool :=
  match input.bind (w.streams[·]?), output.bind (w.streams[·]?) with
  | some (.file place offset _), some (.file target _ _) =>
    place == target && offset < (w.content place).length
  | _, _ => false

variable (p : Process) (name : Octets)

/-- Complain. -/
def complain (what : Octets) : Act Unit := do
  let _ ← p.write 2 (name ++ [':', ' '] ++ what ++ ['\n'])

/-- Show a file, and say where in the text one is and whether all went well. -/
def one (o : Options) (position : Position) (path : Octets) : Act (Position × Bool) := do
  let input : Except FileFault (Option Nat) ←
    if path = ['-'] then pure (.ok (p.stream? 0))
    else pure ((← p.openFile .read false path).map some)
  match input with
  | .error f => failed f.text.toList
  | .ok input =>
    let w ← get
    if feedsItself w input (p.stream? 1) then failed "input file is output file".toList
    else
      let reader := p.redirect 0 input
      match ← reader.readAll 0 with
      | .error f => failed f.text.toList
      | .ok text =>
        let (position, text) := shown o position text
        if ← p.write 1 text then return (position, true)
        else
          complain p name "write error: Bad file descriptor".toList
          return (position, false)
where
  failed (what : Octets) : Act (Position × Bool) := do
    complain p name (nameQuoted path ++ [':', ' '] ++ what)
    return (position, false)

/-- Show files in turn. -/
def all (o : Options) : Position → List Octets → Act (Position × Bool)
  | position, [] => return (position, true)
  | position, path :: paths => do
    let (position, isFine) ← one p name o position path
    let (position, areFine) ← all o position paths
    return (position, isFine && areFine)

/-- Run the command. -/
def run (args : List Octets) : Act Nat := do
  match Request.ofArgs .none [] args with
  | .refuse what =>
    complain p name what
    let _ ← p.write 2 ("Try '".toList ++ name ++ " --help' for more information.\n".toList)
    return 1
  | .explain => return 0
  | .display o paths =>
    if (p.stream? 1).isNone then
      complain p name "standard output: Bad file descriptor".toList
      return 1
    else
      let paths := if paths.isEmpty then [['-']] else paths
      let (position, areFine) ← all p name o .start paths
      if position.returned then
        let _ ← p.write 1 ['\r']
      if paths.contains ['-'] && (p.stream? 0).isNone then
        complain p name "closing standard input: Bad file descriptor".toList
        return 1
      else return if areFine then 0 else 1

end Interchain.Program.Cat
