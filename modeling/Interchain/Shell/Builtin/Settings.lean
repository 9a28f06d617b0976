import Interchain.Shell.Arguments

/-!
# Settings of a shell

The options of a shell, its aliases, its working directory and what it keeps from
new files.
-/

namespace Interchain.Shell

open Sh

/-! ## Options -/

/-- The options of a shell by name, with their letters.  Some have names only. -/
def optionNames : List (String × Char) :=
  [("errexit", 'e'), ("noglob", 'f'), ("ignoreeof", 'I'), ("interactive", 'i'), ("monitor", 'm'),
   ("noexec", 'n'), ("stdin", 's'), ("xtrace", 'x'), ("verbose", 'v'), ("vi", 'V'), ("emacs", 'E'),
   ("noclobber", 'C'), ("allexport", 'a'), ("notify", 'b'), ("nounset", 'u'), ("privileged", 'p'),
   ("nolog", '\x01'), ("debug", '\x02')]

/-- Turn an option on or off. -/
def turn (c : Char) (on : Bool) : Sh Unit :=
  modifySession fun s =>
    { s with
      options := (if on then [c] else []) ++ s.options.filter (· != c)
      undecided := s.undecided.filter (· != c) }

/-- Turn the option with a letter on or off. -/
def turnLetter (c : Char) (on : Bool) : Sh Unit := do
  if c.toNat < 32 || !optionNames.any (fun o => o.2 == c) then
    fail ("Illegal option -".toList ++ [c])
  else if c = 'm' ∧ on then complain "can't access tty; job control turned off".toList
  else turn c on

/-- How all options are, in words or as commands. -/
def listOptions (inWords : Bool) : Sh Unit := do
  let s ← session
  let isOn := fun (c : Char) => s.option c || s.undecided.contains c
  print (optionNames.flatMap fun (name, c) =>
    if inWords then
      name.toList ++ List.replicate (16 - name.length) ' ' ++
        (if isOn c then "on\n" else "off\n").toList
    else (if isOn c then "set -o " else "set +o ").toList ++ name.toList ++ ['\n'])

/-- Turn an option by name. -/
def turnName (name : Option Octets) (on : Bool) : Sh Unit := do
  match name with
  | none => do
    if on then print "Current option settings\n".toList
    listOptions on
  | some name =>
    match optionNames.find? fun o => o.1.toList == name with
    | some (_, c) => turn c on
    | none => fail ("Illegal option -o ".toList ++ name)

/-- What options in front of arguments come to. -/
structure Chosen where
  /-- The script is the next argument. -/
  isScript : Bool
  /-- Arguments are to be replaced even if there are none. -/
  isSet : Bool
  args : List Octets

/-- Turn the options of a cluster, and say what is left of the arguments. -/
def turnCluster (first on : Bool) : Octets → Bool → List Octets → Sh (Bool × List Octets)
  | [], isScript, args => return (isScript, args)
  | c :: cs, isScript, args => do
    if c = 'c' ∧ first then turnCluster first on cs true args
    else if c = 'l' ∧ first then turnCluster first on cs isScript args
    else if c = 'o' then
      turnName args.head? on
      turnCluster first on cs isScript args.tail
    else
      turnLetter c on
      turnCluster first on cs isScript args

/-- Turn the options in front of arguments: those that a shell is started with, or later
ones. -/
def turnAll (first : Bool) : Nat → Bool → List Octets → Sh Chosen
  | 0, isScript, args => return ⟨isScript, false, args⟩
  | _, isScript, [] => return ⟨isScript, false, []⟩
  | n + 1, isScript, arg :: args => do
    match arg with
    | ['-'] =>
      if !first then
        turn 'x' false
        turn 'v' false
      return ⟨isScript, false, args⟩
    | ['-', '-'] => return ⟨isScript, true, args⟩
    | '-' :: cs =>
      let (isScript, args) ← turnCluster first true cs isScript args
      turnAll first n isScript args
    | '+' :: cs =>
      let (isScript, args) ← turnCluster first false cs isScript args
      turnAll first n isScript args
    | _ => return ⟨isScript, false, arg :: args⟩

namespace Builtin

/-! ## Aliases -/

/-- The place of an alias in lists. -/
def aliasRank (name : Octets) : Nat :=
  (name.foldl (fun n c => n + c.toNat) ((name.headD '\x00').toNat * 16)) % 39

def aliasText (a : Octets × Octets) : Octets := a.1 ++ '=' :: quoted a.2 ++ ['\n']

/-- Note or show aliases. -/
def setAliases (args : List Octets) : Sh Nat := do
  if args.isEmpty then
    let s ← session
    let sorted := s.aliases.reverse.mergeSort fun a b => aliasRank a.1 ≤ aliasRank b.1
    print (sorted.flatMap aliasText)
    return 0
  else go 0 args
where
  go (status : Nat) : List Octets → Sh Nat
    | [] => return status
    | arg :: args => do
      let name := arg.take 1 ++ (arg.drop 1).takeWhile (· ≠ '=')
      if name.length < arg.length then
        let value := arg.drop (name.length + 1)
        modifySession fun s =>
          if s.aliases.any fun a => a.1 == name then
            { s with aliases := s.aliases.map fun a => if a.1 = name then (name, value) else a }
          else { s with aliases := (name, value) :: s.aliases }
        go status args
      else
        match (← session).aliases.find? fun a => a.1 == name with
        | some a => do
          print (aliasText a)
          go status args
        | none => do
          mutter ("alias: ".toList ++ name ++ " not found\n".toList)
          go 1 args

/-- Forget aliases. -/
def unalias (args : List Octets) : Sh Nat := do
  let (os, args) ← options ['a'] [] args
  if !os.isEmpty then
    modifySession fun s => { s with aliases := [] }
    return 0
  else go 0 args
where
  go (status : Nat) : List Octets → Sh Nat
    | [] => return status
    | name :: args => do
      if (← session).aliases.any fun a => a.1 == name then
        modifySession fun s => { s with aliases := s.aliases.filter fun a => a.1 != name }
        go status args
      else
        mutter ("unalias: ".toList ++ name ++ " not found\n".toList)
        go 1 args

/-! ## The working directory -/

/-- A path from the root without points in it. -/
def straight (path : Octets) : Octets :=
  let steps := (Place.steps path).foldl Place.walk Place.root
  let text := Place.toPath steps
  match path with
  | '/' :: '/' :: c :: _ => if c = '/' then text else if steps.isEmpty then ['/', '/'] else '/' :: text
  | ['/', '/'] => path
  | _ => text

/-- Make a directory the working one, by its path. -/
def enter (isPhysical : Bool) (path : Octets) : Sh Bool := do
  let s ← session
  let whole :=
    if path.head? = some '/' then path
    else s.directory ++ (if s.directory.getLast? = some '/' then [] else ['/']) ++ path
  let whole := if isPhysical then whole else straight whole
  let place ← act fun p => p.resolve whole
  let w := (← get).world
  match place with
  | .error _ => return false
  | .ok place =>
    match w.files.at? place with
    | .error .isDirectory => do
      let directory := if isPhysical then Place.toPath place else whole
      let flags := fun (b : Binding) => { b with exported := true }
      setBinding "OLDPWD".toList (some s.directory) flags
      setBinding "PWD".toList (some directory) flags
      modifySession fun s => { s with directory, process := { s.process with place } }
      return true
    | _ => return false

/-- The directories that are named in a variable, of which an empty one is the working
one. -/
def searched (path : Octets) : List Octets :=
  go [] path
where
  go (front : Octets) : Octets → List Octets
    | [] => [front.reverse]
    | c :: cs => if c = ':' then front.reverse :: go [] cs else go (c :: front) cs

/-- A name in a directory. -/
def inDirectory (directory name : Octets) : Octets :=
  if directory.isEmpty then name else directory ++ '/' :: name

/-- Whether there is a directory at a path. -/
def isDirectory (path : Octets) : Sh Bool := act fun p => do
  match ← p.resolve path with
  | .error _ => return false
  | .ok place =>
    return match (← get).files.at? place with
      | .error .isDirectory => true
      | _ => false

/-- The first of the directories that holds a directory with this name. -/
def firstHolding (name : Octets) : List Octets → Sh (Option Octets)
  | [] => return none
  | d :: ds => do
    if ← isDirectory (inDirectory d name) then return some d else firstHolding name ds

/-- Change the working directory. -/
def cd (args : List Octets) : Sh Nat := do
  let (os, args) ← options ['L', 'P'] [] args
  let isPhysical := os.getLast?.any fun o => o.1 == 'P'
  let s ← session
  let (name, isShown) := match args.head? with
    | none => ((s.value? "HOME".toList).getD [], false)
    | some ['-'] => ((s.value? "OLDPWD".toList).getD [], true)
    | some name => (name, false)
  let first := (name.takeWhile (· ≠ '/'))
  let isFixed := name.head? = some '/' ∨ first = ['.'] ∨ first = ['.', '.']
  let name := if name.isEmpty then ['.'] else name
  let holder ← if isFixed then pure none
    else firstHolding name (searched ((s.value? "CDPATH".toList).getD []))
  let path := match holder with
    | some d => inDirectory d name
    | none => name
  if ← enter isPhysical path then
    if isShown || holder.any fun d => !d.isEmpty then print ((← session).directory ++ ['\n'])
    return 0
  else fail ("can't cd to ".toList ++ args.headD [])

/-- Show the working directory. -/
def pwd (args : List Octets) : Sh Nat := do
  let (os, _) ← options ['L', 'P'] [] args
  let s ← session
  print ((if os.getLast?.any fun o => o.1 == 'P' then Place.toPath s.process.place else s.directory) ++
    ['\n'])
  return 0

/-! ## The mask -/

/-- What a mask lets those have that it is for, in letters. -/
def maskText (mask : Nat) : Octets :=
  let letters := fun (who : Char) (shift : Nat) =>
    let has := fun (bit : Nat) (c : Char) => if (mask >>> shift) &&& bit = 0 then [c] else []
    who :: '=' :: has 4 'r' ++ has 2 'w' ++ has 1 'x'
  letters 'u' 6 ++ ',' :: letters 'g' 3 ++ ',' :: letters 'o' 0

/-- The bits that letters stand for, of which some stand for what others have. -/
def maskBits (allowed : Nat) : Octets → Option Nat
  | [] => some 0
  | c :: cs =>
    (maskBits allowed cs).bind fun rest =>
      let of := fun (n : Nat) => some (rest ||| n)
      match c with
      | 'r' => of 4
      | 'w' => of 2
      | 'x' => of 1
      | 'X' => of (if allowed &&& 73 = 0 then 0 else 1)
      | 's' | 't' => of 0
      | 'u' => of (allowed >>> 6 &&& 7)
      | 'g' => of (allowed >>> 3 &&& 7)
      | 'o' => of (allowed &&& 7)
      | _ => none

/-- Change what is allowed by a clause. -/
def maskClause (allowed : Nat) (clause : Octets) : Option Nat :=
  let whom := clause.takeWhile ['u', 'g', 'o', 'a'].contains
  let field := (if whom.isEmpty || whom.contains 'a' then 511 else 0) |||
    (if whom.contains 'u' then 448 else 0) ||| (if whom.contains 'g' then 56 else 0) |||
    if whom.contains 'o' then 7 else 0
  match clause.drop whom.length with
  | sign :: letters =>
    (maskBits allowed letters).bind fun bits =>
      let bits := bits * 73 &&& field
      match sign with
      | '+' => some (allowed ||| bits)
      | '-' => some (allowed &&& (511 - bits))
      | '=' => some ((allowed &&& (511 - field)) ||| bits)
      | _ => none
  | [] => none

/-- Show or set the mask. -/
def umask (args : List Octets) : Sh Nat := do
  let (os, args) ← options ['S'] [] args
  let s ← session
  match args.head? with
  | none =>
    let ds := Nat.toDigits 8 s.mask
    print ((if os.isEmpty then List.replicate (4 - ds.length) '0' ++ ds else maskText s.mask) ++
      ['\n'])
    return 0
  | some mode =>
    if mode.head?.any Char.isDigit then
      let (n, rest) := Integer.digits 8 0 mode
      if !rest.isEmpty then fail ("Illegal number: ".toList ++ mode)
      modifySession fun s => { s with mask := n % 512 }
      return 0
    else
      let clauses := (searched (mode.map fun c => if c = ',' then ':' else c))
      match clauses.foldl (fun a c => a.bind fun n => maskClause n c) (some (511 - s.mask)) with
      | none => fail ("Illegal mode: ".toList ++ mode)
      | some n => do
        modifySession fun s => { s with mask := 511 - n }
        return 0

end Builtin

end Interchain.Shell
