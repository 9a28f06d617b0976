import Interchain.Shell.State

/-!
# Arguments of commands

How commands of a shell read options and integers among their arguments, and how
they quote what they list.
-/

namespace Interchain.Shell.Sh

/-- Options with their values, and the arguments behind them. -/
abbrev Read := List (Char × Octets) × List Octets

/-- Read options behind the letters `cs` of a cluster. -/
def optionsFrom (letters valued : List Char) : Nat → Octets → List Octets → Sh Read
  | 0, _, args => return ([], args)
  | _, [], [] => return ([], [])
  | n + 1, [], arg :: args =>
    match arg with
    | ['-', '-'] => return ([], args)
    | '-' :: c :: cs => optionsFrom letters valued n (c :: cs) args
    | _ => return ([], arg :: args)
  | n + 1, c :: cs, args => do
    if valued.contains c then
      match cs, args with
      | [], [] => fail ("No arg for -".toList ++ c :: " option".toList)
      | [], value :: args => noted (c, value) (← optionsFrom letters valued n [] args)
      | _, _ => noted (c, cs) (← optionsFrom letters valued n [] args)
    else if letters.contains c then noted (c, []) (← optionsFrom letters valued n cs args)
    else fail ("Illegal option -".toList ++ [c])
where
  noted (o : Char × Octets) (r : Read) : Sh Read := return (o :: r.1, r.2)

/-- Read the options in front of arguments: letters of which some take a value. -/
def options (letters valued : List Char) (args : List Octets) : Sh Read :=
  optionsFrom letters valued (args.flatten.length + args.length + 1) [] args

/-- The arguments of a command that has no options. -/
def operands (args : List Octets) : Sh (List Octets) := return (← options [] [] args).2

/-- The integer that an argument stands for, from zero up. -/
def number (arg : Octets) : Sh Nat := do
  match Integer.decimal? arg with
  | some (negative, n, rest) =>
    if rest.all Integer.isSpace ∧ n < 2147483648 ∧ (!negative ∨ n = 0) then return n
    else fail ("Illegal number: ".toList ++ arg)
  | none =>
    if !arg.isEmpty && arg.all Integer.isSpace then return 0
    else fail ("Illegal number: ".toList ++ arg)

/-- A text in quotes, so that a shell reads it as it is. -/
def quoted (text : Octets) : Octets :=
  go (text.length + 1) text
where
  go : Nat → Octets → Octets
    | 0, _ => []
    | n + 1, cs =>
      let front := cs.takeWhile (· ≠ '\'')
      let behind := cs.drop front.length
      let marks := behind.takeWhile (· = '\'')
      let rest := behind.drop marks.length
      ['\''] ++ front ++ ['\''] ++
        (if marks.isEmpty then [] else ['"'] ++ marks ++ ['"']) ++
        if rest.isEmpty then [] else go n rest

end Interchain.Shell.Sh
