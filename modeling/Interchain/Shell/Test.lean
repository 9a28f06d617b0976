import Interchain.Program.Basic
import Interchain.Shell.State

/-!
# Tests

The command that tests whether a condition holds: of files, texts and integers, and
of other conditions.
-/

namespace Interchain.Shell.Test

open Sh

inductive Role where
  | unary
  | binary
  | negation
  | conjunction
  | disjunction
  | opening
  | closing
  /-- An operand. -/
  | plain
  | finish
deriving DecidableEq, Repr

/-- What a word is as an operator. -/
def roleOf (word : Octets) : Role :=
  match String.ofList word with
  | "!" => .negation
  | "-a" => .conjunction
  | "-o" => .disjunction
  | "(" => .opening
  | ")" => .closing
  | text =>
    if ["=", "!=", "<", ">", "-eq", "-ne", "-ge", "-gt", "-le", "-lt", "-nt", "-ot", "-ef"].contains
      text then .binary
    else
      match word with
      | ['-', c] =>
        if "rwxefdcbpugkstznhOGLS".toList.contains c then .unary else .plain
      | _ => .plain

variable (args : List Octets)

/-- What the word at a place is there. -/
def role (i : Nat) : Role :=
  match args[i]?, args[i + 1]? with
  | none, _ => .finish
  | some word, next =>
    let isOperand : Bool := match next, args[i + 2]? with
      | none, _ => true
      | some _, none => false
      | some next, some _ => decide (roleOf next = Role.binary)
    match roleOf word with
    | .unary => bif isOperand then .plain else .unary
    | .opening => if next.isNone then .plain else .opening
    | s => s

/-- Complain of a condition. -/
def wrong {α : Type} (word : Octets) (what : String) : Sh α :=
  fail ((if word.isEmpty then [] else word ++ [':', ' ']) ++ what.toList)

/-- The integer that a word stands for. -/
def integer (word : Octets) : Sh Int := do
  match Integer.decimal? word with
  | some (negative, n, rest) =>
    if Integer.isSmall negative n ∧ rest.all Integer.isSpace then
      return if negative then -(n : Int) else n
    else fail ("Illegal number: ".toList ++ word)
  | none =>
    if !word.isEmpty && word.all Integer.isSpace then return 0
    else fail ("Illegal number: ".toList ++ word)

/-- Whether a file has a property. -/
def file (property : Char) (path : Octets) : Sh Bool := act fun p => do
  match ← p.resolve path with
  | .error _ => return false
  | .ok place =>
    let isDevice := (Device.at? place).isSome
    match (← get).files.at? place with
    | .ok content =>
      return match property with
        | 'f' => !isDevice
        | 'c' => isDevice
        | 's' => !content.isEmpty
        | 'x' => (Program.ofPlace? place).isSome
        | c => ['e', 'r', 'w', 'O', 'G'].contains c
    | .error .isDirectory => return ['d', 'e', 'r', 'w', 'x', 's', 'O', 'G'].contains property
    | .error _ => return false

/-- Whether an operator holds of a word. -/
def unary (operator word : Octets) : Sh Bool := do
  match operator.getLastD ' ' with
  | 'z' => return word.isEmpty
  | 'n' => return !word.isEmpty
  | 't' => do
    let _ ← integer word
    return false
  | c => file c word

/-- Whether two paths lead to one place. -/
def isSame (a b : Octets) : Sh Bool := act fun p => do
  match ← p.resolve a, ← p.resolve b with
  | .ok x, .ok y =>
    let isThere := match (← get).files.at? x with
      | .ok _ | .error .isDirectory => true
      | .error _ => false
    return x == y && isThere
  | _, _ => return false

/-- Whether an operator holds between two words. -/
def binary (operator a b : Octets) : Sh Bool := do
  let compared := fun (f : Int → Int → Bool) => do
    let x ← integer a
    return f x (← integer b)
  match String.ofList operator with
  | "=" => return a = b
  | "!=" => return a ≠ b
  | "<" => return decide (a < b)
  | ">" => return decide (b < a)
  | "-eq" => compared fun x y => x = y
  | "-ne" => compared fun x y => x ≠ y
  | "-ge" => compared fun x y => y ≤ x
  | "-gt" => compared fun x y => y < x
  | "-le" => compared fun x y => x ≤ y
  | "-lt" => compared fun x y => x < y
  | "-ef" => isSame a b
  | _ => return false

mutual

/-- A disjunction from a place on, and the place of its last word. -/
def disjunction : Nat → Nat → Role → Sh (Bool × Nat)
  | 0, i, _ => return (false, i)
  | n + 1, i, s => do
    let (a, i) ← conjunction n i s
    if role args (i + 1) = .disjunction then
      let (b, i) ← disjunction n (i + 2) (role args (i + 2))
      return (a || b, i)
    else return (a, i)

def conjunction : Nat → Nat → Role → Sh (Bool × Nat)
  | 0, i, _ => return (false, i)
  | n + 1, i, s => do
    let (a, i) ← negation n i s
    if role args (i + 1) = .conjunction then
      let (b, i) ← conjunction n (i + 2) (role args (i + 2))
      return (a && b, i)
    else return (a, i)

def negation : Nat → Nat → Role → Sh (Bool × Nat)
  | 0, i, _ => return (false, i)
  | n + 1, i, s => do
    if s = .negation then
      let next := role args (i + 1)
      let (a, i) ← negation n (if next = .finish then i else i + 1) next
      return (!a, i)
    else primary n i s

def primary : Nat → Nat → Role → Sh (Bool × Nat)
  | 0, i, _ => return (false, i)
  | n + 1, i, s => do
    let word := args.getD i []
    match s with
    | .finish => return (false, i)
    | .opening =>
      let next := role args (i + 1)
      if next = .closing then return (false, i + 1)
      else
        let (a, i) ← disjunction n (i + 1) next
        if role args (i + 1) ≠ .closing then wrong [] "closing paren expected"
        return (a, i + 1)
    | .unary =>
      match args[i + 1]? with
      | none => wrong word "argument expected"
      | some operand => return (← unary word operand, i + 1)
    | _ =>
      if role args (i + 1) = .binary then
        let operator := args.getD (i + 1) []
        match args[i + 2]? with
        | none => wrong operator "argument expected"
        | some operand => return (← binary operator word operand, i + 2)
      else return (!word.isEmpty, i)

end

/-- Whether a condition holds whose first word is of the given role. -/
def holds (first : Role) : Sh Bool := do
  let (a, i) ← disjunction args (4 * args.length + 4) 0 first
  match args[i]?, args[i + 1]? with
  | some word, some _ => wrong word "unexpected operator"
  | _, _ => return a

/-- Whether a condition holds; short ones are read by the number of their words. -/
def condition (negated : Bool) : List Octets → Sh Bool
  | [] => return false
  | first :: rest => do
    let isShort := rest.length = 2 ∨ rest.length = 3
    if rest.length = 2 ∧ (rest.head?.map roleOf) = some .binary then
      return (← holds (first :: rest) .plain) != negated
    else if isShort ∧ first = ['('] ∧ rest.getLast? = some [')'] then
      let inside := rest.dropLast
      return (← holds inside (role inside 0)) != negated
    else if isShort ∧ first = ['!'] then condition true rest
    else return (← holds (first :: rest) (role (first :: rest) 0)) != negated

/-- Run the command, which in its other form ends with a bracket. -/
def run (bracketed : Bool) : Sh Nat := do
  let inside := if bracketed then args.dropLast else args
  if bracketed ∧ args.getLast? ≠ some [']'] then fail "missing ]".toList
  return if ← condition false inside then 0 else 1

end Interchain.Shell.Test
