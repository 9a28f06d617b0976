import Interchain.Shell.Grammar
import Interchain.Text.Integer

/-!
# Expressions

Expressions are computed on integers of 64 bits, which wrap around.  They may assign
values to variables.  Operands that do not decide the value are read, but neither
looked up nor computed.
-/

namespace Interchain.Shell.Arithmetic

/-- What is wrong with an expression. -/
inductive Fault where
  /-- The expression itself. -/
  | malformed (what : String)
  /-- The value of a variable is no integer. -/
  | badNumber (text : Octets)
  /-- A quotient that has no value. -/
  | noQuotient
deriving DecidableEq, Repr

inductive Lexeme where
  | number (value : Int64)
  | name (name : Octets)
  | sign (text : String)
  | bad
deriving DecidableEq, Repr

/-- The signs of expressions, longer ones first. -/
def signs : List String :=
  ["<<=", ">>=", "<<", ">>", "<=", ">=", "==", "!=", "&&", "||", "+=", "-=", "*=", "/=", "%=", "&=",
   "^=", "|=", "+", "-", "*", "/", "%", "&", "^", "|", "<", ">", "!", "~", "(", ")", "?", ":", "="]

/-- The lexemes of an expression. -/
def lexemes (cs : Octets) : List Lexeme :=
  go cs.length cs
where
  go : Nat → Octets → List Lexeme
    | 0, _ => []
    | _, [] => []
    | n + 1, c :: cs =>
      if c = ' ' ∨ c = '\t' ∨ c = '\n' then go n cs
      else if c.isDigit then
        let (base, rest) := Integer.base (c :: cs)
        let (value, rest) := Integer.digits base 0 rest
        .number (Integer.clamped false value) :: go n rest
      else if isNameStart c then
        let name := (c :: cs).takeWhile isNameChar
        .name name :: go n ((c :: cs).drop name.length)
      else
        match signs.find? fun s => s.toList.isPrefixOf (c :: cs) with
        | some s => .sign s :: go n ((c :: cs).drop s.length)
        | none => .bad :: go n cs

/-- An expression while it is computed. -/
structure State where
  rest : List Lexeme
  /-- The variables that were assigned, last first. -/
  assigned : List (Octets × Int64)

abbrev Computing := StateT State (Except Fault)

/-- How tightly signs between operands bind, the tightest first. -/
def levels : List (List String) :=
  [["*", "/", "%"], ["+", "-"], ["<<", ">>"], ["<", "<=", ">", ">="], ["==", "!="], ["&"], ["^"],
   ["|"]]

def truth (b : Bool) : Int64 := if b then 1 else 0

/-- The value of a sign between operands. -/
def compute (sign : String) (a b : Int64) : Except Fault Int64 :=
  match sign with
  | "*" => .ok (a * b)
  | "/" => quotient (· / ·)
  | "%" => quotient (· % ·)
  | "+" => .ok (a + b)
  | "-" => .ok (a - b)
  | "<<" => .ok (a <<< b)
  | ">>" => .ok (a >>> b)
  | "<" => .ok (truth (a < b))
  | "<=" => .ok (truth (a ≤ b))
  | ">" => .ok (truth (b < a))
  | ">=" => .ok (truth (b ≤ a))
  | "==" => .ok (truth (a == b))
  | "!=" => .ok (truth (a != b))
  | "&" => .ok (a &&& b)
  | "^" => .ok (a ^^^ b)
  | _ => .ok (a ||| b)
where
  quotient (f : Int64 → Int64 → Int64) : Except Fault Int64 :=
    if b = 0 then .error (.malformed "division by zero")
    else if a = Int64.minValue ∧ b = -1 then .error .noQuotient
    else .ok (f a b)

def peek : Computing (Option Lexeme) := return (← get).rest.head?

def skip : Computing Unit := modify fun s => { s with rest := s.rest.tail }

/-- Pass over a sign. -/
def accept (text : String) : Computing Bool := do
  if (← peek) = some (.sign text) then
    skip
    return true
  else return false

/-- Pass over the sign that must stand here. -/
def demand (text : String) : Computing Unit := do
  if !(← accept text) then throw (.malformed ("expecting '" ++ text ++ "'"))

/-- The integer that is the value of a variable. -/
def integer (text : Octets) : Except Fault Int64 :=
  match Integer.read? text with
  | none => if text.all Integer.isSpace then .ok 0 else .error (.badNumber text)
  | some (negative, n, rest) =>
    if Integer.isSmall negative n ∧ rest.all Integer.isSpace then .ok (Integer.clamped negative n)
    else .error (.badNumber text)

variable (value : Octets → Octets)

/-- The value of a variable, given those from before. -/
def look (name : Octets) : Computing Int64 := do
  match (← get).assigned.find? fun a => a.1 == name with
  | some (_, n) => return n
  | none => integer (value name)

/-- An operand of the sign that assigns. -/
def assigns? : Option Lexeme → Option (Option String)
  | some (.sign "=") => some none
  | some (.sign s) =>
    if ["<<=", ">>=", "+=", "-=", "*=", "/=", "%=", "&=", "^=", "|="].contains s then
      some (some (s.dropEnd 1).toString)
    else none
  | _ => none

/-- Operands with signs of one level between them, where `next` reads one and `idle`
says that nothing is computed. -/
def chain (idle : Bool) (level : List String) (next : Computing Int64) : Nat → Int64 →
    Computing Int64
  | 0, a => return a
  | n + 1, a => do
    match ← peek with
    | some (.sign s) =>
      if level.contains s then
        skip
        let b ← next
        let c ← if idle then pure b else liftExcept (compute s a b)
        chain idle level next n c
      else return a
    | _ => return a
where
  liftExcept (x : Except Fault Int64) : Computing Int64 := fun s => x.map fun a => (a, s)

/-- Operands with signs of the given levels and of all tighter ones. -/
def layered (idle : Bool) (operand : Computing Int64) (size : Nat) : List (List String) →
    Computing Int64
  | [] => operand
  | level :: tighter => do
    let next := layered idle operand size tighter
    chain idle level next size (← next)

mutual

/-- An expression. -/
def assignment : Nat → Bool → Computing Int64
  | 0, _ => throw (.malformed "expecting primary")
  | n + 1, idle => do
    match (← get).rest with
    | .name name :: after =>
      match assigns? after.head? with
      | none => conditional n idle
      | some sign =>
        modify fun s => { s with rest := after.tail }
        let result ← assignment n idle
        if idle then return result
        else
          let result ← match sign with
            | none => pure result
            | some sign => do
              let old ← look value name
              match compute sign old result with
              | .ok r => pure r
              | .error e => throw e
          modify fun s => { s with assigned := (name, result) :: s.assigned }
          return result
    | _ => conditional n idle

/-- A choice between two values, or a disjunction. -/
def conditional : Nat → Bool → Computing Int64
  | 0, _ => throw (.malformed "expecting primary")
  | n + 1, idle => do
    let a ← disjunction n idle
    if ← accept "?" then
      let b ← assignment n (idle || a == 0)
      demand ":"
      let c ← conditional n (idle || a != 0)
      return if a != 0 then b else c
    else return a

def disjunction : Nat → Bool → Computing Int64
  | 0, _ => throw (.malformed "expecting primary")
  | n + 1, idle => do
    let a ← conjunction n idle
    if ← accept "||" then
      let b ← disjunction n (idle || a != 0)
      return truth (a != 0 || b != 0)
    else return a

def conjunction : Nat → Bool → Computing Int64
  | 0, _ => throw (.malformed "expecting primary")
  | n + 1, idle => do
    let a ← layered idle (primary n idle) n levels.reverse
    if ← accept "&&" then
      let b ← conjunction n (idle || a == 0)
      return truth (a != 0 && b != 0)
    else return a

/-- An operand. -/
def primary : Nat → Bool → Computing Int64
  | 0, _ => throw (.malformed "expecting primary")
  | n + 1, idle => do
    match (← get).rest with
    | .number k :: rest =>
      modify fun s => { s with rest := rest }
      return k
    | .name name :: rest =>
      modify fun s => { s with rest := rest }
      if idle then return 0 else look value name
    | .sign "(" :: rest =>
      modify fun s => { s with rest := rest }
      let a ← assignment n idle
      demand ")"
      return a
    | .sign "+" :: rest =>
      modify fun s => { s with rest := rest }
      primary n idle
    | .sign "-" :: rest =>
      modify fun s => { s with rest := rest }
      return -(← primary n idle)
    | .sign "!" :: rest =>
      modify fun s => { s with rest := rest }
      return truth ((← primary n idle) == 0)
    | .sign "~" :: rest =>
      modify fun s => { s with rest := rest }
      return ~~~(← primary n idle)
    | _ => throw (.malformed "expecting primary")

end

/-- The value of an expression with the assignments that it makes, in order. -/
def evaluate (cs : Octets) : Except Fault (Int64 × List (Octets × Int64)) := do
  let rest := lexemes cs
  let (n, s) ← (assignment value (8 * (rest.length + 1)) false).run ⟨rest, []⟩
  if s.rest.isEmpty then return (n, s.assigned.reverse)
  else throw (.malformed "expecting EOF")

end Interchain.Shell.Arithmetic
