import Interchain.Shell.Arithmetic
import Interchain.Shell.Fields
import Interchain.Shell.State

/-!
# Expansion

The parts of a word are replaced one by one by what they stand for: parameters by
their values, scripts by their output and expressions by their results.  What comes
of it is cut into fields, and fields that are patterns give way to the names of files
that fit them.
-/

namespace Interchain.Shell

/-- How words are expanded. -/
structure Manner where
  /-- They are cut into fields later. -/
  full : Bool
  /-- They stand in a parameter, so that their own text is cut too. -/
  inner : Bool
  quoted : Bool
  /-- A tilde in front stands for a home directory. -/
  tilde : Bool
  /-- So does one behind the sign of an assignment and behind colons. -/
  assignment : Bool
deriving DecidableEq, Repr

namespace Manner

def text : Manner := ⟨false, false, false, false, false⟩

def fields : Manner := { text with full := true, tilde := true }

def single : Manner := { text with tilde := true }

def assigned : Manner := { text with assignment := true }

def document : Manner := { text with quoted := true }

end Manner

/-- How a shell is run into that words and commands stand in. -/
structure Runner where
  /-- Expand the pieces of a word. -/
  pieces : Manner → Word → Sh (List Piece)
  /-- The output of commands. -/
  output : Option Command → Sh Octets

namespace Expansion

open Sh

variable (inner : Runner)

/-! ## Parameters -/

/-- What stands between arguments where they are one text. -/
def joint (s : Session) (all cut : Bool) : Octets :=
  if all then ['\x00']
  else
    match s.separators with
    | none => [' ']
    | some cs => if cut then ['\x00'] else cs.take 1

/-- The letters of options, in their order. -/
def optionLetters : List Char :=
  ['u', 'b', 'a', 'C', 'E', 'V', 'v', 'x', 's', 'n', 'm', 'i', 'I', 'f', 'e']

/-- The value of a parameter. -/
def parameter? (s : Session) (name : Octets) (full quoted : Bool) : Option Octets :=
  let decimal := fun (n : Nat) => some (Nat.toDigits 10 n)
  match name with
  | ['$'] => decimal s.root
  | ['?'] => decimal s.status
  | ['#'] => decimal s.args.length
  | ['!'] => s.background.map (Nat.toDigits 10)
  | ['-'] => some (optionLetters.filter s.option)
  | ['@'] => some ((joint s (quoted && full) (full && !quoted)).intercalate s.args)
  | ['*'] => some ((joint s false (full && !quoted)).intercalate s.args)
  | _ =>
    if name.head?.any Char.isDigit then
      let (n, _) := Integer.digits 10 0 name
      if n = 0 then some s.name else s.args[n - 1]?
    else s.value? name

/-- The pieces that a value is. -/
def valuePieces (s : Session) (name : Octets) (quoted : Bool) (cs : Octets) : List Piece :=
  let cut : Cut :=
    if !quoted then .separators
    else if name = ['@'] ∧ !s.args.isEmpty then .arguments else .nowhere
  [⟨Cell.ofText quoted cs, cut⟩]

/-- A value without what fits a pattern at one of its ends. -/
def trimmed (operator : Operator) (items : List Pattern.Item) (cs : Octets) : Octets :=
  let up := List.range (cs.length + 1)
  match operator with
  | .dropFront longest => Pattern.dropFront (if longest then up.reverse else up) items cs
  | .dropEnd longest => Pattern.dropEnd (if longest then up else up.reverse) items cs
  | _ => cs

/-- Complain that a parameter is not set. -/
def missing {α : Type} (name : Octets) (orNull : Bool) (word : Word) : Sh α := do
  let said ← inner.pieces Manner.single word
  fail (name ++ [':', ' '] ++
    if word.isEmpty then
      (if orNull then "parameter not set or null" else "parameter not set").toList
    else Piece.text said)

/-- Replace a parameter. -/
def parameter (m : Manner) (name : Octets) (operator : Operator) (orNull : Bool) (word : Word) :
    Sh (List Piece) := do
  let s ← session
  let value := parameter? s name m.full m.quoted
  let given := if orNull then value.filter (!·.isEmpty) else value
  let instead := inner.pieces { m with inner := true, tilde := true } word
  let ofUnset : Sh Unit := do
    if s.option 'u' && value.isNone then fail (name ++ ": parameter not set".toList)
  match operator, given with
  | .bad, _ => fail "Bad substitution".toList
  | .otherwise, none => instead
  | .instead, some _ => instead
  | .instead, none => return valuePieces s name m.quoted []
  | .require, none => missing inner name orNull word
  | .assign, none => do
    assign name (Piece.text (← inner.pieces Manner.single word))
    let s ← session
    return valuePieces s name m.quoted ((parameter? s name m.full m.quoted).getD [])
  | .length, _ => do
    ofUnset
    return valuePieces s name m.quoted (Nat.toDigits 10 (value.getD []).length)
  | .dropEnd _, some cs | .dropFront _, some cs => do
    let pattern ← inner.pieces Manner.single word
    let items := Pattern.items (Cell.pattern (pattern.flatMap Piece.cells))
    return valuePieces s name m.quoted (trimmed operator items cs)
  | .dropEnd _, none | .dropFront _, none => do
    ofUnset
    return []
  | _, some cs => return valuePieces s name m.quoted cs
  | _, none => do
    ofUnset
    return valuePieces s name m.quoted []

/-! ## Outputs and expressions -/

/-- The output of commands without line ends behind it. -/
def output (m : Manner) (script : Option Command) : Sh (List Piece) := do
  let text := (← inner.output script).filter (· ≠ '\x00')
  let text := (text.reverse.dropWhile (· = '\n')).reverse
  return [⟨Cell.ofText m.quoted text, if m.quoted then .nowhere else .separators⟩]

/-- The decimal digits of an integer. -/
def integerText (n : Int64) : Octets :=
  let i := n.toInt
  (if i < 0 then ['-'] else []) ++ Nat.toDigits 10 i.natAbs

/-- The value of an expression. -/
def arithmetic (m : Manner) (expression : Word) : Sh (List Piece) := do
  let text := Piece.text (← inner.pieces Manner.text expression)
  let s ← session
  match Arithmetic.evaluate (fun name => (s.value? name).getD []) text with
  | .ok (n, assigned) => do
    assigned.forM fun a => assign a.1 (integerText a.2)
    return [⟨Cell.ofText m.quoted (integerText n), if m.quoted then .nowhere else .separators⟩]
  | .error (.malformed what) =>
    fail ("arithmetic expression: ".toList ++ what.toList ++ [':', ' ', '"'] ++ text ++ ['"'])
  | .error (.badNumber number) => fail ("Illegal number: ".toList ++ number)
  | .error .noQuotient => throw (.killed 8)

/-! ## Words -/

/-- The name behind a tilde, and what follows it. -/
def tildeName (assignment : Bool) : Word → Option (Octets × Word)
  | .char c false :: rest =>
    if c = '/' ∨ (c = ':' ∧ assignment) then some ([], .char c false :: rest)
    else (tildeName assignment rest).map fun r => (c :: r.1, r.2)
  | [] => some ([], [])
  | _ => none

/-- The home directory that a tilde stands for, and what follows it. -/
def home? (s : Session) (assignment : Bool) (word : Word) : Option (Octets × Word) :=
  (tildeName assignment word).bind fun (name, rest) =>
    let home :=
      if name.isEmpty then s.value? "HOME".toList
      else if name = "root".toList then some "/root".toList else none
    home.map fun home => (home, rest)

/-- Characters of the word itself that were read, last first. -/
structure Literal where
  cells : List Cell
  quoted : Bool

/-- The piece that characters of the word itself are. -/
def Literal.piece (m : Manner) (l : Literal) : List Piece :=
  if l.cells.isEmpty then []
  else [⟨l.cells.reverse, if m.inner && !m.quoted && !l.quoted then .separators else .nowhere⟩]

/-- Expand the parts of a word.  `tilde` says that a tilde here stands for a home
directory; characters are gathered in `l` until something else comes. -/
def parts (m : Manner) : Nat → Bool → Literal → Word → Sh (List Piece)
  | 0, _, l, _ => return l.piece m
  | n + 1, tilde, l, word => do
    let s ← session
    let within := { m with quoted := m.quoted || l.quoted, tilde := false }
    match word with
    | [] => return l.piece m
    | .char '~' false :: rest =>
      match if tilde then home? s m.assignment rest else none with
      | some (home, rest) =>
        return l.piece m ++ Piece.plain true home :: (← parts m n false ⟨[], l.quoted⟩ rest)
      | none => parts m n false { l with cells := .char '~' false :: l.cells } rest
    | .char c false :: rest =>
      parts m n (m.assignment && (c == '=' || c == ':')) { l with cells := .char c false :: l.cells }
        rest
    | .char c true :: rest =>
      return l.piece m ++ ⟨[.char c true], .nowhere⟩ :: (← parts m n false ⟨[], l.quoted⟩ rest)
    | .quotes :: rest =>
      match l.quoted, rest with
      | false, .parameter ['@'] .value _ _ :: .quotes :: rest => do
        let value ← parameter inner { within with quoted := true } ['@'] .value false []
        return l.piece m ++ value ++ (← parts m n false ⟨[], false⟩ rest)
      | _, _ =>
        return l.piece m ++ ⟨[.mark], .nowhere⟩ :: (← parts m n false ⟨[], !l.quoted⟩ rest)
    | .parameter name operator orNull word :: rest => do
      let value ← parameter inner within name operator orNull word
      return l.piece m ++ value ++ (← parts m n false ⟨[], l.quoted⟩ rest)
    | .output script :: rest => do
      let value ← output inner within script
      return l.piece m ++ value ++ (← parts m n false ⟨[], l.quoted⟩ rest)
    | .arithmetic expression :: rest => do
      let value ← arithmetic inner within expression
      return l.piece m ++ value ++ (← parts m n false ⟨[], l.quoted⟩ rest)

/-- The pieces of a word. -/
def pieces (m : Manner) (word : Word) : Sh (List Piece) :=
  parts inner m (word.length + 1) m.tilde ⟨[], false⟩ word

/-- The text of a word that is not cut. -/
def text (m : Manner) (word : Word) : Sh Octets := return Piece.text (← pieces inner m word)

/-! ## Names of files -/

/-- The names in a directory that fit a pattern.  Those that begin with a point must be
asked for. -/
def fitting (files : Files) (place : Place) (pattern : List PatternChar) : List Octets :=
  let names := ['.'] :: ['.', '.'] :: files.names place
  let items := Pattern.items pattern
  names.filter fun name =>
    (name.head? ≠ some '.' || pattern.head?.any (·.1 == '.')) && Pattern.fits items name

/-- A pattern up to its first slash, and what follows that. -/
def untilSlash : List PatternChar → List PatternChar × Option (List PatternChar)
  | [] => ([], none)
  | (c, quoted) :: rest =>
    if c = '/' then ([], some rest)
    else
      let (front, after) := untilSlash rest
      ((c, quoted) :: front, after)

/-- The paths that fit a pattern behind a path that leads to a place. -/
def matching (files : Files) : Nat → Place → Octets → List PatternChar → List Octets
  | 0, _, _, _ => []
  | n + 1, place, path, pattern =>
    let (front, after) := untilSlash pattern
    let names :=
      if Pattern.isPattern front then
        match files.at? place with
        | .error .isDirectory => fitting files place front
        | _ => []
      else [front.map Prod.fst]
    names.flatMap fun name =>
      match files.follow place [name], after with
      | .ok place, some rest => matching files n place (path ++ name ++ ['/']) rest
      | .ok place, none =>
        let exists_ := match files.at? place with
          | .ok _ | .error .isDirectory => true
          | .error _ => false
        if exists_ then [path ++ name] else []
      | .error _, _ => []

/-- The names that a field stands for: itself, or those of files that fit it. -/
def names (m : Machine) (field : List Cell) : List Octets :=
  let pattern := Cell.pattern field
  if m.session.option 'f' || !Pattern.isPattern pattern then [Cell.text field]
  else
    let files := m.world.files
    let found := match pattern with
      | ('/', _) :: rest => matching files (pattern.length + 1) Place.root ['/'] rest
      | _ => matching files (pattern.length + 1) m.session.process.place [] pattern
    if found.isEmpty then [Cell.text field] else found.mergeSort Octets.before

/-- The fields that a word stands for. -/
def fields (word : Word) : Sh (List Octets) := do
  let ps ← pieces inner Manner.fields word
  let m ← get
  let separators := m.session.separators.getD [' ', '\t', '\n']
  return (Fields.cut separators none ps).flatMap (names m)

/-- The fields that words stand for. -/
def allFields : List Word → Sh (List Octets)
  | [] => return []
  | word :: words => do
    let front ← fields inner word
    return front ++ (← allFields words)

end Expansion

end Interchain.Shell
