import Interchain.Shell.Pattern

/-!
# Fields

An expanded word is cut into fields at separators, but only in those pieces of it
that came from unquoted parameters, outputs and values.  White space among the
separators counts as one, however much of it there is.
-/

namespace Interchain.Shell

/-- A character of an expanded word, or where a quotation mark was. -/
inductive Cell where
  | char (c : Char) (quoted : Bool)
  | mark
deriving DecidableEq, Repr

/-- Where a piece of a word is cut. -/
inductive Cut where
  | nowhere
  | separators
  /-- Between the arguments that it is made of. -/
  | arguments
deriving DecidableEq, Repr

/-- A piece of an expanded word. -/
structure Piece where
  cells : List Cell
  cut : Cut
deriving DecidableEq, Repr

namespace Cell

def char? : Cell → Option Char
  | .char c _ => some c
  | .mark => none

/-- The text of cells. -/
def text (cells : List Cell) : Octets := cells.filterMap char?

/-- The cells of a text. -/
def ofText (quoted : Bool) (cs : Octets) : List Cell := cs.map fun c => .char c quoted

@[simp] theorem text_ofText (quoted : Bool) (cs : Octets) : text (ofText quoted cs) = cs := by
  induction cs with
  | nil => rfl
  | cons c cs ih =>
    simp only [text, ofText] at ih ⊢
    simp [char?, ih]

/-- The characters of a pattern; a backslash quotes the character behind it. -/
def pattern : List Cell → List PatternChar
  | [] => []
  | .mark :: rest => pattern rest
  | [.char c quoted] => [(c, quoted || c == '\\')]
  | .char '\\' false :: .char c _ :: rest => (c, true) :: pattern rest
  | .char c quoted :: rest => (c, quoted) :: pattern rest

end Cell

namespace Piece

/-- The text of a word. -/
def text (pieces : List Piece) : Octets := Cell.text (pieces.flatMap Piece.cells)

/-- Text that is not cut. -/
def plain (quoted : Bool) (cs : Octets) : Piece := ⟨Cell.ofText quoted cs, .nowhere⟩

end Piece

namespace Fields

/-- The separators that count as white space. -/
def isBlank (c : Char) : Bool := c == ' ' || c == '\t' || c == '\n' || c == '\x00'

/-- What is known of a word while it is cut. -/
structure State where
  /-- Fields, last first. -/
  done : List (List Cell)
  /-- The field that is read, last cell first. -/
  field : List Cell
  /-- The last piece, and the one before it, was cut between arguments only. -/
  arguments : Bool
  afterArguments : Bool
  /-- White space was the last separator. -/
  blank : Bool
  /-- The separators behind the last one still count as one with it. -/
  merging : Bool
  /-- How many fields there may still be, if that is limited; behind these, how much of
  the last one is kept if nothing more follows. -/
  left : Option Nat
  kept : Option Nat
deriving Repr

def start (limit : Option Nat) : State := ⟨[], [], false, false, false, false, limit, none⟩

/-- Read a cell of a piece that is cut. -/
def cell (separators : Octets) (s : State) (x : Cell) : State :=
  let c? := x.char?
  let isSeparator := c?.any fun c => c == '\x00' || (!s.arguments && separators.contains c)
  let isBlank := isSeparator && c?.any isBlank
  let keep := { s with field := x :: s.field, merging := false }
  if s.left = some 0 then
    if isBlank then { keep with kept := s.kept.or (some s.field.length) }
    else { keep with kept := if isSeparator && s.blank then s.kept else none, blank := false }
  else if s.merging && isBlank then s
  else if s.merging && isSeparator && s.blank then { s with blank := false }
  else if !isSeparator then keep
  else
    let between := s.afterArguments || s.arguments
    let s := { s with blank := if between then s.blank else isBlank, merging := false }
    if s.field.isEmpty && s.blank then { s with blank := false }
    else if s.left = some 1 then
      { s with left := some 0, kept := some s.field.length, field := x :: s.field }
    else
      { s with
        done := s.field.reverse :: s.done, field := [], merging := !between
        left := s.left.map (· - 1) }

/-- Read a piece. -/
def piece (separators : Octets) (s : State) (p : Piece) : State :=
  if p.cut = .nowhere then { s with field := p.cells.reverse ++ s.field }
  else
    p.cells.foldl (cell separators)
      { s with
        afterArguments := s.arguments, arguments := p.cut = .arguments, blank := false
        merging := false }

/-- Cut a word into fields, of which the last one holds the rest if their number is
limited. -/
def cut (separators : Octets) (limit : Option Nat) (pieces : List Piece) : List (List Cell) :=
  let s := pieces.foldl (piece separators) (start limit)
  let field := match s.kept with
    | some n => s.field.reverse.take n
    | none => s.field.reverse
  let isField := !field.isEmpty || (!s.blank && s.arguments)
  (if isField then [field] else []).reverse ++ s.done |>.reverse

end Fields

end Interchain.Shell
