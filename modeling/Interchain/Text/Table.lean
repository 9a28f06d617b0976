import Interchain.Text.Blank

/-!
# Tables of code points

Properties of characters are kept as tables in the form of texts.  A table is a
sequence of words, each of which is a row: numbers in base sixteen with a hyphen
between one and the next.
-/

namespace Interchain.Table

/-- What a digit in base sixteen stands for; capitals are used in tables. -/
def digit (c : Char) : Nat :=
  if c.toNat < 65 then c.toNat - 48 else c.toNat - 55

/-- The numbers of a row.  `n` is what has been read of the first of them. -/
def numbers (n : Nat) : List Char → List Nat
  | [] => [n]
  | c :: cs => if c = '-' then n :: numbers 0 cs else numbers (16 * n + digit c) cs

/-- The rows of a table. -/
def rows (table : String) : List (List Nat) :=
  (Blank.wordsFrom [] table.toList).map (numbers 0)

end Interchain.Table

namespace Interchain

/-- Code points in closed ranges. -/
abbrev CodeRanges := List (Nat × Nat)

namespace CodeRanges

/-- The ranges of a table whose rows hold the first and the last code point of a
range, or the only one. -/
def ofTable (table : String) : CodeRanges :=
  (Table.rows table).map fun row => (row.headD 0, row.getLastD 0)

/-- Whether a code point lies in one of the ranges. -/
def covers (ranges : CodeRanges) (n : Nat) : Bool :=
  ranges.any fun r => r.1 ≤ n && n ≤ r.2

end CodeRanges

/-- The code points `first`, `first + step`, up to `last` go to `target`,
`target + step` and so on. -/
structure CodeRun where
  first : Nat
  last : Nat
  step : Nat
  target : Nat
deriving DecidableEq, Repr

/-- What a run maps a code point to. -/
def CodeRun.image? (r : CodeRun) (n : Nat) : Option Nat :=
  if r.first ≤ n ∧ n ≤ r.last ∧ (n - r.first) % r.step = 0 then some (r.target + (n - r.first))
  else none

/-- A mapping of some code points to sequences of code points. -/
structure CodeMap where
  /-- Runs that map to one code point. -/
  runs : List CodeRun
  /-- Single code points with their sequences. -/
  sequences : List (Nat × List Nat)

namespace CodeMap

/-- The mapping of two tables: one whose rows are the numbers of a run, and one
whose rows hold a code point and its sequence. -/
def ofTables (runs sequences : String) : CodeMap where
  runs := (Table.rows runs).filterMap fun
    | [first, last, step, target] => some ⟨first, last, step, target⟩
    | _ => none
  sequences := (Table.rows sequences).filterMap fun
    | n :: images => some (n, images)
    | [] => none

/-- What a code point is mapped to. -/
def find? (m : CodeMap) (n : Nat) : Option (List Nat) :=
  match m.runs.findSome? fun r => r.image? n with
  | some image => some [image]
  | none => (m.sequences.find? fun s => s.1 == n).map Prod.snd

end CodeMap

end Interchain
