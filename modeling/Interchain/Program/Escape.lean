import Interchain.Text.Octets
import Interchain.Text.Integer

/-!
# Backslash escapes

The commands that print their arguments replace escapes in them by bytes.  They
share most of the escapes and differ in the others.
-/

namespace Interchain.Program

namespace Escape

/-- Which escapes a command knows beside those that all know. -/
structure Dialect where
  /-- A zero in front of up to three octal digits. -/
  leadingZero : Bool
  /-- The letter `x` in front of up to two hexadecimal digits. -/
  hex : Bool
  /-- The letter `c` ends the output. -/
  stops : Bool
  /-- A double quote for itself, the letter `u` or `U` in front of the digits of a
  character, and digits that must not be missing. -/
  formatted : Bool
deriving DecidableEq, Repr

/-- The letters that stand for one byte each. -/
def letters : List (Char × Char) :=
  [('a', '\x07'), ('b', '\x08'), ('e', '\x1b'), ('f', '\x0c'), ('n', '\n'), ('r', '\r'), ('t', '\t'),
   ('v', '\x0b'), ('\\', '\\')]

/-- Read up to so many digits onto a value. -/
def digits (base : Nat) : Nat → Nat → Octets → Nat × Octets
  | 0, value, cs => (value, cs)
  | _, value, [] => (value, [])
  | n + 1, value, c :: cs =>
    match Integer.digit? base c with
    | some d => digits base n (value * base + d) cs
    | none => (value, c :: cs)

/-- What follows a backslash. -/
inductive Read where
  | text (text : Octets) (rest : Octets)
  /-- Nothing further is printed. -/
  | stop
  /-- An escape that cannot be used, and what is said of it. -/
  | invalid (what : Octets)

/-- Read the character of so many hexadecimal digits after the letter `c`.  One
beyond ASCII stays an escape; most of those in ASCII must be written plainly. -/
def character (c : Char) (count : Nat) (rest : Octets) : Read :=
  let ds := rest.take count
  if ds.length < count ∨ ds.any fun d => (Integer.digit? 16 d).isNone then
    .invalid "missing hexadecimal number in escape".toList
  else
    let (v, _) := digits 16 count 0 ds
    if v = 0x24 ∨ v = 0x40 ∨ v = 0x60 then .text [Char.ofNat v] (rest.drop count)
    else if v ≤ 0x9F ∨ (0xD800 ≤ v ∧ v < 0xE000) then
      .invalid ("invalid universal character name \\".toList ++ c :: ds.map Char.toLower)
    else
      let short := v < 0x10000
      let ds := (ds.map Char.toUpper).drop (if short then count - 4 else 0)
      .text ('\\' :: (if short then 'u' else 'U') :: ds) (rest.drop count)

/-- Read the escape that begins with `c`. -/
def read (d : Dialect) (c : Char) (rest : Octets) : Read :=
  let number := fun (r : Nat × Octets) => Read.text [Char.ofNat (r.1 % 256)] r.2
  if c = 'c' ∧ d.stops then .stop
  else if c = '"' ∧ d.formatted then .text ['"'] rest
  else if c = '0' ∧ d.leadingZero then number (digits 8 3 0 rest)
  else if c = 'x' ∧ d.hex ∧ (rest.head?.bind (Integer.digit? 16)).isSome then
    number (digits 16 2 0 rest)
  else if c = 'x' ∧ d.formatted then .invalid "missing hexadecimal number in escape".toList
  else if c = 'u' ∧ d.formatted then character c 4 rest
  else if c = 'U' ∧ d.formatted then character c 8 rest
  else
    match Integer.digit? 8 c, letters.find? fun l => l.1 == c with
    | some v, _ => number (digits 8 2 v rest)
    | none, some l => .text [l.2] rest
    | none, none => .text ['\\', c] rest

/-- How far a text is printed. -/
inductive Extent where
  | whole
  | stopped
  | failed (what : Octets)
deriving DecidableEq, Repr

/-- A text with its escapes replaced, up to one that ends the output. -/
def unescape (d : Dialect) (cs : Octets) : Octets × Extent :=
  go cs.length cs
where
  go : Nat → Octets → Octets × Extent
    | 0, _ => ([], .whole)
    | _, [] => ([], .whole)
    | _, ['\\'] => (['\\'], .whole)
    | n + 1, '\\' :: c :: rest =>
      match read d c rest with
      | .stop => ([], .stopped)
      | .invalid what => ([], .failed what)
      | .text cs rest => let (more, extent) := go n rest; (cs ++ more, extent)
    | n + 1, c :: rest => let (more, extent) := go n rest; (c :: more, extent)

end Escape

end Interchain.Program
