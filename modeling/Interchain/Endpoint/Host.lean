import Interchain.Decimal.Written
import Interchain.Endpoint.Domain
import Interchain.Endpoint.Percent
import Interchain.Text.Utf8

/-!
# Hosts of addresses

A host is a domain name, an address of four bytes, an address of eight pieces in
brackets, or, where the scheme gives hosts no meaning, any text.
-/

namespace Interchain.Host

/-- Characters that no host may hold. -/
def isForbidden (c : Char) : Bool :=
  ['\x00', '\t', '\n', '\r', ' ', '#', '/', ':', '<', '>', '?', '@', '[', '\\', ']', '^',
   '|'].contains c

/-! ## Addresses of four bytes -/

/-- A number in the given base. -/
def number? (base : Nat) (cs : List Char) : Option Nat :=
  cs.foldl
    (fun n c => do
      let n ← n
      let d ← Percent.value? c
      if d < base then some (n * base + d) else none)
    (some 0)

/-- A part of an address: hexadecimal behind `0x`, octal behind `0`, else
decimal. -/
def part? : List Char → Option Nat
  | [] => none
  | '0' :: 'x' :: rest => number? 16 rest
  | '0' :: 'X' :: rest => number? 16 rest
  | ['0'] => some 0
  | '0' :: rest => number? 8 rest
  | cs => number? 10 cs

/-- The parts of a dotted text, without an empty one at the end. -/
def dotted (cs : List Char) : List (List Char) :=
  let parts := Split.pieces '.' cs
  if parts.length > 1 ∧ parts.getLast? = some [] then parts.dropLast else parts

/-- Whether the last part looks like a number, which makes the host an address. -/
def endsInNumber (cs : List Char) : Bool :=
  match (dotted cs).getLast? with
  | none => false
  | some last =>
    !last.isEmpty && (last.all Char.isDigit ||
      match last with
      | '0' :: 'x' :: _ => (part? last).isSome
      | '0' :: 'X' :: _ => (part? last).isSome
      | _ => false)

/-- The value of an address whose last part fills the bytes that are left. -/
def address4? (cs : List Char) : Option Nat := do
  let parts := dotted cs
  if parts.length > 4 then none
  else
    let numbers ← parts.mapM part?
    let last ← numbers.getLast?
    let first := numbers.dropLast
    let left := 8 * (5 - numbers.length)
    if first.any (255 < ·) ∨ 1 <<< left ≤ last then none
    else some (last + (first.foldl (fun n d => n * 256 + d) 0) <<< left)

def render4 (n : Nat) : List Char :=
  [(n >>> 24) % 256, (n >>> 16) % 256, (n >>> 8) % 256, n % 256].map Decimal.natural
    |>.intersperse ['.'] |>.flatten

/-! ## Addresses of eight pieces -/

/-- A piece of up to four digits. -/
def piece? (cs : List Char) : Option Nat :=
  if cs.isEmpty ∨ 4 < cs.length then none else number? 16 cs

/-- Four bytes in dotted form, at the end of an address, as two pieces. -/
def dottedPieces? (cs : List Char) : Option (List Nat) := do
  let parts := Split.pieces '.' cs
  if parts.length ≠ 4 then none
  else
    let bytes ← parts.mapM fun p =>
      if p.isEmpty ∨ 3 < p.length ∨ (1 < p.length ∧ p.head? = some '0') then none
      else (number? 10 p).filter (· < 256)
    match bytes with
    | [a, b, c, d] => some [a * 256 + b, c * 256 + d]
    | _ => none

/-- The pieces of a run without the double colon. -/
def run? (cs : List Char) : Option (List Nat) :=
  if cs.isEmpty then some []
  else
    let parts := Split.pieces ':' cs
    match parts.getLast? with
    | none => none
    | some last => do
      let front ← parts.dropLast.mapM piece?
      if last.contains '.' then (dottedPieces? last).map (front ++ ·)
      else (piece? last).map fun p => front ++ [p]

/-- The text before the first double colon and the text after it. -/
def atGap? : List Char → Option (List Char × List Char)
  | ':' :: ':' :: rest => some ([], rest)
  | c :: rest => (atGap? rest).map fun p => (c :: p.1, p.2)
  | [] => none

/-- The eight pieces of an address; a double colon stands for pieces of zero. -/
def address6? (cs : List Char) : Option (List Nat) :=
  match atGap? cs with
  | none => (run? cs).filter (·.length = 8)
  | some (before, after) => do
    if before.contains '.' then none
    else
      let front ← run? before
      let back ← run? after
      let n := front.length + back.length
      if n < 8 then some (front ++ List.replicate (8 - n) 0 ++ back) else none

/-- The length of the run of zeros at the front. -/
def zeros (ps : List Nat) : Nat :=
  (ps.takeWhile (· = 0)).length

/-- The first longest run of at least two zeros: its place and its length. -/
def longestZeros (ps : List Nat) : Option (Nat × Nat) :=
  (List.range ps.length).foldl
    (fun best i =>
      let n := zeros (ps.drop i)
      if n < 2 then best
      else match best with
        | none => some (i, n)
        | some (_, m) => if m < n then some (i, n) else best)
    none

def renderPieces (ps : List Nat) : List Char :=
  (ps.map (Nat.toDigits 16)).intersperse [':'] |>.flatten

def render6 (ps : List Nat) : List Char :=
  match longestZeros ps with
  | none => renderPieces ps
  | some (i, n) => renderPieces (ps.take i) ++ ':' :: ':' :: renderPieces (ps.drop (i + n))

/-! ## Hosts -/

/-- The host of a scheme that gives hosts their usual meaning. -/
def special? (cs : List Char) : Option (List Char) :=
  match cs with
  | '[' :: rest =>
    if rest.getLast? = some ']' then
      (address6? rest.dropLast).map fun ps => '[' :: render6 ps ++ [']']
    else none
  | _ => do
    let name ← Domain.ascii? (Utf8.decode (Percent.decode cs))
    if name.isEmpty then none
    else if endsInNumber name then (address4? name).map render4
    else some name

/-- The host of any other scheme. -/
def plain? (cs : List Char) : Option (List Char) :=
  match cs with
  | '[' :: _ => special? cs
  | _ => if cs.any isForbidden then none else some (Percent.encode Percent.inControls cs)

end Interchain.Host
