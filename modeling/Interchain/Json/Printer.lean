import Interchain.Decimal.Written
import Interchain.Json.Basic

/-!
# Writing JSON

The compact text of a document has no white space; the indented one puts every
item and member on a line of its own.  Characters outside ASCII are written as
they are.
-/

namespace Interchain

def Number.render : Number → List Char
  | .int i => Decimal.integer i
  | .double bits => Decimal.double bits

namespace Json

/-- The letter that stands for a character after a backslash. -/
def escapeLetter? (c : Char) : Option Char :=
  if c = '"' then some '"'
  else if c = '\\' then some '\\'
  else if c = '\x08' then some 'b'
  else if c = '\x0c' then some 'f'
  else if c = '\n' then some 'n'
  else if c = '\r' then some 'r'
  else if c = '\t' then some 't'
  else none

/-- The lower-case hexadecimal digit. -/
def hexDigit (n : Nat) : Char :=
  if n < 10 then Char.ofNat (48 + n) else Char.ofNat (87 + n)

/-- A character of a string as it is written. -/
def renderChar (c : Char) : List Char :=
  match escapeLetter? c with
  | some l => ['\\', l]
  | none =>
    if c.toNat < 32 then ['\\', 'u', '0', '0', hexDigit (c.toNat / 16), hexDigit (c.toNat % 16)]
    else [c]

/-- A string between quotes. -/
def renderString (s : String) : List Char :=
  '"' :: s.toList.flatMap renderChar ++ ['"']

mutual

/-- The compact text of a document. -/
def render : Json → List Char
  | .null => ['n', 'u', 'l', 'l']
  | .bool true => ['t', 'r', 'u', 'e']
  | .bool false => ['f', 'a', 'l', 's', 'e']
  | .number n => n.render
  | .string s => renderString s
  | .array [] => ['[', ']']
  | .array (v :: rest) => '[' :: v.render ++ renderItems rest ++ [']']
  | .object [] => ['\x7b', '\x7d']
  | .object ((k, v) :: rest) =>
    '\x7b' :: renderString k ++ ':' :: v.render ++ renderMembers rest ++ ['\x7d']

/-- Items after the first. -/
def renderItems : List Json → List Char
  | [] => []
  | v :: rest => ',' :: v.render ++ renderItems rest

/-- Members after the first. -/
def renderMembers : List (String × Json) → List Char
  | [] => []
  | (k, v) :: rest => ',' :: renderString k ++ ':' :: v.render ++ renderMembers rest

end

/-- The compact text of a document. -/
def compact (j : Json) : String :=
  String.ofList j.render

/-- The start of a line at a nesting depth. -/
def newLine (depth : Nat) : List Char :=
  '\n' :: List.replicate (2 * depth) ' '

mutual

/-- The indented text of a document at a nesting depth. -/
def renderIndented (depth : Nat) : Json → List Char
  | .null => ['n', 'u', 'l', 'l']
  | .bool true => ['t', 'r', 'u', 'e']
  | .bool false => ['f', 'a', 'l', 's', 'e']
  | .number n => n.render
  | .string s => renderString s
  | .array [] => ['[', ']']
  | .array (v :: rest) =>
    '[' :: newLine (depth + 1) ++ renderIndented (depth + 1) v ++
      renderIndentedItems (depth + 1) rest ++ newLine depth ++ [']']
  | .object [] => ['\x7b', '\x7d']
  | .object ((k, v) :: rest) =>
    '\x7b' :: newLine (depth + 1) ++ renderString k ++ ':' :: ' ' :: renderIndented (depth + 1) v ++
      renderIndentedMembers (depth + 1) rest ++ newLine depth ++ ['\x7d']

/-- Items after the first. -/
def renderIndentedItems (depth : Nat) : List Json → List Char
  | [] => []
  | v :: rest => ',' :: newLine depth ++ renderIndented depth v ++ renderIndentedItems depth rest

/-- Members after the first. -/
def renderIndentedMembers (depth : Nat) : List (String × Json) → List Char
  | [] => []
  | (k, v) :: rest =>
    ',' :: newLine depth ++ renderString k ++ ':' :: ' ' :: renderIndented depth v ++
      renderIndentedMembers depth rest

end

/-- The text of a document with an indent of two spaces a level. -/
def indented (j : Json) : String :=
  String.ofList (renderIndented 0 j)

end Json

end Interchain
