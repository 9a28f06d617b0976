import Interchain.Text.Visible

/-!
# Quoted text in messages

Messages show the offending character or text between quotes, with escapes for
whatever could not be seen or would end the quotation.
-/

namespace Interchain.Quoted

/-- Lower-case digits of a code point in base sixteen, without leading zeros. -/
def codeDigits (n : Nat) : List Char :=
  Nat.toDigits 16 n

/-- One character inside quotes of the given kind. -/
def escape (quote c : Char) : List Char :=
  if c = '\x00' then ['\\', '0']
  else if c = '\t' then ['\\', 't']
  else if c = '\r' then ['\\', 'r']
  else if c = '\n' then ['\\', 'n']
  else if c = quote ∨ c = '\\' then ['\\', c]
  else if Visible.isVisible c then [c]
  else ['\\', 'u', '\x7b'] ++ codeDigits c.toNat ++ ['\x7d']

/-- A character between single quotes. -/
def char (c : Char) : String :=
  String.ofList ('\'' :: escape '\'' c ++ ['\''])

/-- A text between double quotes. -/
def text (s : String) : String :=
  String.ofList ('"' :: s.toList.flatMap (escape '"') ++ ['"'])

end Interchain.Quoted
