import Interchain.Text.Utf8

/-!
# Texts of bytes

Commands take and print bytes that need not form characters.  Each byte is held as
the character of its number, so that the characters of ASCII stand for themselves.
-/

namespace Interchain

/-- A text whose characters are bytes. -/
abbrev Octets := List Char

namespace Octets

def ofBytes (bytes : List UInt8) : Octets :=
  bytes.map fun b => Char.ofNat b.toNat

def toBytes (cs : Octets) : List UInt8 :=
  cs.map fun c => UInt8.ofNat c.toNat

/-- The order of texts by their bytes. -/
def before (a b : Octets) : Bool := !decide (String.ofList b < String.ofList a)

/-- The bytes of a text. -/
def ofText (s : String) : Octets :=
  ofBytes s.toUTF8.toList

@[simp] theorem length_ofBytes (bytes : List UInt8) : (ofBytes bytes).length = bytes.length := by
  simp [ofBytes]

@[simp] theorem length_toBytes (cs : Octets) : (toBytes cs).length = cs.length := by
  simp [toBytes]

end Octets

end Interchain
