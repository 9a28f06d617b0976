/-!
# Percent-encoding

Characters that a part of an address may not hold are written as their bytes,
each as a percent sign and two upper-case digits.  Which characters these are
depends on the part.
-/

namespace Interchain.Percent

/-- Controls and everything outside ASCII. -/
def inControls (c : Char) : Bool :=
  c.toNat ≤ 0x1F || 0x7E < c.toNat

def inFragment (c : Char) : Bool :=
  inControls c || [' ', '"', '<', '>', Char.ofNat 0x60].contains c

def inQuery (c : Char) : Bool :=
  inControls c || [' ', '"', '#', '<', '>'].contains c

def inSpecialQuery (c : Char) : Bool :=
  inQuery c || c == '\''

def inPath (c : Char) : Bool :=
  inQuery c || ['?', Char.ofNat 0x60, '\x7b', '\x7d'].contains c

def inUserInfo (c : Char) : Bool :=
  inPath c || ['/', ':', ';', '=', '@', '[', '\\', ']', '^', '|'].contains c

/-- The upper-case digit of a half byte. -/
def digit (n : Nat) : Char :=
  if n < 10 then Char.ofNat (48 + n) else Char.ofNat (55 + n)

/-- A byte as a percent sign and two digits. -/
def encodeByte (b : UInt8) : List Char :=
  ['%', digit (b.toNat / 16), digit (b.toNat % 16)]

/-- A text with the characters of a set encoded. -/
def encode (set : Char → Bool) (cs : List Char) : List Char :=
  cs.flatMap fun c =>
    if set c then (String.singleton c).toUTF8.toList.flatMap encodeByte else [c]

/-- What a digit of either case stands for. -/
def value? (c : Char) : Option Nat :=
  if '0' ≤ c ∧ c ≤ '9' then some (c.toNat - 48)
  else if 'a' ≤ c ∧ c ≤ 'f' then some (c.toNat - 87)
  else if 'A' ≤ c ∧ c ≤ 'F' then some (c.toNat - 55)
  else none

/-- The bytes of a text, with encoded bytes decoded. -/
def decode : List Char → List UInt8
  | [] => []
  | '%' :: a :: b :: rest =>
    match value? a, value? b with
    | some h, some l => UInt8.ofNat (16 * h + l) :: decode rest
    | _, _ => 37 :: decode (a :: b :: rest)
  | c :: rest => (String.singleton c).toUTF8.toList ++ decode rest

/-- Whether the bytes of a text, with encoded bytes decoded, are a text again. -/
def isDecodable (cs : List Char) : Bool :=
  (decode cs).toByteArray.validateUTF8

end Interchain.Percent
