import Interchain.Endpoint.Domain.Mapping
import Interchain.Endpoint.Punycode
import Interchain.Text.Direction
import Interchain.Text.Joining
import Interchain.Text.Mark
import Interchain.Text.Normal
import Interchain.Text.Split

/-!
# Names of hosts

The labels of a host name are parted by dots.  Letters are lowered and other forms
of letters are replaced with the usual ones; what is then outside ASCII is written
in an ASCII form that begins with a mark of its own.  A label that is given in
this form has to be the form of a label that could have been given instead.
-/

namespace Interchain.Domain

def isAscii (cs : List Char) : Bool := cs.all fun c => c.toNat < 128

/-- Characters in ASCII that no label may hold. -/
def isDenied (c : Char) : Bool :=
  c.toNat ≤ 0x20 || c == '\x7f' ||
    ['%', '#', '/', ':', '<', '>', '?', '@', '[', '\\', ']', '^', '|'].contains c

/-! ## Labels -/

/-- A label as it is read and as it is written. -/
structure Label where
  read : List Char
  written : List Char
deriving DecidableEq, Repr

/-- What a label outside ASCII begins with when it is written. -/
def asciiMark : List Char := ['x', 'n', '-', '-']

/-- Characters that join or part the letters beside them and show nothing. -/
def isJoiner (c : Char) : Bool := c.toNat == 0x200C || c.toNat == 0x200D

/-- The class of marks after which any joiner may stand. -/
def joinerOrder : Nat := 9

/-- Whether every joiner stands where it changes how a text looks.  `before` is what
comes before, backwards. -/
def joinersFit (before : List Char) : List Char → Bool
  | [] => true
  | c :: rest =>
    (!isJoiner c || before.head?.any (fun m => Composite.order m.toNat == joinerOrder) ||
      (c.toNat == 0x200C && Joining.joinsNext before.reverse && Joining.joinsPrevious rest)) &&
      joinersFit (c :: before) rest

/-- The most characters of a label outside ASCII. -/
def maxRead : Nat := 1000

/-- The most characters in which a label outside ASCII is written, without the mark
in front. -/
def maxWritten : Nat := 2000

/-- Whether a label outside ASCII may be read. -/
def isReadable (cs : List Char) : Bool :=
  !cs.head?.any Mark.isMark && joinersFit [] cs && cs.length ≤ maxRead

/-- Whether a label holds nothing that stands for something else. -/
def isPlain (cs : List Char) : Bool :=
  cs.all (fun c => image? c == some [c] && !isDenied c && c != '.') && Normal.isForm cs

/-- The label of characters that stand for themselves. -/
def label? (cs : List Char) : Option Label :=
  if cs.any isDenied then none
  else if asciiMark.isPrefixOf cs then do
    let form := cs.drop asciiMark.length
    let read ← Punycode.decode? form
    if cs.getLast? = some '-' ∨ maxWritten < form.length ∨ isAscii read then none
    else if isPlain read && isReadable read then some ⟨read, cs⟩
    else none
  else if isAscii cs then some ⟨cs, cs⟩
  else if isReadable cs then some ⟨cs, asciiMark ++ Punycode.encode cs⟩
  else none

/-! ## Names -/

/-- The name as it is written. -/
def ascii? (cs : List Char) : Option (List Char) := do
  let images ← cs.mapM image?
  let labels ← (Split.pieces '.' (Normal.form images.flatten)).mapM label?
  if Direction.isMixed (labels.flatMap Label.read) &&
      !labels.all fun l => Direction.isUniform l.read then none
  else some ((labels.map Label.written).intersperse ['.']).flatten

end Interchain.Domain
