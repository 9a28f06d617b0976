import Interchain.Text.Composite

/-!
# The normal form of texts

Texts that look alike can be made up of different characters.  In normal form
every character is first taken apart, the marks of one letter are put in order,
and what can be put together is put together.  The syllables of one script are
made up of two or three letters by computation instead of by a table.
-/

namespace Interchain.Normal

/-! ## Syllables

A syllable has one of 19 initial letters, one of 21 vowels, and none or one of 27
final letters. -/

def firstSyllable : Nat := 0xAC00

def firstInitial : Nat := 0x1100

def firstVowel : Nat := 0x1161

/-- The code point before the first final letter. -/
def noFinal : Nat := 0x11A7

/-- The letters of a syllable. -/
def syllable? (n : Nat) : Option (List Nat) :=
  if firstSyllable ≤ n ∧ n < firstSyllable + 19 * 21 * 28 then
    let i := n - firstSyllable
    let front := [firstInitial + i / (21 * 28), firstVowel + i % (21 * 28) / 28]
    some (if i % 28 = 0 then front else front ++ [noFinal + i % 28])
  else none

/-- The syllable of an initial letter and a vowel, or of such a syllable and a final
letter. -/
def joined? (a b : Nat) : Option Nat :=
  if firstInitial ≤ a ∧ a < firstInitial + 19 ∧ firstVowel ≤ b ∧ b < firstVowel + 21 then
    some (firstSyllable + ((a - firstInitial) * 21 + (b - firstVowel)) * 28)
  else if (syllable? a).any (·.length = 2) ∧ noFinal < b ∧ b < noFinal + 28 then
    some (a + (b - noFinal))
  else none

/-! ## Taking apart -/

/-- What a character is made up of. -/
def parts (n : Nat) : List Nat :=
  ((syllable? n).or ((Composite.parts.find? n).or (Composite.replaced.find? n))).getD [n]

/-- Put a character before others that are in order: a mark goes behind the marks of
lower classes. -/
def place (n : Nat) : List Nat → List Nat
  | [] => [n]
  | m :: rest =>
    if 0 < Composite.order m ∧ Composite.order m < Composite.order n then m :: place n rest
    else n :: m :: rest

/-- The parts of a text with all marks in order. -/
def apart (ns : List Nat) : List Nat :=
  (ns.flatMap parts).foldr place []

/-! ## Putting together -/

/-- The character that two are put together to. -/
def pair? (a b : Nat) : Option Nat :=
  (joined? a b).or
    ((Composite.parts.sequences.find? fun row => row.2 == parts a ++ [b]).map Prod.fst)

/-- Put together a letter, the marks behind it that stay, and what follows.  A mark
goes to the letter unless a mark of its class, or another letter, lies between. -/
def gather (letter : Nat) (marks : List Nat) : List Nat → List Nat
  | [] => letter :: marks
  | n :: rest =>
    let isFree := match marks.getLast? with
      | none => true
      | some m => Composite.order m < Composite.order n
    match if isFree then pair? letter n else none with
    | some whole => gather whole marks rest
    | none =>
      if Composite.order n = 0 then letter :: marks ++ gather n [] rest
      else gather letter (marks ++ [n]) rest

/-- Put together what can be put together; marks before the first letter stay. -/
def together (ns : List Nat) : List Nat :=
  match ns.dropWhile fun n => Composite.order n ≠ 0 with
  | [] => ns
  | letter :: rest => ns.takeWhile (fun n => Composite.order n ≠ 0) ++ gather letter [] rest

/-- The normal form of a text. -/
def form (cs : List Char) : List Char :=
  (together (apart (cs.map Char.toNat))).map Char.ofNat

/-- Whether a text is in normal form. -/
def isForm (cs : List Char) : Bool := form cs == cs

end Interchain.Normal
