import Interchain.Text.Octets

/-!
# Quoted words

How commands quote the words that they complain about, so that every byte of them
can be told, and how they quote words for a shell.
-/

namespace Interchain.Program

/-- Whether a byte is a character of ASCII that leaves a mark or a blank. -/
def isPrintable (c : Char) : Bool := ' ' ≤ c && c ≤ '~'

/-- The letters that stand for bytes behind a backslash. -/
def escapeLetters : List (Char × Char) :=
  [('\x07', 'a'), ('\x08', 'b'), ('\x0c', 'f'), ('\n', 'n'), ('\r', 'r'), ('\t', 't'), ('\x0b', 'v')]

/-- A byte that cannot be printed, behind a backslash. -/
def escaped (c : Char) : Octets :=
  match escapeLetters.find? fun e => e.1 == c with
  | some (_, letter) => ['\\', letter]
  | none =>
    let digit := fun (n : Nat) => Char.ofNat (48 + n % 8)
    ['\\', digit (c.toNat / 64), digit (c.toNat / 8), digit c.toNat]

/-- A word in quotes. -/
def quoted (cs : Octets) : Octets :=
  ['\''] ++ (cs.flatMap fun c =>
    if c = '\'' ∨ c = '\\' then ['\\', c] else if isPrintable c then [c] else escaped c) ++ ['\'']

/-! ## For a shell -/

/-- Characters with a meaning of their own to a shell, wherever they stand. -/
def isSpecial (c : Char) : Bool :=
  "?\\ !\"$&()*;<=>[^|'".toList.contains c || c == Char.ofNat 0x60

/-- Whether a word means something else to a shell than what it says. -/
def needsQuotes (cs : Octets) : Bool :=
  cs.isEmpty || cs.any (fun c => isSpecial c || !isPrintable c) ||
    cs = ['\x7b'] || cs = ['\x7d'] || cs.head? = some '#' || cs.head? = some '~'

/-- Whether a word means the same between double quotes as between single ones. -/
def isAlike (cs : Octets) : Bool :=
  let front := cs = ['\x7b'] || cs = ['\x7d'] || cs.head? = some '#' || cs.head? = some '~'
  let rest := if front then cs.drop 1 else cs
  rest.all fun c =>
    isPrintable c && (c == ' ' || c == '\'' || !(isSpecial c || ['\x7b', '\x7d', '#', '~'].contains c))

/-- The inside of a word between single quotes, where `escaping` says that they are open
for bytes that cannot be printed. -/
def quotedInside (escaping : Bool) : Octets → Octets
  | [] => []
  | c :: cs =>
    if !isPrintable c then
      (if escaping then [] else ['\'', '$', '\'']) ++ escaped c ++ quotedInside true cs
    else
      (if c = '\'' then ['\'', '\\', '\''] else if escaping then ['\'', '\''] else []) ++
        c :: quotedInside false cs

/-- A word for a shell, in quotes if it needs them.  A word that holds a quote is gone
through twice, and the second time goes on from where the first one ended. -/
def shellQuoted (cs : Octets) : Octets :=
  if !needsQuotes cs then cs
  else if !cs.contains '\'' then ['\''] ++ quotedInside false cs ++ ['\'']
  else if isAlike cs then ['"'] ++ cs ++ ['"']
  else ['\''] ++ quotedInside (cs.getLast?.any fun c => !isPrintable c) cs ++ ['\'']

/-- The name of a file, in quotes if it needs them or if it holds a colon. -/
def nameQuoted (cs : Octets) : Octets :=
  if cs.contains ':' ∧ !needsQuotes cs then ['\''] ++ cs ++ ['\''] else shellQuoted cs

end Interchain.Program
