import Interchain.Json.Document

/-!
# Reading JSON

A reader takes characters from the front of a text and returns the document that
they make up with the characters that are left, or without any if the document
breaks off.  Members are kept in the order in which they are written.  Values that
are nested in more than 127 arrays and objects are marked.
-/

namespace Interchain

namespace Document.Parser

/-- White space between tokens. -/
def isSpace (c : Char) : Bool :=
  c == ' ' || c == '\n' || c == '\t' || c == '\r'

def skipSpace (cs : List Char) : List Char :=
  cs.dropWhile isSpace

/-! ## Strings -/

/-- What a hexadecimal digit of either case stands for. -/
def hexValue? (c : Char) : Option Nat :=
  if '0' ≤ c ∧ c ≤ '9' then some (c.toNat - 48)
  else if 'a' ≤ c ∧ c ≤ 'f' then some (c.toNat - 87)
  else if 'A' ≤ c ∧ c ≤ 'F' then some (c.toNat - 55)
  else none

/-- The code unit written by four digits. -/
def unit? (a b c d : Char) : Option Nat := do
  let a ← hexValue? a
  let b ← hexValue? b
  let c ← hexValue? c
  let d ← hexValue? d
  return ((a * 16 + b) * 16 + c) * 16 + d

/-- The code unit at the front of a text.  A text of fewer than four bytes ends
too early. -/
def unit : List Char → Except Malformed (Nat × List Char)
  | a :: b :: c :: d :: rest =>
    match unit? a b c d with
    | some n => .ok (n, rest)
    | none => .error .badEscape
  | cs => .error (if (String.ofList cs).utf8ByteSize < 4 then .endInString else .badEscape)

/-- The character that a letter after a backslash stands for. -/
def letter? : Char → Option Char
  | '"' => some '"'
  | '\\' => some '\\'
  | '/' => some '/'
  | 'b' => some '\x08'
  | 'f' => some '\x0c'
  | 'n' => some '\n'
  | 'r' => some '\r'
  | 't' => some '\t'
  | _ => none

/-- The character that an escape stands for whose first unit has been read; the
first half of a surrogate pair needs the second. -/
def paired (high : Nat) (rest : List Char) : Except Malformed (Char × List Char) :=
  if high < 0xD800 ∨ 0xDFFF < high then .ok (Char.ofNat high, rest)
  else if 0xDC00 ≤ high then .error .loneSurrogate
  else
    match rest with
    | [] => .error .endInString
    | ['\\'] => .error .endInString
    | '\\' :: 'u' :: rest => do
      let (low, rest) ← unit rest
      if 0xDC00 ≤ low ∧ low ≤ 0xDFFF then
        return (Char.ofNat (0x10000 + (high - 0xD800) * 0x400 + (low - 0xDC00)), rest)
      else throw .loneSurrogate
    | _ => .error .missingSurrogate

/-- The characters of a string after its opening quote, and what is left behind the
closing one.  Every turn takes a character, so `fuel` need be no more than the
length of the text. -/
def stringBody : (fuel : Nat) → List Char → Except Malformed (List Char × List Char)
  | 0, _ => .error .endInString
  | _ + 1, [] => .error .endInString
  | _ + 1, '"' :: rest => .ok ([], rest)
  | _ + 1, ['\\'] => .error .endInString
  | fuel + 1, '\\' :: 'u' :: rest => do
    let (high, rest) ← unit rest
    let (c, rest) ← paired high rest
    let (cs, rest) ← stringBody fuel rest
    return (c :: cs, rest)
  | fuel + 1, '\\' :: l :: rest =>
    match letter? l with
    | none => .error .badEscape
    | some c => do
      let (cs, rest) ← stringBody fuel rest
      return (c :: cs, rest)
  | fuel + 1, c :: rest =>
    if c.toNat < 32 then .error .controlCharacter
    else do
      let (cs, rest) ← stringBody fuel rest
      return (c :: cs, rest)

/-- What is left behind a string that is passed over, after its opening quote. -/
def skipString : (fuel : Nat) → List Char → Except Malformed (List Char)
  | 0, _ => .error .endInString
  | _ + 1, [] => .error .endInString
  | _ + 1, '"' :: rest => .ok rest
  | _ + 1, ['\\'] => .error .endInString
  | fuel + 1, '\\' :: 'u' :: rest => unit rest >>= fun r => skipString fuel r.2
  | fuel + 1, '\\' :: l :: rest =>
    if (letter? l).isNone then .error .badEscape else skipString fuel rest
  | fuel + 1, c :: rest =>
    if c.toNat < 32 then .error .controlCharacter else skipString fuel rest

/-- The text of a string after its opening quote. -/
def stringText (cs : List Char) : Except Malformed String :=
  (stringBody (cs.length + 1) cs).map fun r => String.ofList r.1

/-! ## Numbers -/

/-- The value of a run of digits, most significant first. -/
def naturalOf (digits : List Nat) : Nat :=
  digits.foldl (fun n d => n * 10 + d) 0

/-- The digits at the front of a text. -/
def takeDigits (cs : List Char) : List Nat × List Char :=
  ((cs.takeWhile Char.isDigit).map fun c => c.toNat - 48, cs.dropWhile Char.isDigit)

/-- At least one digit. -/
def digits1 (cs : List Char) : Except Malformed (List Nat × List Char) :=
  match takeDigits cs with
  | ([], []) => .error .endInValue
  | ([], _) => .error .badNumber
  | r => .ok r

/-- The digits of an integer: a zero stands alone. -/
def wholeDigits : List Char → Except Malformed (List Nat × List Char)
  | '0' :: rest =>
    match rest with
    | c :: _ => if c.isDigit then .error .badNumber else .ok ([0], rest)
    | [] => .ok ([0], rest)
  | cs => digits1 cs

/-- A point with the digits after it. -/
def fractionDigits : List Char → Except Malformed (List Nat × List Char)
  | '.' :: rest => digits1 rest
  | cs => .ok ([], cs)

/-- An exponent. -/
def exponent : List Char → Except Malformed (Option Int × List Char)
  | c :: rest =>
    if c = 'e' ∨ c = 'E' then
      match rest with
      | '+' :: rest => (digits1 rest).map fun r => (some (naturalOf r.1 : Int), r.2)
      | '-' :: rest => (digits1 rest).map fun r => (some (-(naturalOf r.1 : Int)), r.2)
      | rest => (digits1 rest).map fun r => (some (naturalOf r.1 : Int), r.2)
    else .ok (none, c :: rest)
  | [] => .ok (none, [])

/-- Integers of no more digits than this are below the greatest double. -/
def safeDigits : Nat := 300

/-- The number with this sign, digits and exponent.  It must be finite as a double
if it has a fraction or an exponent or more than 64 bits.  Zero with a minus sign is
a double, for no integer is minus zero. -/
def number (negative : Bool) (whole fraction : List Nat) (exp : Option Int) :
    Except Malformed Number :=
  if fraction.isEmpty ∧ exp.isNone ∧ ¬(negative ∧ whole = [0]) then
    let n : Int := naturalOf whole
    let i := Number.int (if negative then -n else n)
    match i.narrow with
    | .int _ => .ok i
    | .double _ =>
      if whole.length ≤ safeDigits ∨ (Number.double? negative whole [] 0).isSome then .ok i
      else .error .numberTooLarge
  else
    match Number.double? negative whole fraction (exp.getD 0) with
    | some x => .ok (.double x.toBits)
    | none => .error .numberTooLarge

/-- The parts of a number after its sign. -/
def parts (cs : List Char) :
    Except Malformed ((List Nat × List Nat × Option Int) × List Char) := do
  let (whole, cs) ← wholeDigits cs
  let (fraction, cs) ← fractionDigits cs
  let (exp, cs) ← exponent cs
  return ((whole, fraction, exp), cs)

/-! ## Documents -/

/-- A document with what is left of the text, of which there is nothing where the
document breaks off. -/
abbrev Read := Document × Option (List Char)

/-- A number after its sign. -/
def unsigned (negative : Bool) (cs : List Char) : Read :=
  match parts cs with
  | .ok ((whole, fraction, exp), rest) => (.number (number negative whole fraction exp), some rest)
  | .error e => (.brokenWord e .badNumber, none)

/-- The rest of a word whose first letter has been read. -/
def word (d : Document) : List Char → List Char → Read
  | [], rest => (d, some rest)
  | _ :: _, [] => (.brokenWord .endInValue .endInValue, none)
  | e :: es, c :: rest => if c = e then word d es rest else (.brokenWord .notWord .notWord, none)

/-- A string after its opening quote. -/
def string (cs : List Char) : Read :=
  match skipString (cs.length + 1) cs, stringText cs with
  | .ok rest, text => (.string text, some rest)
  | .error skipped, .error read => (.brokenString read skipped, none)
  | .error skipped, .ok _ => (.brokenString skipped skipped, none)

/-- How the thing looks that stands where a key is due. -/
def foundAsKey (cs : List Char) : Except Malformed Seen :=
  match cs with
  | '[' :: _ => .ok .sequence
  | '\x7b' :: _ => .ok .map
  | 'n' :: rest => (word .null ['u', 'l', 'l'] rest).1.seen
  | 't' :: rest => (word (.bool true) ['r', 'u', 'e'] rest).1.seen
  | 'f' :: rest => (word (.bool false) ['a', 'l', 's', 'e'] rest).1.seen
  | '-' :: rest => (unsigned true rest).1.seen
  | c :: _ => if c.isDigit then (unsigned false cs).1.seen else .error .notValue
  | [] => .error .endInValue

/-- A document below a level of nesting. -/
def nested (depth : Nat) (r : Read) : Read :=
  match depth with
  | 0 => (.deep r.1, r.2)
  | _ + 1 => r

mutual

/-- A document with at most `depth` levels of arrays and objects that are not
marked.  Every turn but the first takes a character, so `fuel` need be no more than
twice the length of the text and some. -/
def value (depth : Nat) : (fuel : Nat) → List Char → Read
  | 0, _ => (.missing .endInValue, none)
  | fuel + 1, cs =>
    match skipSpace cs with
    | [] => (.missing .endInValue, none)
    | 'n' :: rest => word .null ['u', 'l', 'l'] rest
    | 't' :: rest => word (.bool true) ['r', 'u', 'e'] rest
    | 'f' :: rest => word (.bool false) ['a', 'l', 's', 'e'] rest
    | '"' :: rest => string rest
    | '-' :: rest => unsigned true rest
    | '[' :: rest =>
      let (ds, close, rest) := items (depth - 1) fuel true rest
      nested depth (.array ds close, rest)
    | '\x7b' :: rest =>
      let (ms, close, rest) := members (depth - 1) fuel true rest
      nested depth (.object ms close, rest)
    | c :: rest =>
      if c.isDigit then unsigned false (c :: rest) else (.brokenWord .notValue .notValue, none)

/-- The items of an array, the first or a further one being due. -/
def items (depth : Nat) : (fuel : Nat) → (first : Bool) → List Char →
    List Document × Close × Option (List Char)
  | 0, _, _ => ([], .cut, none)
  | fuel + 1, first, cs =>
    match skipSpace cs, first with
    | [], _ => ([], .cut, none)
    | ']' :: rest, _ => ([], .closed, some rest)
    | ',' :: rest, false =>
      match skipSpace rest with
      | ']' :: _ => ([], .comma, none)
      | cs => item depth fuel cs
    | cs, true => item depth fuel cs
    | _, false => ([], .unexpected, none)

/-- An item of an array and those after it. -/
def item (depth : Nat) : (fuel : Nat) → List Char → List Document × Close × Option (List Char)
  | 0, _ => ([], .cut, none)
  | fuel + 1, cs =>
    match value depth fuel cs with
    | (d, none) => ([d], .broken, none)
    | (d, some rest) =>
      let (ds, close, rest) := items depth fuel false rest
      (d :: ds, close, rest)

/-- The members of an object, the first or a further one being due. -/
def members (depth : Nat) : (fuel : Nat) → (first : Bool) → List Char →
    List (Except Malformed String × Document) × Close × Option (List Char)
  | 0, _, _ => ([], .cut, none)
  | fuel + 1, first, cs =>
    match skipSpace cs, first with
    | [], _ => ([], .cut, none)
    | '\x7d' :: rest, _ => ([], .closed, some rest)
    | ',' :: rest, false =>
      match skipSpace rest with
      | [] => ([], .cutAfterComma, none)
      | '\x7d' :: _ => ([], .comma, none)
      | cs => member depth fuel cs
    | cs, true => member depth fuel cs
    | _, false => ([], .unexpected, none)

/-- A member of an object and those after it. -/
def member (depth : Nat) : (fuel : Nat) → List Char →
    List (Except Malformed String × Document) × Close × Option (List Char)
  | 0, _ => ([], .cut, none)
  | fuel + 1, '"' :: cs =>
    match string cs with
    | (.string key, some rest) =>
      match skipSpace rest with
      | ':' :: rest =>
        match value depth fuel rest with
        | (d, none) => ([(key, d)], .broken, none)
        | (d, some rest) =>
          let (ms, close, rest) := members depth fuel false rest
          ((key, d) :: ms, close, rest)
      | [] => ([(key, .missing .endInObject)], .broken, none)
      | _ => ([(key, .missing .notColon)], .broken, none)
    | (.brokenString read skipped, _) => ([], .brokenKey read skipped, none)
    | _ => ([], .brokenKey .endInString .endInString, none)
  | _ + 1, cs => ([], .badKey (foundAsKey cs), none)

end

/-- How many levels of arrays and objects are read. -/
def maxDepth : Nat := 127

end Document.Parser

namespace Document

/-- The document that a text begins with, and whether something follows it that is
not white space. -/
def ofText (text : String) : Document × Bool :=
  let cs := text.toList
  match Parser.value Parser.maxDepth (2 * cs.length + 2) cs with
  | (d, none) => (d, false)
  | (d, some rest) => (d, !(Parser.skipSpace rest).isEmpty)

end Document

/-- The value that a text holds, with nothing but white space around it. -/
def Json.ofText (text : String) : Except Malformed Json :=
  match Document.ofText text with
  | (d, surplus) => do
    let j ← d.toJson
    if surplus then throw .surplus else return j

end Interchain
