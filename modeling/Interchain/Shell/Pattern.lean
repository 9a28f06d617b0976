import Interchain.Text.Octets

/-!
# Patterns

A pattern fits texts: a question mark any character, a star any text, and characters
in brackets one of them.  A character that was quoted in a script only fits itself.
-/

namespace Interchain.Shell

/-- A character of a pattern, and whether it was quoted. -/
abbrev PatternChar := Char × Bool

namespace Pattern

/-- Classes of characters by name. -/
def classes : List (String × (Char → Bool)) :=
  [("alnum", Char.isAlphanum), ("alpha", Char.isAlpha), ("blank", fun c => c == ' ' || c == '\t'),
   ("cntrl", fun c => c.toNat < 32 || c.toNat == 127), ("digit", Char.isDigit),
   ("graph", fun c => 32 < c.toNat && c.toNat < 127), ("lower", Char.isLower),
   ("print", fun c => 32 ≤ c.toNat && c.toNat < 127),
   ("punct", fun c => 32 < c.toNat && c.toNat < 127 && !c.isAlphanum),
   ("space", fun c => c == ' ' || ('\t' ≤ c && c ≤ '\r')), ("upper", Char.isUpper),
   ("xdigit", fun c => c.isDigit || ('a' ≤ c && c ≤ 'f') || ('A' ≤ c && c ≤ 'F'))]

/-- What stands in brackets. -/
inductive Member where
  | range (first last : Char)
  | ofClass (name : String)
deriving DecidableEq, Repr

/-- The order of characters in ranges, in which those outside ASCII come first. -/
def rank (c : Char) : Nat := (c.toNat + 128) % 256

def Member.holds (c : Char) : Member → Bool
  | .range first last => rank first ≤ rank c && rank c ≤ rank last
  | .ofClass name => ((classes.find? fun k => k.1 == name).map fun k => k.2 c).getD false

inductive Item where
  | one (c : Char)
  | any
  | many
  | set (negated : Bool) (members : List Member)
deriving DecidableEq, Repr

/-- The class that is named behind an opening bracket, and what follows. -/
def class? (ps : List PatternChar) : Option (String × List PatternChar) :=
  classes.findSome? fun k =>
    let written := (':' :: k.1.toList ++ [':', ']']).map fun c => (c, false)
    if written.isPrefixOf ps then some (k.1, ps.drop written.length) else none

/-- The members in brackets whose first character is given, and what follows the closing
bracket. -/
def members? : Nat → PatternChar → List PatternChar → Option (List Member × List PatternChar)
  | 0, _, _ => none
  | n + 1, c, ps =>
    let (member, rest) :=
      match if c = ('[', false) then class? ps else none with
      | some (name, rest) => (Member.ofClass name, rest)
      | none =>
        match ps with
        | ('-', false) :: last :: rest =>
          if last = (']', false) then (.range c.1 c.1, ps) else (.range c.1 last.1, rest)
        | _ => (.range c.1 c.1, ps)
    match rest with
    | [] => none
    | next :: rest =>
      if next = (']', false) then some ([member], rest)
      else (members? n next rest).map fun r => (member :: r.1, r.2)

/-- What brackets hold behind the opening one. -/
def set? (ps : List PatternChar) : Option (Item × List PatternChar) :=
  let (negated, rest) := match ps with
    | ('!', false) :: rest => (true, rest)
    | _ => (false, ps)
  match rest with
  | [] => none
  | c :: rest => (members? (rest.length + 1) c rest).map fun r => (.set negated r.1, r.2)

/-- The items of a pattern. -/
def items (ps : List PatternChar) : List Item :=
  go ps.length ps
where
  go : Nat → List PatternChar → List Item
    | 0, _ => []
    | _, [] => []
    | n + 1, ('?', false) :: rest => .any :: go n rest
    | n + 1, ('*', false) :: rest => .many :: go n rest
    | n + 1, ('[', false) :: rest =>
      match set? rest with
      | some (item, rest) => item :: go n rest
      | none => .one '[' :: go n rest
    | n + 1, (c, _) :: rest => .one c :: go n rest

/-- Whether some end of a text is accepted. -/
def someEnd (accepts : Octets → Bool) : Octets → Bool
  | [] => accepts []
  | c :: cs => accepts (c :: cs) || someEnd accepts cs

/-- Whether items fit a text. -/
def fits : List Item → Octets → Bool
  | [], cs => cs.isEmpty
  | .many :: items, cs => someEnd (fits items) cs
  | _ :: _, [] => false
  | .one d :: items, c :: cs => c == d && fits items cs
  | .any :: items, _ :: cs => fits items cs
  | .set negated members :: items, c :: cs => (members.any (·.holds c) != negated) && fits items cs

/-- Whether items fit the first of the texts that marks stand between. -/
def fitsFirst (items : List Item) (cs : Octets) : Bool := fits items (cs.takeWhile (· ≠ '\x00'))

/-- A text without the first of its beginnings that fit, by length from the given list. -/
def dropFront (lengths : List Nat) (items : List Item) (cs : Octets) : Octets :=
  match lengths.find? fun n => fitsFirst items (cs.take n) with
  | some n => cs.drop n
  | none => cs

/-- A text without the first of its ends that fit, by where they begin. -/
def dropEnd (places : List Nat) (items : List Item) (cs : Octets) : Octets :=
  match places.find? fun n => fitsFirst items (cs.drop n) with
  | some n => cs.take n
  | none => cs

/-- Whether a pattern has a character with a meaning of its own. -/
def isPattern (ps : List PatternChar) : Bool :=
  ps.any fun p => !p.2 && (p.1 == '*' || p.1 == '?' || p.1 == '[')

end Pattern

end Interchain.Shell
