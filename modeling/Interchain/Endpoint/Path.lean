import Interchain.Endpoint.Percent
import Interchain.Text.Ascii
import Interchain.Text.Split

/-!
# Paths of addresses

A path is followed segment by segment: one dot stays where it is, two dots go up
to the parent, and every other segment is appended.  The paths of files may begin
with the letter of a drive, which no step leaves.
-/

namespace Interchain

/-- What a scheme makes of paths. -/
structure PathRules where
  /-- Backslashes are slashes, and every path begins with a slash. -/
  isSpecial : Bool
  /-- Paths name files, so that they may begin with a drive. -/
  isFile : Bool
deriving DecidableEq, Repr

/-- A path while it is followed. -/
structure Course where
  path : List Char
  /-- Whether a drive was found, which leaves no room for a host. -/
  hasDrive : Bool
deriving DecidableEq, Repr

namespace PathRules

/-- Slashes, and backslashes where they count as slashes. -/
def isSlash (rules : PathRules) (c : Char) : Bool :=
  c == '/' || (rules.isSpecial && c == '\\')

end PathRules

namespace Course

/-! ## Drives -/

/-- A letter with a colon or a bar. -/
def isDrive : List Char → Bool
  | [letter, mark] => letter.isAlpha && (mark == ':' || mark == '|')
  | _ => false

/-- A letter with a colon. -/
def isColonDrive (cs : List Char) : Bool :=
  isDrive cs && cs.getLast? == some ':'

/-- Whether a text begins with a drive that is a segment of its own. -/
def beginsWithDrive (cs : List Char) : Bool :=
  isDrive (cs.take 2) && (cs.drop 2).head?.all fun c => ['/', '\\', '?', '#'].contains c

/-! ## Steps -/

def isSingleDot (segment : List Char) : Bool :=
  [".", "%2e"].contains (Ascii.lower (String.ofList segment))

def isDoubleDot (segment : List Char) : Bool :=
  ["..", ".%2e", "%2e.", "%2e%2e"].contains (Ascii.lower (String.ofList segment))

/-- The text up to and with the last slash, if there is one, and what follows it. -/
def cutLastSlash (cs : List Char) : List Char × List Char :=
  let last := (cs.reverse.takeWhile (· ≠ '/')).reverse
  (cs.take (cs.length - last.length), last)

def endsWithSlash (path : List Char) : Bool :=
  path.getLast? == some '/'

/-- The path with a slash at its end. -/
def closed (path : List Char) : List Char :=
  if endsWithSlash path then path else path ++ ['/']

/-- The path without its last segment; a drive stays. -/
def pop (rules : PathRules) (path : List Char) : List Char :=
  let (front, last) := cutLastSlash path
  if front.isEmpty ∨ (rules.isFile ∧ isColonDrive last) then path else front

/-- The path without a slash at its end, unless that is its only one or ends a drive. -/
def opened (path : List Char) : List Char :=
  if endsWithSlash path then
    let (front, last) := cutLastSlash path.dropLast
    if front.isEmpty ∨ beginsWithDrive (last ++ ['/']) then path else path.dropLast
  else path

/-- Follow one segment, with a slash behind it or not. -/
def step (rules : PathRules) (course : Course) (segment : List Char) (slash : Bool) : Course :=
  let tail := if slash then ['/'] else []
  let path :=
    if rules.isFile ∧ !segment.isEmpty ∧ isColonDrive (course.path.drop 1) then
      course.path ++ ['/']
    else course.path
  let segment := Percent.encode Percent.inPath segment
  if isDoubleDot segment then
    let path := pop rules (opened path)
    { course with path := if slash then closed path else path }
  else if isSingleDot segment then { course with path := closed path }
  else if rules.isFile ∧ isDrive segment then
    ⟨path ++ segment.take 1 ++ ':' :: tail, true⟩
  else { course with path := path ++ segment ++ tail }

/-- Follow segments, all but the last of them with slashes behind them. -/
def steps (rules : PathRules) (course : Course) : List (List Char) → Course
  | [] => course
  | [last] => step rules course last false
  | segment :: rest => steps rules (step rules course segment true) rest

/-- Follow a text.  A path of a file has no empty segments in front. -/
def follow (rules : PathRules) (path text : List Char) : Course :=
  let slashed := text.map fun c => if rules.isSlash c then '/' else c
  let course := steps rules ⟨path, false⟩ (Split.pieces '/' slashed)
  if rules.isFile then { course with path := '/' :: course.path.dropWhile (· = '/') } else course

/-- The path that a text behind a host names.  Special schemes need a slash in front,
and others only if there is any path. -/
def start (rules : PathRules) (text : List Char) : Course :=
  let rest := if text.head?.any rules.isSlash then text.drop 1 else text
  if rules.isSpecial ∨ !text.isEmpty then follow rules ['/'] rest else ⟨[], false⟩

end Course

end Interchain
