import Interchain.Text.Octets

/-!
# Files

The files that a program finds, by their places.  Places are reached by paths from
the working directory or, with a slash in front, from the root.  The directories on
the way to a file exist with it, and some directories are also reached from
elsewhere.
-/

namespace Interchain

/-- Why something cannot be done with a file. -/
inductive FileFault where
  | missing
  | isDirectory
  /-- Part of the path is a file. -/
  | notDirectory
  | nameTooLong
  | denied
  | alreadyThere
  /-- Nothing is open there, or not for this. -/
  | notOpen
  /-- A path holds a NUL. -/
  | badName
  /-- The content is no text. -/
  | notText
  | other (message : String)
deriving DecidableEq, Repr

namespace FileFault

/-- What the system calls a fault. -/
def text : FileFault → String
  | .missing => "No such file or directory"
  | .isDirectory => "Is a directory"
  | .notDirectory => "Not a directory"
  | .nameTooLong => "File name too long"
  | .denied => "Permission denied"
  | .alreadyThere => "File exists"
  | .notOpen => "Bad file descriptor"
  | .badName => "file name contained an unexpected NUL byte"
  | .notText => "stream did not contain valid UTF-8"
  | .other message => message

/-- The number of a fault. -/
def number? : FileFault → Option String
  | .missing => some "2"
  | .notOpen => some "9"
  | .denied => some "13"
  | .alreadyThere => some "17"
  | .notDirectory => some "20"
  | .isDirectory => some "21"
  | .nameTooLong => some "36"
  | .badName | .notText | .other _ => none

def message (f : FileFault) : String :=
  match f.number? with
  | some n => f.text ++ " (os error " ++ n ++ ")"
  | none => f.text

end FileFault

/-- The names on the way from the root to a place, last first. -/
abbrev Place := List Octets

namespace Place

def root : Place := []

/-- The working directory. -/
def here : Place := ["work".toList]

/-- One step from a place. -/
def walk (place : Place) (step : Octets) : Place :=
  if step = [] ∨ step = ['.'] then place
  else if step = ['.', '.'] then place.tail
  else step :: place

/-- The steps of a path. -/
def steps (path : Octets) : List Octets :=
  go [] path
where
  go (step : Octets) : Octets → List Octets
    | [] => [step.reverse]
    | c :: cs => if c = '/' then step.reverse :: go [] cs else go (c :: step) cs

/-- Where a path starts. -/
def start (base : Place) (path : Octets) : Place :=
  if path.head? = some '/' then root else base

/-- The place that a path names. -/
def ofPath (path : Octets) : Place :=
  (steps path).foldl walk (start here path)

/-- The path from the root to a place. -/
def toPath : Place → Octets
  | [] => ['/']
  | [step] => '/' :: step
  | step :: place => toPath place ++ '/' :: step

end Place

/-- Files: for each place what reading it comes to, which for a directory is a
fault.  A link leads from one place to another. -/
structure Files where
  entries : List (Place × Except FileFault (List UInt8))
  links : List (Place × Place)

namespace Files

/-- No files. -/
def empty : Files := ⟨[], []⟩

/-- Files by path. -/
def ofPaths (entries : List (String × Except FileFault (List UInt8))) : Files :=
  ⟨entries.map fun e => (Place.ofPath (Octets.ofText e.1), e.2), []⟩

/-- The greatest length of a name and of a path. -/
def maxName : Nat := 255

def maxPath : Nat := 4095

/-- The entry at a place. -/
def at? (files : Files) (place : Place) : Except FileFault (List UInt8) :=
  match files.entries.find? fun e => e.1 == place with
  | some (_, result) => result
  | none =>
    if place.isSuffixOf Place.here || files.entries.any (fun e => place.isSuffixOf e.1) then
      .error .isDirectory
    else if maxName < (place.headD []).length then .error .nameTooLong
    else .error .missing

/-- The place that a link leads to from this one. -/
def linked (files : Files) (place : Place) : Place :=
  match files.links.find? fun l => l.1 == place with
  | some (_, target) => target
  | none => place

/-- The place that some steps lead to from another.  No step leads on from a
file. -/
def follow (files : Files) (place : Place) : List Octets → Except FileFault Place
  | [] => .ok place
  | step :: rest =>
    match files.at? place with
    | .ok _ => .error .notDirectory
    | .error .isDirectory => follow files (files.linked (place.walk step)) rest
    | .error fault => .error fault

/-- The place that a path from another place leads to. -/
def resolve (files : Files) (base : Place) (path : Octets) : Except FileFault Place :=
  if path.contains '\x00' then .error .badName
  else if path.isEmpty then .error .missing
  else if maxPath < path.length then .error .nameTooLong
  else files.follow (Place.start base path) (Place.steps path)

/-- The content of the file at a path from another place. -/
def readFrom (files : Files) (base : Place) (path : Octets) : Except FileFault (List UInt8) :=
  (files.resolve base path).bind files.at?

/-- The content of the file at a path. -/
def read (files : Files) (path : String) : Except FileFault (List UInt8) :=
  files.readFrom Place.here (Octets.ofText path)

/-- The text of the file at a path. -/
def readText (files : Files) (path : String) : Except FileFault String :=
  (files.read path).bind fun content =>
    match String.fromUTF8? ⟨content.toArray⟩ with
    | some text => .ok text
    | none => .error .notText

/-- Whether there is a file or a directory at a path. -/
def contains (files : Files) (path : String) : Bool :=
  match files.read path with
  | .ok _ => true
  | .error .isDirectory => true
  | .error _ => false

/-- Put a file at a place. -/
def put (files : Files) (place : Place) (content : List UInt8) : Files :=
  { files with entries := (place, .ok content) :: files.entries.filter fun e => e.1 != place }

/-- The names in a directory. -/
def names (files : Files) (place : Place) : List Octets :=
  let below := files.entries.map Prod.fst ++ files.links.map Prod.fst
  (below.filterMap fun p =>
    if place.isSuffixOf p then (p.take (p.length - place.length)).getLast? else none).eraseDups

/-- A path with a further step. -/
def join (path step : String) : String :=
  if path.isEmpty ∨ path.endsWith "/" then path ++ step else path ++ "/" ++ step

/-- A text is read back from the file that holds its bytes. -/
theorem readText_of_read {files : Files} {path s : String}
    (h : files.read path = .ok s.toUTF8.data.toList) : files.readText path = .ok s := by
  have hvalid : s.toUTF8.IsValidUTF8 := s.isValidUTF8
  have hback : String.fromUTF8? s.toUTF8 = some s := dif_pos hvalid
  rw [readText, h, Except.bind, Array.toArray_toList]
  simp only [hback]

end Files

end Interchain
