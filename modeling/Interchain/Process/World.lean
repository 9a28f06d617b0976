import Interchain.Files

/-!
# Processes

Processes share files and the streams that they read and write.  Each has a working
directory and descriptors, which lead to streams.
-/

namespace Interchain

/-- How a file is opened. -/
inductive FileMode where
  | read
  | readWrite
  /-- Written anew. -/
  | write
  /-- Written anew even if files are protected. -/
  | overwrite
  | append
deriving DecidableEq, Repr

/-- What is read or written. -/
inductive Stream where
  /-- What a pipe has left to read. -/
  | source (rest : Octets)
  /-- What was written into a pipe, last first. -/
  | sink (written : Octets)
  /-- A file, and how much of it lies in front. -/
  | file (place : Place) (offset : Nat) (mode : FileMode)
  | directory
  | null
deriving DecidableEq, Repr

/-- What processes share. -/
structure World where
  files : Files
  streams : Array Stream
  /-- The number of the next process. -/
  nextProcess : Nat
  /-- How many further steps are taken. -/
  steps : Nat
  /-- The processes that have not ended. -/
  running : List Nat
  /-- Signals that processes were sent and have not taken up. -/
  sent : List (Nat × Nat)

/-- What a process has for itself. -/
structure Process where
  place : Place
  /-- The streams that descriptors lead to. -/
  descriptors : List (Nat × Nat)
deriving DecidableEq, Repr

abbrev Act := StateM World

namespace World

/-- A world in which nothing is open. -/
def ofFiles (files : Files) : World := ⟨files, #[], 1000, 200000, [], []⟩

/-- The content of the file at a place. -/
def content (w : World) (place : Place) : Octets :=
  match w.files.at? place with
  | .ok bytes => Octets.ofBytes bytes
  | .error _ => []

/-- Put a text over what a file holds behind an offset. -/
def splice (content : Octets) (offset : Nat) (text : Octets) : Octets :=
  content.take offset ++ List.replicate (offset - content.length) '\x00' ++ text ++
    content.drop (offset + text.length)

/-- Write to a stream, if it can be written. -/
def write? (w : World) (n : Nat) (text : Octets) : Option World :=
  match w.streams[n]? with
  | some (.sink written) =>
    some { w with streams := w.streams.set! n (.sink (text.reverse ++ written)) }
  | some (.file place offset mode) =>
    if mode = .read then none
    else
      let old := w.content place
      let offset := if mode = .append then old.length else offset
      some { w with
        files := w.files.put place (Octets.toBytes (splice old offset text))
        streams := w.streams.set! n (.file place (offset + text.length) mode) }
  | some .null => some w
  | _ => none

/-- What is left to be read from a stream. -/
def rest (w : World) (n : Nat) : Except FileFault Octets :=
  match w.streams[n]? with
  | some (.source rest) => .ok rest
  | some (.file place offset mode) =>
    match mode with
    | .read | .readWrite => .ok ((w.content place).drop offset)
    | _ => .error .notOpen
  | some .directory => .error .isDirectory
  | some .null => .ok []
  | _ => .error .notOpen

/-- Pass over so much of a stream. -/
def advance (w : World) (n count : Nat) : World :=
  match w.streams[n]? with
  | some (.source rest) => { w with streams := w.streams.set! n (.source (rest.drop count)) }
  | some (.file place offset mode) =>
    { w with streams := w.streams.set! n (.file place (offset + count) mode) }
  | _ => w

/-- What was written into a pipe. -/
def written (w : World) (n : Nat) : Octets :=
  match w.streams[n]? with
  | some (.sink written) => written.reverse
  | _ => []

end World

/-- Add a stream. -/
def addStream (s : Stream) : Act Nat := do
  let w ← get
  set { w with streams := w.streams.push s }
  return w.streams.size

/-- The number of a new process. -/
def newProcess : Act Nat := do
  let w ← get
  set { w with nextProcess := w.nextProcess + 1 }
  return w.nextProcess

/-- Note that a process has begun. -/
def begun (process : Nat) : Act Unit :=
  modify fun w => { w with running := process :: w.running }

/-- Note that a process has ended. -/
def ended (process : Nat) : Act Unit :=
  modify fun w =>
    { w with
      running := w.running.erase process, sent := w.sent.filter fun s => s.1 != process }

/-- Send a signal to a process, and say whether it is there. -/
def send (signal process : Nat) : Act Bool := do
  let w ← get
  if w.running.contains process then
    if signal ≠ 0 then set { w with sent := w.sent ++ [(process, signal)] }
    return true
  else return false

/-- Take up the signals that a process was sent. -/
def takeSent (process : Nat) : Act (List Nat) := do
  let w ← get
  set { w with sent := w.sent.filter fun s => s.1 != process }
  return (w.sent.filter fun s => s.1 == process).map Prod.snd

/-! ## Devices -/

/-- What stands under a name among the devices. -/
inductive Device where
  | null
  /-- What a descriptor leads to. -/
  | descriptor (fd : Nat)
deriving DecidableEq, Repr

/-- The place of the devices. -/
def Place.devices : Place := ["dev".toList]

def Device.names : List (String × Device) :=
  [("null", .null), ("stdin", .descriptor 0), ("stdout", .descriptor 1), ("stderr", .descriptor 2)]

/-- The device at a place. -/
def Device.at? : Place → Option Device
  | [[c], fd, dev] =>
    if fd = "fd".toList ∧ [dev] = Place.devices ∧ c.isDigit then some (.descriptor (c.toNat - 48))
    else none
  | name :: place =>
    if place = Place.devices then
      (names.find? fun d => d.1.toList == name).map Prod.snd
    else none
  | [] => none

namespace Process

/-- The stream that a descriptor leads to. -/
def stream? (p : Process) (fd : Nat) : Option Nat :=
  (p.descriptors.find? fun d => d.1 == fd).map Prod.snd

/-- Have a descriptor lead to a stream, or nowhere. -/
def redirect (p : Process) (fd : Nat) (stream : Option Nat) : Process :=
  { p with
    descriptors := (stream.map fun n => (fd, n)).toList ++ p.descriptors.filter fun d => d.1 != fd }

@[simp] theorem stream?_redirect (p : Process) (fd : Nat) (stream : Option Nat) :
    (p.redirect fd stream).stream? fd = stream := by
  cases stream with
  | none =>
    simp only [stream?, redirect, Option.map_none, Option.toList_none, List.nil_append,
      Option.map_eq_none_iff, List.find?_eq_none, List.mem_filter]
    intro d hd
    simp only [bne_iff_ne, ne_eq] at hd
    simp [hd.2]
  | some n => simp [stream?, redirect]

/-- Write to a descriptor, and say whether that can be done. -/
def write (p : Process) (fd : Nat) (text : Octets) : Act Bool := do
  match p.stream? fd with
  | none => return text.isEmpty
  | some n =>
    let w ← get
    match w.write? n text with
    | some w =>
      set w
      return true
    | none => return text.isEmpty

/-- What is left to be read from a descriptor. -/
def rest (p : Process) (fd : Nat) : Act (Except FileFault Octets) := do
  match p.stream? fd with
  | none => return .error .notOpen
  | some n => return (← get).rest n

/-- Pass over so much of what a descriptor leads to. -/
def advance (p : Process) (fd count : Nat) : Act Unit := do
  match p.stream? fd with
  | none => return ()
  | some n => modify fun w => w.advance n count

/-- Read everything. -/
def readAll (p : Process) (fd : Nat) : Act (Except FileFault Octets) := do
  let rest ← p.rest fd
  match rest with
  | .ok text => p.advance fd text.length
  | .error _ => pure ()
  return rest

/-- The place that a path leads to. -/
def resolve (p : Process) (path : Octets) : Act (Except FileFault Place) := do
  return (← get).files.resolve p.place path

/-- Open the file at a place.  A protected file is not written anew. -/
def openAt (mode : FileMode) (isProtected : Bool) (place : Place) : Act (Except FileFault Nat) := do
  let w ← get
  let fresh := fun (bytes : List UInt8) => do
    set { w with files := w.files.put place bytes }
    return .ok (← addStream (.file place 0 mode))
  match mode, w.files.at? place with
  | .read, .ok _ => return .ok (← addStream (.file place 0 mode))
  | .read, .error .isDirectory => return .ok (← addStream .directory)
  | .read, .error f => return .error f
  | .write, .ok _ => if isProtected then return .error .alreadyThere else fresh []
  | .overwrite, .ok _ => fresh []
  | .append, .ok bytes | .readWrite, .ok bytes => fresh bytes
  | _, .error .missing => fresh []
  | _, .error f => return .error f

/-- Open a file, as a stream. -/
def openFile (p : Process) (mode : FileMode) (isProtected : Bool) (path : Octets) :
    Act (Except FileFault Nat) := do
  match ← p.resolve path with
  | .error f => return .error f
  | .ok place =>
    match Device.at? place with
    | some .null => return .ok (← addStream .null)
    | some (.descriptor fd) => return ((p.stream? fd).map Except.ok).getD (.error .missing)
    | none => openAt mode isProtected place

end Process

end Interchain
