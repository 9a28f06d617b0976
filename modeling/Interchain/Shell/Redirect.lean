import Interchain.Shell.Expansion

/-!
# Redirections

Before a command is run, descriptors are made to lead elsewhere: to files, to texts in
the script or to where others lead.  Behind it they lead where they did before.
-/

namespace Interchain.Shell

open Sh

/-- Where a descriptor is to lead. -/
inductive Target where
  | file (fd : Nat) (mode : FileMode) (name : Octets)
  /-- Where another descriptor leads, or nowhere. -/
  | copy (fd : Nat) (source : Option Nat)
  /-- A text in the script, that is expanded when it is opened. -/
  | document (fd : Nat) (word : Word)

namespace Target

/-- The descriptor that is redirected. -/
def fd : Target → Nat
  | .file fd _ _ | .copy fd _ | .document fd _ => fd

/-- Expand where a redirection leads. -/
def ofRedirection (inner : Runner) : Redirection → Sh Target
  | .file fd mode name => return .file fd mode (← Expansion.text inner Manner.single name)
  | .document fd number => do
    let s ← session
    return .document fd (((s.documents.find? fun d => d.1 == number).map Prod.snd).getD [])
  | .duplicate fd target => do
    match (← Expansion.fields inner target).head? with
    | some ['-'] => return .copy fd none
    | some [c] =>
      if c.isDigit then return .copy fd (some (c.toNat - 48))
      else fail "Syntax error: Bad fd number".toList
    | _ => fail "Syntax error: Bad fd number".toList

/-- Expand where redirections lead. -/
def ofRedirections (inner : Runner) : List Redirection → Sh (List Target)
  | [] => return []
  | r :: rs => do
    let t ← ofRedirection inner r
    return t :: (← ofRedirections inner rs)

/-- What is said of a file that cannot be opened. -/
def refusal (mode : FileMode) (name : Octets) (f : FileFault) : Octets :=
  let (verb, absence) := match mode with
    | .read => ("cannot open ", "No such file")
    | _ => ("cannot create ", "Directory nonexistent")
  verb.toList ++ name ++ [':', ' '] ++ match f with
    | .missing | .notDirectory => absence.toList
    | f => f.text.toList

/-- Have a descriptor of the shell lead to a stream, or nowhere. -/
def lead (fd : Nat) (stream : Option Nat) : Sh Unit :=
  modifySession fun s => { s with process := s.process.redirect fd stream }

/-- Redirect a descriptor.  If it is to be restored, it leads nowhere from before it is
known whether it can be made to lead where another does. -/
def aim (inner : Runner) (isRestored : Bool) : Target → Sh Unit
  | .file fd mode name => do
    let isProtected := (← session).option 'C'
    match ← act fun p => p.openFile mode isProtected name with
    | .ok stream => lead fd (some stream)
    | .error f => fail (refusal mode name f)
  | .copy fd none => lead fd none
  | .copy fd (some source) => do
    if source = fd then return ()
    match (← session).process.stream? source with
    | some stream => lead fd (some stream)
    | none => do
      if isRestored then lead fd none
      fail (Nat.toDigits 10 source ++ ": Bad file descriptor".toList)
  | .document fd word => do
    let content ← Expansion.text inner Manner.document word
    lead fd (some (← act fun _ => addStream (.source content)))

/-- Redirect descriptors, and say whether that could be done. -/
def aimAll (inner : Runner) (targets : List Target) : Sh Bool :=
  tryCatch (do targets.forM (aim inner true); return true) fun
    | .error => return false
    | stop => throw stop

/-- Have descriptors lead again where they did in another process. -/
def restore (before : Process) (targets : List Target) : Sh Unit :=
  targets.forM fun t => lead t.fd (before.stream? t.fd)

end Target

end Interchain.Shell
