import Interchain.Decimal.Written

/-!
# Faults on the way to a contract

A call that does not reach its contract, or whose answer does not come back
whole, fails with a transport error.  Some of these pass by themselves and are
marked as transient; the texts of remote faults are known to tell.
-/

namespace Interchain

/-- Why a fault is expected to pass. -/
inductive TransientKind where
  /-- The connection was reset by the peer. -/
  | connectionReset
  /-- An answer could not be decoded. -/
  | undecodedBody
deriving DecidableEq, Repr

def TransientKind.label : TransientKind → String
  | .connectionReset => "connection reset"
  | .undecodedBody => "decode quirk"

/-- A call that was not answered by the contract. -/
inductive TransportError where
  | transient (kind : TransientKind) (message : String)
  /-- The gateway answered with a status that is no success. -/
  | http (endpoint : String) (status : Nat) (body : String)
  | request (endpoint message : String)
  | invalidEndpoint (text : String)
deriving DecidableEq, Repr

namespace TransportError

def message : TransportError → String
  | .transient kind m => "transient " ++ kind.label ++ ": " ++ m
  | .http endpoint status body =>
    "HTTP " ++ Decimal.naturalText status ++ " from " ++ endpoint ++ ": " ++ body
  | .request endpoint m => "request to " ++ endpoint ++ " failed: " ++ m
  | .invalidEndpoint text => "invalid endpoint " ++ text

def transientKind? : TransportError → Option TransientKind
  | .transient kind _ => some kind
  | _ => none

def isTransient (e : TransportError) : Bool :=
  e.transientKind?.isSome

/-- Whether a text occurs in another. -/
def occursIn (part : String) (whole : String) : Bool :=
  go part.toList whole.toList
where
  go (part : List Char) : List Char → Bool
    | [] => part.isEmpty
    | c :: cs => part.isPrefixOf (c :: cs) || go part cs

/-- Texts by which nodes report that they could not decode an answer. -/
def decodeMarkers : List String := ["InkResponse", "inkMessageReturn"]

/-- Texts by which nodes report that a connection was reset. -/
def resetMarkers : List String := ["ECONNRESET", "connection reset", "Connection reset"]

/-- The kind of fault that a remote text reports, if it is a passing one. -/
def classify? (text : String) : Option TransientKind :=
  if decodeMarkers.any fun m => occursIn m text then some .undecodedBody
  else if resetMarkers.any fun m => occursIn m text then some .connectionReset
  else none

/-- The fault that a remote text reports. -/
def ofRemoteMessage (endpoint text : String) : TransportError :=
  match classify? text with
  | some kind => .transient kind text
  | none => .request endpoint text

end TransportError

/-- A call that failed: the contract rejected it with a code, or it was not
answered. -/
inductive CallError (ε : Type) where
  | contract (code : ε)
  | transport (error : TransportError)
deriving DecidableEq, Repr

end Interchain
