import Interchain.Endpoint.Url
import Interchain.Json.Basic

/-!
# Exchanges with gateways

A gateway is whatever answers requests: its reply may depend on every request it
has received.  An exchange is a computation that sends requests and goes on from
the replies, and it can be run against any gateway.
-/

namespace Interchain

/-- A call to a contract as it is sent. -/
structure CallRequest where
  origin : String
  method : String
  args : Json
  gasLimit : Option UInt64
  storageDepositLimit : Option (BitVec 128)
deriving Repr

/-- A request on the wire. -/
structure Request where
  url : Url
  call : CallRequest
deriving Repr

/-- What comes back for a request. -/
inductive Reply where
  /-- A status and the text of a body.  Of a body that cannot be read, `place` says where reading
  it stops. -/
  | answer (status : Nat) (text place : String)
  /-- The connection was reset after the request was read. -/
  | reset
  /-- No connection was made, so that the gateway received nothing. -/
  | refused
  /-- The connection was closed without an answer. -/
  | closed
  /-- The body ended before its announced length. -/
  | truncated
deriving DecidableEq, Repr

/-- What is said of the place at which reading the body stops. -/
def Reply.place : Reply → String
  | .answer _ _ place => place
  | _ => ""

/-- What a gateway replies to the last of the requests it has received. -/
abbrev Gateway := List Request → Reply

/-- A gateway that no connection can be made to. -/
def Gateway.unreachable : Gateway := fun _ => .refused

/-- Those of the requests sent that the gateway received. -/
def Gateway.received (gateway : Gateway) (sent : List Request) : List Request :=
  (sent.zipIdx.filter fun r => gateway (sent.take (r.2 + 1)) != .refused).map Prod.fst

/-- A computation that sends requests. -/
inductive Exchange (α : Type) where
  | done (value : α)
  | send (request : Request) (next : Reply → Exchange α)

namespace Exchange

variable {α β : Type}

/-- Go on from the value of an exchange. -/
def andThen (f : α → Exchange β) : Exchange α → Exchange β
  | .done a => f a
  | .send r next => .send r fun reply => andThen f (next reply)

instance : Monad Exchange where
  pure := .done
  bind x f := andThen f x

instance : LawfulMonad Exchange :=
  LawfulMonad.mk' Exchange
    (fun x => by
      induction x with
      | done a => rfl
      | send r next ih => exact congrArg (send r) (funext ih))
    (fun _ _ => rfl)
    fun x f g => by
      induction x with
      | done a => rfl
      | send r next ih => exact congrArg (send r) (funext ih)

/-- Send a request and take its reply. -/
def ask (request : Request) : Exchange Reply :=
  .send request .done

/-- Run an exchange against a gateway that has received the requests `sent`.
The requests are returned with those that the exchange added. -/
def run (gateway : Gateway) (sent : List Request) : Exchange α → α × List Request
  | .done a => (a, sent)
  | .send r next =>
    let sent := sent ++ [r]
    run gateway sent (next (gateway sent))

@[simp] theorem run_done (g : Gateway) (sent : List Request) (a : α) :
    run g sent (.done a) = (a, sent) := rfl

@[simp] theorem run_send (g : Gateway) (sent : List Request) (r : Request)
    (next : Reply → Exchange α) :
    run g sent (.send r next) = run g (sent ++ [r]) (next (g (sent ++ [r]))) := rfl

/-- Running two exchanges one after the other is running the second on what the
first has sent. -/
theorem run_andThen (g : Gateway) (sent : List Request) (x : Exchange α) (f : α → Exchange β) :
    run g sent (andThen f x) = run g (run g sent x).2 (f (run g sent x).1) := by
  induction x generalizing sent with
  | done a => rfl
  | send r next ih => exact ih _ _

@[simp] theorem run_bind (g : Gateway) (sent : List Request) (x : Exchange α)
    (f : α → Exchange β) :
    run g sent (x >>= f) = run g (run g sent x).2 (f (run g sent x).1) :=
  run_andThen g sent x f

@[simp] theorem run_pure (g : Gateway) (sent : List Request) (a : α) :
    run g sent (pure a : Exchange α) = (a, sent) := rfl

end Exchange

end Interchain
