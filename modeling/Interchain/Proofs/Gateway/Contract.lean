import Interchain.Gateway.Contract
import Interchain.Proofs.Json.Codec

/-!
# Calls of a contract

What comes of a call when its replies hold what the gateway wrote into them: a request
is sent for each phase, and a transaction whose estimate is a refusal has only one.
-/

namespace Interchain

open Codec

/-- A reply that holds a value. -/
def Reply.success {α : Type} (c : Codec α) (a : α) : Reply :=
  .answer 200 (c.toText a) ""

namespace ContractClient

variable {α : Type} {n : Nat}

/-- What is written into a reply is read from it. -/
theorem readReply_success {c : Codec α} {a : α} (h : c.Carries .text .written n a)
    (hn : n ≤ Document.Parser.maxDepth) (url : Url) :
    readReply c url (Reply.success c a) = .ok a := by
  have hbody : body url (Reply.success c a) = .ok (c.toText a) := rfl
  have hread : c.ofText (c.toText a) = .ok a := h.ofText_compact hn
  rw [readReply, hbody]
  simp only [Attempt.ok_bind, hread]
  rfl

/-- A request is sent to the address of the action, and its reply is read. -/
theorem run_post {c : ContractClient} {action : Action} {url : Url}
    (hurl : c.base.resolve? ("contracts/" ++ c.contract.text ++ "/" ++ action.label) = some url)
    (hs : url.isSendable = true) (call : CallRequest) (codec : Codec α) (g : Gateway)
    (sent : List Request) :
    (c.post action call codec).run g sent =
      (readReply codec url (g (sent ++ [⟨url, call⟩])), sent ++ [⟨url, call⟩]) := by
  simp only [post, hurl, hs, if_true]
  rfl

section Transaction

variable {ε : Type} {code : Codec ε} {c : ContractClient} {g : Gateway} {sent : List Request}
  {method : String} {args : Json} {estimate : CostEstimate ε} {url : Url}

/-- A transaction whose estimate is a refusal ends there. -/
theorem run_transaction_of_error {k : ε}
    (hurl : c.base.resolve? ("contracts/" ++ c.contract.text ++ "/" ++ Action.estimate.label) =
      some url)
    (hs : url.isSendable = true)
    (hread : readReply (CostEstimate.codec code) url
      (g (sent ++ [⟨url, c.unlimited method args⟩])) = .ok estimate)
    (hresult : estimate.result = .error k) :
    (c.transaction method args code).run g sent =
      (.error (.contract k), sent ++ [⟨url, c.unlimited method args⟩]) := by
  simp only [transaction, Exchange.run_bind, run_post hurl hs, hread, hresult]
  rfl

/-- A transaction whose estimate is no refusal is sent once more, within its limits. -/
theorem run_transaction_of_ok {j : Json} {url' : Url}
    (hurl : c.base.resolve? ("contracts/" ++ c.contract.text ++ "/" ++ Action.estimate.label) =
      some url)
    (hs : url.isSendable = true)
    (hread : readReply (CostEstimate.codec code) url
      (g (sent ++ [⟨url, c.unlimited method args⟩])) = .ok estimate)
    (hresult : estimate.result = .ok j)
    (hurl' : c.base.resolve? ("contracts/" ++ c.contract.text ++ "/" ++ Action.tx.label) =
      some url')
    (hs' : url'.isSendable = true) :
    (c.transaction method args code).run g sent =
      let sent := sent ++ [⟨url, c.unlimited method args⟩] ++
        [⟨url', c.origin, method, args, some estimate.gasRequired, estimate.storageDeposit⟩]
      (verdict (readReply (Codec.outcome code TxReceipt.codec) url' (g sent)), sent) := by
  simp only [transaction, Exchange.run_bind, run_post hurl hs, hread, hresult,
    run_post hurl' hs']
  rfl

end Transaction

end ContractClient

end Interchain
